import GuestLint.Text.Basic
import GuestLint.Text.Unseen
/-!
# Quoted texts for messages

A text between double quotes in which everything that would not show is escaped: the usual short
escapes, and `\u` with the code in braces for characters that have no glyph of their own.
-/
namespace GuestLint.Text

/-- A character inside double quotes. -/
def quoteChar (c : Char) : List Char :=
  if c = '"' then ['\\', '"']
  else if c = '\\' then ['\\', '\\']
  else if c = '\n' then ['\\', 'n']
  else if c = '\r' then ['\\', 'r']
  else if c = '\t' then ['\\', 't']
  else if c = Char.ofNat 0 then ['\\', '0']
  else if isSeen c then [c]
  else '\\' :: 'u' :: Char.ofNat 0x7B :: (digits 16 c.toNat ++ [Char.ofNat 0x7D])

/-- A text between double quotes. -/
def quoted (text : String) : String :=
  String.ofList ('"' :: (text.toList.flatMap quoteChar ++ ['"']))

end GuestLint.Text
