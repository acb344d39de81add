import GuestLint.Guest.Program
import GuestLint.Text.Basic
import GuestLint.Bytes.Utf8
/-!
# Bundles and driver scripts

The sources that a run evaluates when it is given no others, and the program that a source text
stands for. Most sources are known by their whole text; beside them there are three forms that
every engine understands: a comment, an export of a text, and an error that is thrown.
-/
namespace GuestLint.Lint

open Guest (Script Step)

/-- The name under which the driver script is evaluated. -/
def scriptName : String := "script.js"

/-- The bundle that takes the place of one that was not built in. -/
def defaultBundle : String :=
  "throw new Error('rspectral bundle not built: run `npm run build` in bundle/ or set " ++
    "RSPECTRAL_DIST');\n"

/-- Waits for the bundle's results and formats them. -/
def defaultScript : String :=
  "var spectral = require('./dist/built.js');\n" ++
  "new Promise(function (resolve, reject) \x7b\n" ++
  "    spectral.lint\n" ++
  "        .then(function (output) \x7b\n" ++
  "            resolve(spectral.formatOutput(output.results, 'json', " ++
  "\x7b failSeverity: -1 \x7d, output.resolvedRuleset));\n" ++
  "        \x7d)\n" ++
  "        .catch(function (e) \x7b\n" ++
  "            reject(e);\n" ++
  "        \x7d);\n" ++
  "\x7d);\n"

/-- The text between two others, without quotes and line feeds in it. -/
def between? (start stop : String) (text : List Char) : Option (List Char) := do
  let inner ← Text.stripEnd? stop.toList (← Text.strip? start.toList text)
  if inner.any fun c => c == '\'' || c == '\n' then none else some inner

/-- The program of a source in one of the common forms. -/
def readSource (text : String) : Option Script :=
  let cs := Text.trim text.toList
  if cs = [] then some []
  else if text = defaultScript then some [.complete .formattedResults]
  else
    match between? "throw new Error('" "');" cs, between? "exports.v='" "';" cs with
    | some message, _ => some [.throwError "Error" (String.ofList message)]
    | none, some value => some [.set "v" (.text (String.ofList value))]
    | none, none =>
      if (Text.strip? "//".toList cs).isSome ∧ cs.contains '\n' = false then some [] else none

/-- The program of a source that is listed, or that has one of the common forms. -/
def compile (listed : List (String × Script)) (text : String) : Option Script :=
  match listed.lookup text with
  | some script => some script
  | none => readSource text

end GuestLint.Lint
