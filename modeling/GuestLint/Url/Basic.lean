import GuestLint.Url.Host
/-!
# URLs

A URL as its parts, each in its final written form, and the texts that are read off it.

* `href`: the whole URL.
* `origin`: who a URL belongs to: scheme, host and port, for schemes that have one.
-/
namespace GuestLint

/-- What stands between `//` and the path. -/
structure Url.Authority where
  username : List Char := []
  /-- Absent and empty passwords are both possible parts of a URL; only others are written. -/
  password : List Char := []
  host : Option Url.Host := none
  /-- Absent for the usual port of a scheme. -/
  port : Option Nat := none
  deriving Repr, DecidableEq

structure Url where
  scheme : List Char
  authority : Option Url.Authority := none
  path : List Char := []
  query : Option (List Char) := none
  fragment : Option (List Char) := none
  deriving Repr, DecidableEq

namespace Url

/-- The port that a scheme uses when none is given. -/
def defaultPort (scheme : List Char) : Option Nat :=
  match String.ofList scheme with
  | "http" | "ws" => some 80
  | "https" | "wss" => some 443
  | "ftp" => some 21
  | _ => none

/-- Whether URLs of a scheme always have a host, or name files. -/
def isSpecial (scheme : List Char) : Bool :=
  (defaultPort scheme).isSome || scheme == "file".toList

def isFile (u : Url) : Bool :=
  u.scheme == "file".toList

/-- Whether the path is a plain text, so that nothing is relative to the URL. -/
def isOpaque (u : Url) : Bool :=
  u.authority.isNone && u.path.head? != some '/'

/-- The name and the password in front of a host. -/
def Authority.credentials (a : Authority) : List Char :=
  let password := if a.password.isEmpty then [] else ':' :: a.password
  if a.username.isEmpty && a.password.isEmpty then [] else a.username ++ password ++ ['@']

def Authority.hostname (a : Authority) : List Char :=
  match a.host with
  | some h => h.write
  | none => []

def Authority.portText (a : Authority) : List Char :=
  match a.port with
  | some n => Text.digits 10 n
  | none => []

def Authority.write (a : Authority) : List Char :=
  a.credentials ++ a.hostname ++ (match a.port with | some _ => ':' :: a.portText | none => [])

/-- The path behind the authority. A path that would read as an authority is kept apart by `/.`. -/
def pathPart (u : Url) : List Char :=
  match u.authority with
  | some a => '/' :: '/' :: (a.write ++ u.path)
  | none => if (Text.strip? ['/', '/'] u.path).isSome then '/' :: '.' :: u.path else u.path

/-- The URL up to its path. -/
def beforeQuery (u : Url) : List Char :=
  u.scheme ++ ':' :: u.pathPart

/-- A part behind its mark, when it is there. -/
def marked (mark : Char) (part : Option (List Char)) : List Char :=
  match part with
  | some text => mark :: text
  | none => []

def href (u : Url) : List Char :=
  u.beforeQuery ++ marked '?' u.query ++ marked '#' u.fragment

def username (u : Url) : List Char := (u.authority.map (·.username)).getD []

def password (u : Url) : List Char := (u.authority.map (·.password)).getD []

def hostname (u : Url) : List Char := (u.authority.map Authority.hostname).getD []

def port (u : Url) : List Char := (u.authority.map Authority.portText).getD []

/-- The host with its port. -/
def host (u : Url) : List Char :=
  if u.port.isEmpty then u.hostname else u.hostname ++ ':' :: u.port

end Url
end GuestLint
