/-!
# Failures of file access

The reasons for which a file operation fails, with the class and the text that a caller sees.
-/
namespace GuestLint.Host

/-- The class of a failure, as callers tell failures apart. -/
inductive FailureKind where
  | notFound
  | permissionDenied
  | alreadyExists
  | isADirectory
  | notADirectory
  | invalidInput
  | invalidData
  | invalidFilename
  | filesystemLoop
  | uncategorized
  | other
  deriving Repr, DecidableEq

def FailureKind.name : FailureKind → String
  | notFound => "NotFound"
  | permissionDenied => "PermissionDenied"
  | alreadyExists => "AlreadyExists"
  | isADirectory => "IsADirectory"
  | notADirectory => "NotADirectory"
  | invalidInput => "InvalidInput"
  | invalidData => "InvalidData"
  | invalidFilename => "InvalidFilename"
  | filesystemLoop => "FilesystemLoop"
  | uncategorized => "Uncategorized"
  | other => "Other"

inductive Failure where
  | missing
  | isDirectory
  | notDirectory
  | tooManyLinks
  | nameTooLong
  /-- Opening a socket as a file. -/
  | noDevice
  | nulInName
  /-- The bytes of a file that should hold text are no text. -/
  | notText
  /-- A virtual path that is rooted, empty or not in its shortest spelling. -/
  | invalidVirtual (path : String)
  | missingVirtual (path : String)
  | missingSource (name : String)
  /-- A failure while a directory was walked. -/
  | walking (path : String) (cause : Failure)
  /-- A link that leads back to a directory which is being walked. -/
  | cycle (link ancestor : String)
  /-- Any other failure, as the host reports it. -/
  | reported (kind : FailureKind) (message : String)
  deriving Repr, DecidableEq

namespace Failure

def kind : Failure → FailureKind
  | missing => .notFound
  | isDirectory => .isADirectory
  | notDirectory => .notADirectory
  | tooManyLinks => .filesystemLoop
  | nameTooLong => .invalidFilename
  | noDevice => .uncategorized
  | nulInName => .invalidInput
  | notText => .invalidData
  | invalidVirtual _ => .notFound
  | missingVirtual _ => .notFound
  | missingSource _ => .notFound
  | walking _ cause => cause.kind
  | cycle _ _ => .other
  | reported kind _ => kind

def message : Failure → String
  | missing => "No such file or directory (os error 2)"
  | isDirectory => "Is a directory (os error 21)"
  | notDirectory => "Not a directory (os error 20)"
  | tooManyLinks => "Too many levels of symbolic links (os error 40)"
  | nameTooLong => "File name too long (os error 36)"
  | noDevice => "No such device or address (os error 6)"
  | nulInName => "file name contained an unexpected NUL byte"
  | notText => "stream did not contain valid UTF-8"
  | invalidVirtual path => "invalid virtual path: " ++ path
  | missingVirtual path => "no such file in virtual filesystem: " ++ path
  | missingSource name => "no source for module '" ++ name ++ "'"
  | walking path cause => "IO error for operation on " ++ path ++ ": " ++ cause.message
  | cycle link ancestor =>
    "File system loop found: " ++ link ++ " points to an ancestor " ++ ancestor
  | reported _ message => message

end Failure
end GuestLint.Host
