/-!
# Faults of a file store

The causes for which a file store refuses an operation, with their wording.
-/

namespace Scaffold.Store

/-- Why a file store refuses an operation. -/
inductive Fault where
  | notFound
  | notADirectory
  | isADirectory
  | alreadyExists
  | busy
  | nameTooLong
  | permissionDenied
  | readOnly
  | storageFull
  /-- The path holds a null character. -/
  | nullInPath
  /-- A file that should be text is not UTF-8. -/
  | notUtf8
  deriving Repr, DecidableEq

/-- The wording of a fault. -/
def Fault.message (f : Fault) : String :=
  match f with
  | .notFound => "No such file or directory (os error 2)"
  | .notADirectory => "Not a directory (os error 20)"
  | .isADirectory => "Is a directory (os error 21)"
  | .alreadyExists => "File exists (os error 17)"
  | .busy => "Device or resource busy (os error 16)"
  | .nameTooLong => "File name too long (os error 36)"
  | .permissionDenied => "Permission denied (os error 13)"
  | .readOnly => "Read-only file system (os error 30)"
  | .storageFull => "No space left on device (os error 28)"
  | .nullInPath => "file name contained an unexpected NUL byte"
  | .notUtf8 => "stream did not contain valid UTF-8"

end Scaffold.Store
