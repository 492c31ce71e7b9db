/-!
# Errors of the file system

The causes a file access can have, with the system's wording.
-/

namespace OneBit

inductive SystemError
  | notFound
  | permissionDenied
  | alreadyExists
  | notDirectory
  | isDirectory
  | nameTooLong
  /-- A path with a NUL character, which no system call takes. -/
  | nulInPath
  /-- Any other cause, by its number. -/
  | other (code : Nat) (text : String)
deriving DecidableEq, Repr

namespace SystemError

/-- The system's number for a cause. -/
def code? : SystemError → Option Nat
  | notFound => some 2
  | permissionDenied => some 13
  | alreadyExists => some 17
  | notDirectory => some 20
  | isDirectory => some 21
  | nameTooLong => some 36
  | nulInPath => none
  | other code _ => some code

def text : SystemError → String
  | notFound => "No such file or directory"
  | permissionDenied => "Permission denied"
  | alreadyExists => "File exists"
  | notDirectory => "Not a directory"
  | isDirectory => "Is a directory"
  | nameTooLong => "File name too long"
  | nulInPath => "file name contained an unexpected NUL byte"
  | other _ text => text

def message (e : SystemError) : String :=
  match e.code? with
  | some code => e.text ++ s!" (os error {code})"
  | none => e.text

/-- Whether the cause shows that a path names nothing. -/
def namesNothing : SystemError → Bool
  | notFound | notDirectory | nameTooLong | nulInPath => true
  | _ => false

end SystemError

end OneBit
