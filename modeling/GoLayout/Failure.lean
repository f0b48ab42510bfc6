import GoLayout.Config.Decode
import GoLayout.Registry.Basic

/-!
# Failures

What can go wrong around a mode: its configuration cannot be used, a mode cannot be found, or a file
cannot be read or written.  Reading lines never fails.
-/

namespace GoLayout

/-- Why a file cannot be read or written. -/
inductive FileFault
  | notFound
  | notDirectory
  | isDirectory
  | nameTooLong
  /-- The bytes of the file are not the UTF-8 form of a text. -/
  | notText
  /-- Any other reason, in the words of the system. -/
  | other (reason : String)
deriving DecidableEq, Repr

/-- What is said about a file that cannot be read or written. -/
def FileFault.message : FileFault → String
  | .notFound => "No such file or directory (os error 2)"
  | .notDirectory => "Not a directory (os error 20)"
  | .isDirectory => "Is a directory (os error 21)"
  | .nameTooLong => "File name too long (os error 36)"
  | .notText => "stream did not contain valid UTF-8"
  | .other reason => reason

/-- What can go wrong around a mode. -/
inductive Failure
  | configuration (e : Config.Error)
  | lookup (m : Registry.Missing)
  | file (f : FileFault)
deriving DecidableEq, Repr

namespace Failure

/-- What is said about a failure. -/
def message : Failure → String
  | .configuration e => "invalid configuration: " ++ e.message
  | .lookup m => "mode lookup failed: " ++ m.message
  | .file f => "I/O error: " ++ f.message

/-- What is said about a failure and about each of its causes, the last cause last. -/
def chain : Failure → List String
  | .configuration e => [message (.configuration e), e.message]
  | .lookup m => [message (.lookup m), m.message]
  | .file f => [message (.file f)]

end Failure

/-- The configuration in a file, given what reading the file has led to. -/
def Config.ofFile (content : Except FileFault String) : Except Failure Config :=
  match content with
  | .error f => .error (.file f)
  | .ok text =>
    match Config.decode text with
    | .error e => .error (.configuration e)
    | .ok c => .ok c

end GoLayout
