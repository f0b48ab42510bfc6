import GoLayout.Failure

/-!
# What a run asks of its system

A run reads files and writes files, prints and complains.  It is written for any monad in which this can be
done, so that the same function runs as a program and in any file system that is given as a value.  There a
run leaves behind the files, what it has said, and the calls that it has made, in their order.
-/

namespace GoLayout.CommandLine

/-- What a run can do outside of itself. -/
class MonadSystem (m : Type → Type) where
  /-- The text of the file at a path. -/
  readFile : String → m (Except FileFault String)
  /-- Make a text the content of the file at a path. -/
  writeFile : String → String → m (Except FileFault Unit)
  /-- Print a text. -/
  print : String → m Unit
  /-- Print a complaint. -/
  complain : String → m Unit

/-- What can be done can be done where a run may fail. -/
instance {m : Type → Type} [Monad m] [MonadSystem m] {ε : Type} : MonadSystem (ExceptT ε m) where
  readFile path := liftM (MonadSystem.readFile path : m _)
  writeFile path text := liftM (MonadSystem.writeFile path text : m _)
  print text := liftM (MonadSystem.print text : m _)
  complain text := liftM (MonadSystem.complain text : m _)

/-- A file system whose states are the values of a type. -/
class FileSystem (δ : Type) where
  /-- The text of the file at a path. -/
  read : δ → String → Except FileFault String
  /-- Whether a text can be written to a path, and what becomes of the files. -/
  write : δ → String → String → Except FileFault Unit × δ

/-- A call to a file system. -/
inductive Call
  | read (path : String)
  | write (path text : String)
deriving DecidableEq, Repr

/-- What a run can see and change. -/
structure World (δ : Type) where
  /-- The files. -/
  directory : δ
  stdout : String := ""
  stderr : String := ""
  /-- The calls that were made, in their order. -/
  calls : List Call := []

namespace World

variable {δ : Type}

/-- The world in which a run starts. -/
def start (d : δ) : World δ := { directory := d }

/-- The world in which some more calls were made. -/
def noting (w : World δ) (calls : List Call) : World δ := { w with calls := w.calls ++ calls }

instance [FileSystem δ] : MonadSystem (StateM (World δ)) where
  readFile path := modifyGet fun w => (FileSystem.read w.directory path, w.noting [.read path])
  writeFile path text := modifyGet fun w =>
    let (result, directory) := FileSystem.write w.directory path text
    (result, { w.noting [.write path text] with directory })
  print text := modify fun w => { w with stdout := w.stdout ++ text }
  complain text := modify fun w => { w with stderr := w.stderr ++ text }

end World

end GoLayout.CommandLine
