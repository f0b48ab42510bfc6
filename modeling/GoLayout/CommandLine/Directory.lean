import GoLayout.CommandLine.System
import GoLayout.Registry.Table
import GoLayout.Text.Offset

/-!
# Directories

A tree of files as a value, with the folder that a run works in.  Every place in it is known by the names
that lead there from the root.  A path is followed name by name, from the root or from the working folder,
and every name but the last must be that of a folder.  A slash at the end asks for a folder, and a file is
neither read nor written under such a path.  All files may be read and written here, and none has two places.
-/

namespace GoLayout.CommandLine

open GoLayout.Text

/-- The name of a file or a folder. -/
abbrev Name := List Char

/-- The names that lead from the root to a file or a folder. -/
abbrev Place := List Name

/-- A tree of files. -/
structure Directory where
  /-- The folder that relative paths start from. -/
  home : Place
  /-- The contents of the files by their places. -/
  files : Table Place ByteArray

/-- What a place holds. -/
inductive Entry
  | file (content : ByteArray)
  | folder
  | absent

/-- The parts of a path between its slashes. -/
def parts (path : List Char) : List Name := path.splitOn '/'

/-- The names in a path: its parts but the empty ones. -/
def names (path : List Char) : List Name := (parts path).filter (· ≠ [])

/-- Whether a path ends in a slash. -/
def endsInSlash (path : List Char) : Bool := path.getLast? = some '/'

/-- The largest number of bytes in a name. -/
def maxNameLength : Nat := 255

/-- The largest number of bytes in a path. -/
def maxPathLength : Nat := 4095

namespace Directory

/-- The given files in a fresh working folder.  The folder lies in the root under the empty name, so that
only relative paths lead to it. -/
def ofList (files : List (String × ByteArray)) : Directory where
  home := [[]]
  files := files.foldl (fun t f => t.insert ([] :: names f.1.toList) f.2) .empty

/-- What a place holds.  The working folder and all that lead to it or to a file are folders. -/
def entry (d : Directory) (place : Place) : Entry :=
  match d.files.find? place with
  | some content => .file content
  | none => if (d.home :: d.files.keys).any place.isPrefixOf then .folder else .absent

/-- Follow one name from a folder; a dot stays there, and two dots lead to the folder around it. -/
def child (place : Place) (name : Name) : Place :=
  if name = ['.'] then place
  else if name = ['.', '.'] then place.dropLast
  else place ++ [name]

/-- Follow names from a place. -/
def follow (d : Directory) : Place → List Name → Except FileFault Place
  | place, [] => .ok place
  | place, name :: names =>
    match d.entry place with
    | .file _ => .error .notDirectory
    | .absent => .error .notFound
    | .folder =>
      if maxNameLength < utf8Length name then .error .nameTooLong
      else d.follow (child place name) names

/-- The place that the names in a path lead to. -/
def locate (d : Directory) (path : List Char) (names : List Name) : Except FileFault Place :=
  if maxPathLength < utf8Length path then .error .nameTooLong
  else d.follow (if path.head? = some '/' then [] else d.home) names

/-- The text of the file that a path leads to. -/
def read (d : Directory) (path : String) : Except FileFault String :=
  match d.locate path.toList (names path.toList) with
  | .error f => .error f
  | .ok place =>
    match d.entry place with
    | .absent => .error .notFound
    | .folder => .error .isDirectory
    | .file content =>
      if endsInSlash path.toList then .error .notDirectory
      else
        match String.fromUTF8? content with
        | some text => .ok text
        | none => .error .notText

/-- The names by which a path is followed to write a file.  A last name before a slash is not looked up:
whatever has that name, the path leads no further than to the folder around it. -/
def namesForWriting (path : List Char) : List Name :=
  if endsInSlash path then (names path).dropLast ++ [['.']] else names path

/-- Where a file is to be written that a path leads to. -/
def target (d : Directory) (path : String) : Except FileFault Place :=
  match d.locate path.toList (namesForWriting path.toList) with
  | .error f => .error f
  | .ok place =>
    match d.entry place with
    | .folder => .error .isDirectory
    | .file _ | .absent => .ok place

/-- The directory with one more file, or with another content of a file. -/
def put (d : Directory) (place : Place) (content : ByteArray) : Directory :=
  { d with files := d.files.insert place content }

/-- Write a text to a path. -/
def write (d : Directory) (path text : String) : Except FileFault Unit × Directory :=
  match d.target path with
  | .ok place => (.ok (), d.put place text.toUTF8)
  | .error f => (.error f, d)

instance : FileSystem Directory := ⟨read, write⟩

/-- The files in the working folder that have changed, by the paths that lead to them. -/
def changes (before after : Directory) : List (String × ByteArray) :=
  let changed := after.files.entries.filter fun f =>
    before.home.isPrefixOf f.1 && before.files.find? f.1 != some f.2
  changed.map fun f => (String.intercalate "/" ((f.1.drop before.home.length).map String.ofList), f.2)

end Directory

end GoLayout.CommandLine
