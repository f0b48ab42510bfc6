import GoLayout.Document.Highlight

/-!
# Re-indenting

Every line of a document gets the leading blanks that the mode suggests for it, given the lines that
were already written.  Lines inside a string or a comment are kept as they are, and other blank lines
are emptied.  Each line keeps its terminator.
-/

namespace GoLayout

open GoLayout.Text

namespace Config

/-- The blanks that indent a line by some columns; a negative number of columns counts as none. -/
def blanks (c : Config) (columns : Int) : List Char :=
  let n := columns.toNat
  if c.indentWithTabs then
    List.replicate (n / tabWidth c.tabSize) '\t' ++ List.replicate (n % tabWidth c.tabSize) ' '
  else List.replicate n ' '

end Config

namespace Mode

/-- A line as it is written, given the state after the lines that were written before it. -/
def reindentLine (m : Mode) (s : State) (line : List Char) : List Char :=
  match m.suggestion? s line with
  | none => line
  | some columns =>
    if trimStart line = [] then [] else m.config.blanks columns ++ trimStart line

/-- The lines of a document as they are written, from a state on. -/
def reindentLines (m : Mode) : State → List Line → List Line
  | _, [] => []
  | s, line :: rest =>
    let text := m.reindentLine s line.text
    ⟨text, line.ending⟩ :: reindentLines m (m.highlightLine text s).2 rest

/-- The re-indented document. -/
def reindent (m : Mode) (document : String) : String :=
  String.ofList (unlines (m.reindentLines (m.startState 0) (terminatedLines document.toList)))

end Mode

end GoLayout
