import GoLayout.Config.Basic
import GoLayout.Json.Reader

/-!
# Configurations as JSON

A configuration is written as a JSON object with any of its three fields, each at most once and in any
order, or as an array of their values in the order of the fields.  What is missing keeps its default.
The values are checked after the whole text was read.
-/

namespace GoLayout

open GoLayout.Json

namespace Config

/-- The fields of a configuration. -/
inductive Field
  | indentUnit
  | tabSize
  | indentWithTabs
deriving DecidableEq, Repr

namespace Field

/-- The key of a field. -/
def key : Field → String
  | .indentUnit => "indentUnit"
  | .tabSize => "tabSize"
  | .indentWithTabs => "indentWithTabs"

/-- The fields in their order. -/
def all : List Field := [.indentUnit, .tabSize, .indentWithTabs]

/-- The field with a key. -/
def ofKey? (key : List Char) : Option Field := all.find? fun f => f.key.toList = key

end Field

/-- The fields that were read so far. -/
structure Draft where
  indentUnit : Option Nat := none
  tabSize : Option Nat := none
  indentWithTabs : Option Bool := none
deriving DecidableEq, Repr

namespace Draft

/-- Whether a field was read. -/
def has (d : Draft) : Field → Bool
  | .indentUnit => d.indentUnit.isSome
  | .tabSize => d.tabSize.isSome
  | .indentWithTabs => d.indentWithTabs.isSome

/-- The number of fields that were not read. -/
def missing (d : Draft) : Nat := Field.all.countP fun f => !d.has f

/-- Read the value of a field. -/
def readField (d : Draft) : Field → Reader Draft
  | .indentUnit => andThen natural fun n => yields { d with indentUnit := some n }
  | .tabSize => andThen natural fun n => yields { d with tabSize := some n }
  | .indentWithTabs => andThen boolean fun b => yields { d with indentWithTabs := some b }

/-- The configuration with the fields that were read. -/
def complete (d : Draft) : Config where
  indentUnit := d.indentUnit.getD 2
  tabSize := d.tabSize.getD 4
  indentWithTabs := d.indentWithTabs.getD false

/-- A field that is read for the first time is missing no more. -/
theorem missing_lt_of_readField {d d' : Draft} {f : Field} {s rest : List Char}
    (hf : d.has f = false) (h : d.readField f s = .ok (d', rest)) : d'.missing < d.missing := by
  obtain ⟨u, t, w⟩ := d
  cases f <;> obtain ⟨x, s', _, hd⟩ := of_andThen h <;>
    simp only [yields, Except.ok.injEq, Prod.mk.injEq] at hd <;> obtain ⟨rfl, rfl⟩ := hd <;>
    simp only [has, Option.isSome_eq_false_iff, Option.isNone_iff_eq_none] at hf <;> subst hf <;>
    simp [missing, Field.all, has, List.countP_cons]

end Draft

/-! ## The array form -/

/-- Whether an array goes on with another element. -/
def nextElement (first : Bool) : Reader Bool := fun s =>
  match skipBlanks s with
  | [] => fail .endInList []
  | c :: s =>
    if c = ']' then .ok (false, c :: s)
    else if first then .ok (true, c :: s)
    else if c = ',' then
      match skipBlanks s with
      | [] => fail .endInValue []
      | c :: s => if c = ']' then failAt .trailingComma (c :: s) else .ok (true, c :: s)
    else failAt .expectedListEnd (c :: s)

/-- Read an element, unless the array has ended. -/
def element {α : Type} (first : Bool) (p : Reader α) : Reader (Option α) :=
  andThen (nextElement first) fun more =>
    if more then andThen p fun a => yields (some a) else yields none

/-- Read the end of an array. -/
def listEnd : Reader Unit := fun s =>
  match skipBlanks s with
  | [] => fail .endInList []
  | c :: s =>
    if c = ']' then .ok ((), s)
    else if c = ',' then
      match skipBlanks s with
      | [] => fail .trailingCharacters []
      | c :: s => failAt (if c = ']' then .trailingComma else .trailingCharacters) (c :: s)
    else failAt .trailingCharacters (c :: s)

/-- Read the elements of an array and its end. -/
def listBody : Reader Draft :=
  andThen (element true natural) fun u =>
  andThen (element u.isNone natural) fun t =>
  andThen (element (u.isNone || t.isNone) boolean) fun w =>
  andThen listEnd fun _ =>
  yields ⟨u, t, w⟩

/-! ## The object form -/

/-- Whether an object goes on with another key; if so, its quote is read. -/
def nextKey (first : Bool) : Reader Bool := fun s =>
  let quoteOf (s : List Char) : Except Fault (Bool × List Char) :=
    match s with
    | [] => fail .endInValue []
    | c :: s =>
      if c = '\x22' then .ok (true, s)
      else failAt (if c = '}' ∧ ¬first then .trailingComma else .keyNotString) (c :: s)
  match skipBlanks s with
  | [] => fail .endInObject []
  | c :: s =>
    if c = '}' then .ok (false, c :: s)
    else if first then quoteOf (c :: s)
    else if c = ',' then quoteOf (skipBlanks s)
    else failAt .expectedObjectEnd (c :: s)

/-- Read the colon after a key. -/
def colon : Reader Unit := fun s =>
  match skipBlanks s with
  | [] => fail .endInObject []
  | c :: s => if c = ':' then .ok ((), s) else failAt .expectedColon (c :: s)

/-- Refuse a key that was read.  The fault stands behind the blanks after the key, and behind the brace
that closes the object, if that follows. -/
def refuseKey {α : Type} (reason : Reason) : Reader α := fun s =>
  match skipBlanks s with
  | '}' :: s => fail reason s
  | s => fail reason s

/-- Read the entries of an object up to the brace that closes it. -/
def entries (first : Bool) (d : Draft) (s : List Char) : Except Fault (Draft × List Char) :=
  match nextKey first s with
  | .error e => .error e
  | .ok (false, s) => .ok (d, s)
  | .ok (true, s) =>
    match stringBody s with
    | .error e => .error e
    | .ok (key, s) =>
      match Field.ofKey? key with
      | none => refuseKey (.unknownField key (Field.all.map Field.key)) s
      | some f =>
        if _hf : d.has f = true then refuseKey (.duplicateField f.key) s
        else
          match colon s with
          | .error e => .error e
          | .ok (_, s) =>
            match _h : d.readField f s with
            | .error e => .error e
            | .ok (d, s) => entries false d s
termination_by d.missing
decreasing_by exact Draft.missing_lt_of_readField (by simpa using _hf) _h

/-- Read the entries of an object and its end. -/
def objectBody : Reader Draft := fun s =>
  (entries true {} s).map fun r => (r.1, r.2.drop 1)

/-! ## Whole texts -/

/-- Read a configuration in one of its forms. -/
def readDraft : Reader Draft := fun s =>
  match skipBlanks s with
  | [] => fail .endInValue []
  | '[' :: s => listBody s
  | '{' :: s => objectBody s
  | s => unexpected "struct ModeConfig" s

/-- Read a text that holds a configuration and nothing else. -/
def readText (text : List Char) : Except Fault Config :=
  match readDraft text with
  | .error e => .error e
  | .ok (d, s) =>
    match skipBlanks s with
    | [] => .ok d.complete
    | c :: s => .error ⟨.trailingCharacters, c :: s, 1⟩

/-- Why a configuration cannot be used. -/
inductive Error
  | defect (d : Defect)
  | malformed (report : Report)
deriving DecidableEq, Repr

/-- What is said about a configuration that cannot be used. -/
def Error.message : Error → String
  | .defect d => d.message
  | .malformed r => "malformed config: " ++ r.message

/-- The configuration that a text holds, if it is usable. -/
def decode (text : String) : Except Error Config :=
  match readText text.toList with
  | .error e => .error (.malformed (e.report text.toList))
  | .ok c =>
    match c.defect? with
    | some d => .error (.defect d)
    | none => .ok c

end Config

end GoLayout
