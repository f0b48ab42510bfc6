import GoLayout.Registry.Table
import GoLayout.Registry.Spec

/-!
# Registries

Modes by name, and MIME types that stand for modes.  A MIME type can only be given to a mode that is
registered, so looking one up never ends at a name without a mode.
-/

namespace GoLayout

/-- Modes by name, and the names that MIME types stand for. -/
structure Registry where
  modes : Table String Spec
  mimes : Table String String
deriving Repr

/-- Why a mode cannot be found. -/
inductive Registry.Missing
  /-- No mode was given this MIME type. -/
  | mime (type : String)
  /-- No mode has this name. -/
  | mode (name : String)
deriving DecidableEq, Repr

/-- What is said about a mode that cannot be found. -/
def Registry.Missing.message : Registry.Missing → String
  | .mime type => "no mode registered for MIME type '" ++ type ++ "'"
  | .mode name => "no mode named '" ++ name ++ "'"

namespace Registry

/-- The registry without modes. -/
def empty : Registry := ⟨.empty, .empty⟩

/-- Register a mode under its name and its own MIME type. -/
def defineMode (r : Registry) (spec : Spec) : Registry :=
  ⟨r.modes.insert spec.name spec, r.mimes.insert spec.mime spec.name⟩

/-- The registry of the mode for Go. -/
def standard : Registry := empty.defineMode .go

/-- Give a further MIME type to a mode that is registered. -/
def defineMime (r : Registry) (mime name : String) : Except Missing Registry :=
  match r.modes.find? name with
  | some _ => .ok { r with mimes := r.mimes.insert mime name }
  | none => .error (.mode name)

/-- The mode with a name. -/
def mode (r : Registry) (name : String) : Except Missing Spec :=
  match r.modes.find? name with
  | some spec => .ok spec
  | none => .error (.mode name)

/-- The mode that a MIME type stands for. -/
def resolve (r : Registry) (mime : String) : Except Missing Spec :=
  match r.mimes.find? mime with
  | some name => r.mode name
  | none => .error (.mime mime)

end Registry

end GoLayout
