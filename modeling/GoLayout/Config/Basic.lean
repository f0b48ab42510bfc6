/-!
# Configurations

What an editor sets up a mode with: the columns of one indentation level, the distance of tab stops,
and whether indentation is written with tabs.  The first two must be positive.
-/

namespace GoLayout

/-- The settings of a mode. -/
structure Config where
  /-- The columns of one indentation level. -/
  indentUnit : Nat := 2
  /-- The distance of tab stops. -/
  tabSize : Nat := 4
  /-- Write indentation with tabs. -/
  indentWithTabs : Bool := false
deriving DecidableEq, Repr

/-- What is wrong with a configuration. -/
inductive Config.Defect
  | zeroIndentUnit
  | zeroTabSize
deriving DecidableEq, Repr

/-- What is said about a configuration that is not usable. -/
def Config.Defect.message : Config.Defect → String
  | .zeroIndentUnit => "indentUnit must be at least 1"
  | .zeroTabSize => "tabSize must be at least 1"

namespace Config

/-- The first defect of a configuration; the indent unit is looked at first. -/
def defect? (c : Config) : Option Defect :=
  if c.indentUnit = 0 then some .zeroIndentUnit
  else if c.tabSize = 0 then some .zeroTabSize
  else none

/-- A configuration is usable if its widths are positive. -/
structure Usable (c : Config) : Prop where
  indentUnit_pos : 0 < c.indentUnit
  tabSize_pos : 0 < c.tabSize

/-- A configuration without a defect is usable. -/
theorem defect?_eq_none_iff {c : Config} : c.defect? = none ↔ c.Usable := by
  unfold defect?
  constructor
  · intro h
    split at h
    · simp at h
    · split at h
      · simp at h
      · exact ⟨by omega, by omega⟩
  · rintro ⟨hu, ht⟩
    rw [if_neg (by omega), if_neg (by omega)]

end Config

end GoLayout
