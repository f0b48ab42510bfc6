/-!
# Tables

A finite map that remembers the order in which its keys were first inserted.  Inserting a key again
replaces its value and keeps its place.
-/

namespace GoLayout

/-- A finite map in insertion order. -/
structure Table (α β : Type) where
  entries : List (α × β)
deriving Repr

namespace Table

variable {α β : Type}

/-- The table without entries. -/
def empty : Table α β := ⟨[]⟩

/-- The keys in the order of their first insertion. -/
def keys (t : Table α β) : List α := t.entries.map Prod.fst

variable [DecidableEq α]

/-- The value of a key in a list of entries. -/
def valueIn? (k : α) : List (α × β) → Option β
  | [] => none
  | e :: es => if e.1 = k then some e.2 else valueIn? k es

/-- The value of a key. -/
def find? (t : Table α β) (k : α) : Option β := valueIn? k t.entries

/-- Put a value under a key of a list of entries: in place, or at the end if the key is new. -/
def insertEntry (k : α) (v : β) : List (α × β) → List (α × β)
  | [] => [(k, v)]
  | e :: es => if e.1 = k then (k, v) :: es else e :: insertEntry k v es

/-- Put a value under a key. -/
def insert (t : Table α β) (k : α) (v : β) : Table α β := ⟨insertEntry k v t.entries⟩

@[simp] theorem find?_empty (k : α) : (empty : Table α β).find? k = none := rfl

/-- A key has the value that was put under it. -/
@[simp] theorem find?_insert_self (t : Table α β) (k : α) (v : β) :
    (t.insert k v).find? k = some v := by
  obtain ⟨es⟩ := t
  show valueIn? k (insertEntry k v es) = some v
  induction es with
  | nil => simp [insertEntry, valueIn?]
  | cons e es ih => by_cases h : e.1 = k <;> simp [insertEntry, valueIn?, h, ih]

/-- The values of the other keys are kept. -/
theorem find?_insert_of_ne (t : Table α β) {k k' : α} (v : β) (h : k' ≠ k) :
    (t.insert k v).find? k' = t.find? k' := by
  obtain ⟨es⟩ := t
  show valueIn? k' (insertEntry k v es) = valueIn? k' es
  induction es with
  | nil => simp [insertEntry, valueIn?, Ne.symm h]
  | cons e es ih => by_cases hk : e.1 = k <;> simp [insertEntry, valueIn?, hk, Ne.symm h, ih]

/-- A new key goes to the end, and a known key keeps its place. -/
theorem keys_insert (t : Table α β) (k : α) (v : β) :
    (t.insert k v).keys = if k ∈ t.keys then t.keys else t.keys ++ [k] := by
  obtain ⟨es⟩ := t
  show (insertEntry k v es).map Prod.fst
    = if k ∈ es.map Prod.fst then es.map Prod.fst else es.map Prod.fst ++ [k]
  induction es with
  | nil => simp [insertEntry]
  | cons e es ih =>
    by_cases hk : e.1 = k
    · rw [insertEntry, if_pos hk]
      simp [hk]
    · rw [insertEntry, if_neg hk, List.map_cons, ih]
      by_cases hm : k ∈ es.map Prod.fst
      · simp [hm]
      · simp [hm, Ne.symm hk]

end Table

end GoLayout
