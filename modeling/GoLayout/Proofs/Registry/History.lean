import GoLayout.Registry.Basic
import Mathlib.Data.List.Induction

/-!
# The history of a registry

A registry is filled by calls, and each of its tables is a list of entries that the calls have put there, one after another.
Which entries these are can be told from the calls alone: a mode that is defined adds one to both lists, and a further MIME
type is added if a mode was defined under the name before.

So all a registry tells can be told from its history: a MIME type stands for the name that it was given last, and this name
for the mode that was defined last under it.
-/

namespace GoLayout

/-! ## Tables that are filled one entry after another -/

namespace Table

variable {α β : Type} [DecidableEq α] {e : α × β} {l : List (α × β)}

/-- The table that is filled with entries, one after another. -/
def ofEntries (l : List (α × β)) : Table α β := l.foldl (fun t e => t.insert e.1 e.2) .empty

lemma ofEntries_concat (l : List (α × β)) (e : α × β) : ofEntries (l ++ [e]) = (ofEntries l).insert e.1 e.2 := by
  simp [ofEntries]

lemma find?_ofEntries (l : List (α × β)) (k : α) : (ofEntries l).find? k = l.reverse.lookup k := by
  induction l using List.reverseRecOn with
  | nil => rfl
  | append_singleton l e ih =>
    rw [ofEntries_concat, List.reverse_concat, List.lookup_cons]
    by_cases hk : k = e.1
    · subst hk
      rw [find?_insert_self, beq_self_eq_true]
    · rw [find?_insert_of_ne _ _ hk, ih, beq_false_of_ne hk]

/-- The keys are listed in the order of their first entries. -/
lemma keys_ofEntries (l : List (α × β)) : (ofEntries l).keys = (l.map Prod.fst).eraseDups := by
  induction l using List.reverseRecOn with
  | nil => rfl
  | append_singleton l e ih =>
    rw [ofEntries_concat, keys_insert, ih, List.map_append, List.map_singleton, List.eraseDups_append]
    by_cases hk : e.1 ∈ l.map Prod.fst
    · simp [List.removeAll, hk]
    · simp [List.removeAll, hk, List.eraseDups_cons]

lemma nodup_keys_ofEntries (l : List (α × β)) : (ofEntries l).keys.Nodup := by
  induction l using List.reverseRecOn with
  | nil => exact List.nodup_nil
  | append_singleton l e ih =>
    rw [ofEntries_concat, keys_insert]
    split
    · exact ih
    · rename_i hk
      refine List.nodup_append.2 ⟨ih, by simp, fun k hk' k' hk'' heq => ?_⟩
      exact hk (List.mem_singleton.1 hk'' ▸ heq ▸ hk')

lemma find?_of_mem_entries {t : Table α β} (hd : t.keys.Nodup) (he : e ∈ t.entries) : t.find? e.1 = some e.2 := by
  obtain ⟨es⟩ := t
  change (es.map Prod.fst).Nodup at hd
  change valueIn? e.1 es = some e.2
  change e ∈ es at he
  induction es with
  | nil => cases he
  | cons e' es ih =>
    obtain ⟨hnot, hd⟩ := List.nodup_cons.1 hd
    rcases List.mem_cons.1 he with rfl | he
    · simp [valueIn?]
    · have hne : e'.1 ≠ e.1 := fun h => hnot (h ▸ List.mem_map_of_mem he)
      rw [valueIn?, if_neg hne]
      exact ih hd he

end Table

namespace Registry

/-- What may change a registry. -/
inductive Call
  | defineMode (spec : Spec)
  | defineMime (mime name : String)
deriving DecidableEq, Repr

/-- The registry after a call; a call that is refused changes nothing. -/
def perform (r : Registry) : Call → Registry
  | .defineMode spec => r.defineMode spec
  | .defineMime mime name =>
    match r.defineMime mime name with
    | .ok r' => r'
    | .error _ => r

/-- The registry after some calls. -/
def performAll (r : Registry) (calls : List Call) : Registry := calls.foldl perform r

/-! ## What calls put into the tables -/

/-- The modes that calls define, by their names. -/
def definitions : List Call → List (String × Spec)
  | [] => []
  | .defineMode spec :: calls => (spec.name, spec) :: definitions calls
  | .defineMime _ _ :: calls => definitions calls

/-- The MIME types that calls give to modes, and the names of these modes, when modes with the names `known` are defined
before. -/
def associationsAfter (known : List String) : List Call → List (String × String)
  | [] => []
  | .defineMode spec :: calls => (spec.mime, spec.name) :: associationsAfter (known ++ [spec.name]) calls
  | .defineMime mime name :: calls =>
    if name ∈ known then (mime, name) :: associationsAfter known calls else associationsAfter known calls

/-- The MIME types that calls give to modes, and the names of these modes. -/
def associations (calls : List Call) : List (String × String) := associationsAfter [] calls

/-- The mode that was defined last under a name. -/
def latestMode? (calls : List Call) (name : String) : Option Spec := (definitions calls).reverse.lookup name

/-- The name that was given to a MIME type last. -/
def latestName? (calls : List Call) (mime : String) : Option String := (associations calls).reverse.lookup mime

variable {r : Registry} {calls : List Call} {known : List String} {mime name : String}

lemma definitions_append (calls calls' : List Call) :
    definitions (calls ++ calls') = definitions calls ++ definitions calls' := by
  induction calls with
  | nil => rfl
  | cons c calls ih => cases c <;> simp [definitions, ih]

lemma associationsAfter_append (known : List String) (calls calls' : List Call) :
    associationsAfter known (calls ++ calls') =
      associationsAfter known calls ++ associationsAfter (known ++ (definitions calls).map Prod.fst) calls' := by
  induction calls generalizing known with
  | nil => simp [associationsAfter, definitions]
  | cons c calls ih =>
    cases c with
    | defineMode spec => simp [associationsAfter, definitions, ih]
    | defineMime mime name =>
      by_cases hn : name ∈ known <;> simp [associationsAfter, definitions, hn, ih]

lemma associations_append (calls calls' : List Call) :
    associations (calls ++ calls') =
      associations calls ++ associationsAfter ((definitions calls).map Prod.fst) calls' :=
  associationsAfter_append [] calls calls'

/-- MIME types are given to modes only that are defined. -/
lemma mem_definitions_of_mem_associationsAfter {e : String × String} (he : e ∈ associationsAfter known calls) :
    e.2 ∈ known ++ (definitions calls).map Prod.fst := by
  induction calls generalizing known with
  | nil => cases he
  | cons c calls ih =>
    cases c with
    | defineMode spec =>
      rcases List.mem_cons.1 he with rfl | he
      · simp [definitions]
      · simpa [definitions] using ih he
    | defineMime mime name =>
      rw [associationsAfter] at he
      split at he
      · rename_i hn
        rcases List.mem_cons.1 he with rfl | he
        · exact List.mem_append_left _ hn
        · exact ih he
      · exact ih he

lemma isSome_latestMode?_iff : (latestMode? calls name).isSome ↔ name ∈ (definitions calls).map Prod.fst := by
  simp only [latestMode?, List.lookup_isSome_iff, List.mem_reverse, List.mem_map, beq_iff_eq]
  exact exists_congr fun e => and_congr_right fun _ => eq_comm

lemma isSome_latestName?_iff : (latestName? calls mime).isSome ↔ mime ∈ (associations calls).map Prod.fst := by
  simp only [latestName?, List.lookup_isSome_iff, List.mem_reverse, List.mem_map, beq_iff_eq]
  exact exists_congr fun e => and_congr_right fun _ => eq_comm

/-- **The tables of a registry are the entries that its calls have put there.** -/
lemma performAll_empty (calls : List Call) :
    performAll .empty calls = ⟨.ofEntries (definitions calls), .ofEntries (associations calls)⟩ := by
  induction calls using List.reverseRecOn with
  | nil => rfl
  | append_singleton calls c ih =>
    have hstep : performAll .empty (calls ++ [c]) = perform (performAll .empty calls) c := by
      simp [performAll]
    rw [hstep, ih, definitions_append, associations_append]
    cases c with
    | defineMode spec =>
      simp only [perform, defineMode, definitions, associationsAfter, Table.ofEntries_concat]
    | defineMime mime name =>
      have hmode : (Table.ofEntries (definitions calls)).find? name = latestMode? calls name := Table.find?_ofEntries _ _
      simp only [perform, defineMime, hmode, definitions, associationsAfter, ← isSome_latestMode?_iff, List.append_nil]
      cases latestMode? calls name with
      | none => simp
      | some spec => simp [Table.ofEntries_concat]

/-! ## What a registry tells -/

/-- A registry tells what its history says. -/
structure Tells (r : Registry) (calls : List Call) : Prop where
  /-- A MIME type is unknown if no call has given it to a mode. -/
  unknown : ∀ mime, r.resolve mime = .error (.mime mime) ↔ mime ∉ (associations calls).map Prod.fst
  /-- Any other MIME type stands for the mode defined last under the name that it was given last. -/
  known : ∀ mime ∈ (associations calls).map Prod.fst, ∃ name spec, latestName? calls mime = some name ∧
    latestMode? calls name = some spec ∧ r.resolve mime = .ok spec
  /-- No MIME type stands for a name without a mode. -/
  resolve_ne : ∀ mime name, r.resolve mime ≠ .error (.mode name)
  /-- A MIME type is refused for a name under which no mode was defined, and nothing changes then. -/
  refused : ∀ mime name, name ∉ (definitions calls).map Prod.fst →
    r.defineMime mime name = .error (.mode name) ∧ r.perform (.defineMime mime name) = r
  /-- A MIME type is accepted for every other name. -/
  accepted : ∀ mime name, name ∈ (definitions calls).map Prod.fst → ∃ r', r.defineMime mime name = .ok r'
  /-- The MIME types are listed once each, in the order in which they first were given to a mode. -/
  keys_mimes : r.mimes.keys = ((associations calls).map Prod.fst).eraseDups ∧ r.mimes.keys.Nodup
  /-- Each is listed with the name that it was given last. -/
  entries_mimes : ∀ e ∈ r.mimes.entries, latestName? calls e.1 = some e.2

lemma resolve_performAll (calls : List Call) (mime : String) :
    (performAll .empty calls).resolve mime =
      match latestName? calls mime with
      | some name => (latestMode? calls name).elim (.error (.mode name)) .ok
      | none => .error (.mime mime) := by
  have hmode : ∀ name, (Table.ofEntries (definitions calls)).find? name = latestMode? calls name :=
    Table.find?_ofEntries _
  have hname : (Table.ofEntries (associations calls)).find? mime = latestName? calls mime := Table.find?_ofEntries _ _
  simp only [performAll_empty, resolve, mode, hmode, hname]
  cases latestName? calls mime with
  | none => rfl
  | some name =>
    dsimp only
    cases latestMode? calls name <;> rfl

lemma exists_latestMode? (h : latestName? calls mime = some name) : ∃ spec, latestMode? calls name = some spec := by
  obtain ⟨l, l', hl, -⟩ := List.lookup_eq_some_iff.1 h
  have hmem : (mime, name) ∈ associations calls := by
    rw [← List.mem_reverse, hl]
    exact List.mem_append_right _ (List.mem_cons_self ..)
  exact Option.isSome_iff_exists.1 (isSome_latestMode?_iff.2 (mem_definitions_of_mem_associationsAfter hmem))

/-- A registry that was empty before its calls tells what they say. -/
lemma tells_performAll_empty (calls : List Call) : Tells (performAll .empty calls) calls where
  unknown := by
    intro mime
    rw [resolve_performAll, ← isSome_latestName?_iff]
    cases hn : latestName? calls mime with
    | none => simp
    | some name =>
      obtain ⟨spec, hs⟩ := exists_latestMode? hn
      simp [hs]
  known := by
    intro mime hm
    obtain ⟨name, hn⟩ := Option.isSome_iff_exists.1 (isSome_latestName?_iff.2 hm)
    obtain ⟨spec, hs⟩ := exists_latestMode? hn
    refine ⟨name, spec, hn, hs, ?_⟩
    rw [resolve_performAll, hn]
    simp [hs]
  resolve_ne := by
    intro mime name
    rw [resolve_performAll]
    cases hn : latestName? calls mime with
    | none => simp
    | some name' =>
      obtain ⟨spec, hs⟩ := exists_latestMode? hn
      simp [hs]
  refused := by
    intro mime name hn
    rw [← isSome_latestMode?_iff, Option.not_isSome_iff_eq_none, latestMode?, ← Table.find?_ofEntries] at hn
    have herr : (performAll .empty calls).defineMime mime name = .error (.mode name) := by
      simp only [performAll_empty, defineMime, hn]
    exact ⟨herr, by simp only [perform, herr]⟩
  accepted := by
    intro mime name hn
    rw [← isSome_latestMode?_iff, latestMode?, ← Table.find?_ofEntries] at hn
    obtain ⟨spec, hs⟩ := Option.isSome_iff_exists.1 hn
    simp only [performAll_empty, defineMime, hs]
    exact ⟨_, rfl⟩
  keys_mimes := by
    rw [performAll_empty]
    exact ⟨Table.keys_ofEntries _, Table.nodup_keys_ofEntries _⟩
  entries_mimes := by
    rw [performAll_empty]
    intro e he
    exact (Table.find?_ofEntries _ _).symm.trans (Table.find?_of_mem_entries (Table.nodup_keys_ofEntries _) he)

/-- **A registry tells what its history says**, whether it was empty at the start or had the mode for Go; the latter is a
history that starts with the definition of this mode. -/
theorem tells_performAll (calls : List Call) :
    Tells (performAll .empty calls) calls ∧ Tells (performAll .standard calls) (.defineMode .go :: calls) :=
  ⟨tells_performAll_empty calls, tells_performAll_empty (.defineMode .go :: calls)⟩

end Registry

end GoLayout
