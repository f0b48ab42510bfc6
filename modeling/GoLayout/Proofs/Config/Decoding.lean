import GoLayout.Config.Encode
import GoLayout.Proofs.Json.Scalars
import GoLayout.Proofs.Json.Strings
import GoLayout.Proofs.Json.Writing
import Mathlib.Data.List.Forall2

/-!
# Decoding configurations

Which configuration an object holds does not depend on how it is laid out: on the blanks between its parts, on the
order of its members, or on how the characters of its keys are written.  The reader goes through the members one by
one.  One member is read if it gives a value to a field that has none yet, and refused otherwise, and by induction on
the members, all of them are read if they give values to different fields.
-/

namespace GoLayout.Config

open GoLayout.Json

/-! ## Settings -/

/-- A value for one of the fields. -/
inductive Setting
  | indentUnit (n : Nat)
  | tabSize (n : Nat)
  | indentWithTabs (b : Bool)
deriving DecidableEq, Repr

namespace Setting

/-- The field that gets the value. -/
def field : Setting → Field
  | .indentUnit _ => .indentUnit
  | .tabSize _ => .tabSize
  | .indentWithTabs _ => .indentWithTabs

/-- The value as JSON. -/
def text : Setting → List Char
  | .indentUnit n | .tabSize n => Nat.toDigits 10 n
  | .indentWithTabs b => (toString b).toList

/-- Whether the value has room in a word of 32 bits. -/
def Fits : Setting → Prop
  | .indentUnit n | .tabSize n => n ≤ 4294967295
  | .indentWithTabs _ => True

/-- A configuration with the value. -/
def apply (c : Config) : Setting → Config
  | .indentUnit n => { c with indentUnit := n }
  | .tabSize n => { c with tabSize := n }
  | .indentWithTabs b => { c with indentWithTabs := b }

end Setting

/-- A member of an object that gives a value to a field. -/
structure Gives (m : Member) (x : Setting) : Prop where
  key : Spells m.key x.field.key.toList
  value : m.value = x.text
  fits : x.Fits

/-- The configuration with the given values, and the defaults for the other fields. -/
def ofSettings (xs : List Setting) : Config := xs.foldl Setting.apply {}

/-! ## Drafts -/

namespace Draft

/-- A draft with a value that was read. -/
def set (d : Draft) : Setting → Draft
  | .indentUnit n => { d with indentUnit := some n }
  | .tabSize n => { d with tabSize := some n }
  | .indentWithTabs b => { d with indentWithTabs := some b }

lemma has_set (d : Draft) (x : Setting) (f : Field) : (d.set x).has f = true ↔ d.has f = true ∨ f = x.field := by
  cases x <;> cases f <;> simp [set, has, Setting.field]

lemma complete_set (d : Draft) (x : Setting) : (d.set x).complete = x.apply d.complete := by
  cases x <;> rfl

lemma complete_foldl_set (xs : List Setting) (d : Draft) :
    (xs.foldl set d).complete = xs.foldl Setting.apply d.complete := by
  induction xs generalizing d with
  | nil => rfl
  | cons x xs ih => rw [List.foldl_cons, List.foldl_cons, ih, complete_set]

variable {d d' : Draft} {a v s rest : List Char} {f : Field}

/-- The value of a field is read if it is one for this field. -/
lemma readField_value_iff (ha : IsBlanks a) (hv : IsValue v) (hs : EndsNumber s) :
    d.readField f (a ++ (v ++ s)) = .ok (d', rest) ↔
      ∃ x : Setting, x.field = f ∧ v = x.text ∧ x.Fits ∧ d' = d.set x ∧ rest = s := by
  constructor
  · intro h
    cases f with
    | indentUnit =>
      obtain ⟨n, hn, rfl⟩ := andThen_yields_iff.1 h
      obtain ⟨hform, hfits, rfl⟩ := (natural_value_iff ha hv hs).1 hn
      exact ⟨.indentUnit n, rfl, hform, hfits, rfl, rfl⟩
    | tabSize =>
      obtain ⟨n, hn, rfl⟩ := andThen_yields_iff.1 h
      obtain ⟨hform, hfits, rfl⟩ := (natural_value_iff ha hv hs).1 hn
      exact ⟨.tabSize n, rfl, hform, hfits, rfl, rfl⟩
    | indentWithTabs =>
      obtain ⟨b, hb, rfl⟩ := andThen_yields_iff.1 h
      obtain ⟨hform, rfl⟩ := (boolean_value_iff ha hv).1 hb
      exact ⟨.indentWithTabs b, rfl, hform, trivial, rfl, rfl⟩
  · rintro ⟨x, rfl, hform, hfits, rfl, rfl⟩
    cases x with
    | indentUnit n | tabSize n =>
      exact andThen_yields_iff.2 ⟨n, (natural_value_iff ha hv hs).2 ⟨hform, hfits, rfl⟩, rfl⟩
    | indentWithTabs b => exact andThen_yields_iff.2 ⟨b, (boolean_value_iff ha hv).2 ⟨hform, rfl⟩, rfl⟩

end Draft

/-! ## Keys -/

lemma ofKey?_eq_some_iff {key : List Char} {f : Field} : Field.ofKey? key = some f ↔ f.key.toList = key := by
  constructor
  · intro h
    simpa using List.find?_some h
  · rintro rfl
    cases f <;> decide

lemma refuseKey_ne_ok {α : Type} (reason : Reason) (s : List Char) (r : α × List Char) :
    refuseKey reason s ≠ .ok r := by
  intro h
  unfold refuseKey at h
  split at h <;> cases h

/-! ## One member -/

section Members

variable {first : Bool} {d : Draft} {m : Member} {ms : List Member} {s t : List Char} {r : Draft × List Char}

/-- What stands in front of a member: nothing if it is the first one, and else a comma. -/
def lead (first : Bool) : List Char := if first then [] else [',']

lemma nextKey_lead {a : List Char} (ha : IsBlanks a) (s : List Char) :
    nextKey first (lead first ++ (a ++ '\x22' :: s)) = .ok (true, s) := by
  have hquote : skipBlanks (a ++ '\x22' :: s) = '\x22' :: s := by
    rw [skipBlanks_append ha, skipBlanks_cons (by decide)]
  cases first with
  | true => simp [nextKey, lead, hquote]
  | false =>
    have hcomma : skipBlanks (',' :: (a ++ '\x22' :: s)) = ',' :: (a ++ '\x22' :: s) := skipBlanks_cons (by decide) _
    simp [nextKey, lead, hquote, hcomma]

lemma colon_append {a : List Char} (ha : IsBlanks a) (s : List Char) : colon (a ++ ':' :: s) = .ok ((), s) := by
  have hcolon : skipBlanks (a ++ ':' :: s) = ':' :: s := by rw [skipBlanks_append ha, skipBlanks_cons (by decide)]
  simp [colon, hcolon]

lemma entries_blanks {a : List Char} (ha : IsBlanks a) (s : List Char) :
    entries first d (a ++ s) = entries first d s := by
  have hnext : nextKey first (a ++ s) = nextKey first s := by rw [nextKey, nextKey, skipBlanks_append ha]
  rw [entries, entries, hnext]

lemma entries_brace (s : List Char) : entries first d ('}' :: s) = .ok (d, '}' :: s) := by
  have hnext : nextKey first ('}' :: s) = .ok (false, '}' :: s) := by
    simp [nextKey, skipBlanks_cons (show '}' ∉ [' ', '\t', '\n', '\r'] by decide)]
  rw [entries, hnext]

/-- A key, a colon and a value are read one after the other. -/
lemma entries_eq_ok_iff {s' : List Char} (h : nextKey first s = .ok (true, s')) :
    entries first d s = .ok r ↔ ∃ key s₁ f s₂ d' s₃, stringBody s' = .ok (key, s₁) ∧
      Field.ofKey? key = some f ∧ d.has f = false ∧ colon s₁ = .ok ((), s₂) ∧
      d.readField f s₂ = .ok (d', s₃) ∧ entries false d' s₃ = .ok r := by
  rw [entries, h]
  constructor
  · intro hr
    -- each part of the member may fail, and what is read goes on only if none does
    dsimp only at hr
    split at hr
    · cases hr
    · rename_i key s₁ hkey
      split at hr
      · exact absurd hr (refuseKey_ne_ok _ _ _)
      · rename_i f hf
        split at hr
        · exact absurd hr (refuseKey_ne_ok _ _ _)
        · rename_i hhas
          split at hr
          · cases hr
          · rename_i s₂ hcolon
            split at hr
            · cases hr
            · rename_i d' s₃ hread
              exact ⟨key, s₁, f, s₂, d', s₃, hkey, hf, by simpa using hhas, hcolon, hread, hr⟩
  · rintro ⟨key, s₁, f, s₂, d', s₃, hkey, hf, hhas, hcolon, hread, hr⟩
    simp only [hkey, hf]
    rw [dif_neg (by simp [hhas])]
    simp only [hcolon]
    split
    · rename_i e he
      cases hread.symm.trans he
    · rename_i d'' s' hread'
      obtain ⟨rfl, rfl⟩ := Prod.mk.inj (Except.ok.inj (hread.symm.trans hread'))
      exact hr

/-- **A member is read if and only if it gives a value to a field that has none yet.** -/
lemma entries_member_iff (hm : IsMember m t) (hs : EndsNumber s) :
    entries first d (lead first ++ (t ++ s)) = .ok r ↔
      ∃ x, Gives m x ∧ d.has x.field = false ∧ entries false (d.set x) s = .ok r := by
  cases hm with
  | @mk _ a b c e ha hk hb hc hv he =>
    have htext : a ++ '\x22' :: m.key ++ '\x22' :: b ++ ':' :: c ++ m.value ++ e ++ s =
        a ++ '\x22' :: (m.key ++ '\x22' :: (b ++ ':' :: (c ++ (m.value ++ (e ++ s))))) := by simp
    have hvalue : EndsNumber (e ++ s) := endsNumber_append he hs
    -- the key, the colon and the value are read by the lemmas on each of them
    rw [htext, entries_eq_ok_iff (nextKey_lead ha _)]
    constructor
    · rintro ⟨key, s₁, f, s₂, d', s₃, hkey, hf, hhas, hcolon, hread, hr⟩
      obtain ⟨key, hspells, heq⟩ := exists_spells_of_stringBody hk hkey
      obtain ⟨rfl, rfl⟩ := Prod.mk.inj heq
      rw [colon_append hb] at hcolon
      obtain ⟨-, rfl⟩ := Prod.mk.inj (Except.ok.inj hcolon)
      obtain ⟨x, rfl, hform, hfits, rfl, rfl⟩ := (Draft.readField_value_iff hc hv hvalue).1 hread
      rw [← ofKey?_eq_some_iff.1 hf] at hspells
      rw [entries_blanks he] at hr
      exact ⟨x, ⟨hspells, hform, hfits⟩, hhas, hr⟩
    · rintro ⟨x, hx, hhas, hr⟩
      refine ⟨_, _, _, _, _, _, stringBody_of_spells hx.key _, ofKey?_eq_some_iff.2 rfl, hhas, colon_append hb _,
        (Draft.readField_value_iff hc hv hvalue).2 ⟨x, rfl, hx.value, hx.fits, rfl, rfl⟩, ?_⟩
      rwa [entries_blanks he]

/-- The members give values to different fields, and the draft has none of them yet. -/
structure GivesAll (d : Draft) (ms : List Member) (xs : List Setting) : Prop where
  gives : List.Forall₂ Gives ms xs
  nodup : (xs.map Setting.field).Nodup
  free : ∀ x ∈ xs, d.has x.field = false

lemma givesAll_nil_iff {xs : List Setting} : GivesAll d [] xs ↔ xs = [] := by
  refine ⟨fun h => List.forall₂_nil_left_iff.1 h.gives, ?_⟩
  rintro rfl
  exact ⟨.nil, by simp, by simp⟩

lemma givesAll_cons_iff {x : Setting} {xs : List Setting} :
    GivesAll d (m :: ms) (x :: xs) ↔ Gives m x ∧ d.has x.field = false ∧ GivesAll (d.set x) ms xs := by
  have hfree : ∀ y : Setting, (d.set x).has y.field = false ↔ d.has y.field = false ∧ y.field ≠ x.field := by
    intro y
    rw [← Bool.not_eq_true, Draft.has_set, not_or, Bool.not_eq_true]
  constructor
  · rintro ⟨hgives, hnodup, hhas⟩
    obtain ⟨hx, hxs⟩ := List.forall₂_cons.1 hgives
    rw [List.map_cons, List.nodup_cons] at hnodup
    rw [List.forall_mem_cons] at hhas
    refine ⟨hx, hhas.1, hxs, hnodup.2, fun y hy => (hfree y).2 ⟨hhas.2 y hy, fun heq => hnodup.1 ?_⟩⟩
    exact heq ▸ List.mem_map_of_mem hy
  · rintro ⟨hx, hhas, hgives, hnodup, hall⟩
    refine ⟨.cons hx hgives, List.nodup_cons.2 ⟨fun hmem => ?_, hnodup⟩,
      List.forall_mem_cons.2 ⟨hhas, fun y hy => ?_⟩⟩
    · obtain ⟨y, hy, heq⟩ := List.mem_map.1 hmem
      exact ((hfree y).1 (hall y hy)).2 heq
    · exact ((hfree y).1 (hall y hy)).1

/-- A member in front of members that are read if and only if they give values. -/
lemma entries_cons_iff {rest : List Char} (hm : IsMember m t) (hs : EndsNumber s)
    (htail : ∀ d, entries false d s = .ok r ↔ ∃ xs, GivesAll d ms xs ∧ r = (xs.foldl Draft.set d, rest)) :
    entries first d (lead first ++ (t ++ s)) = .ok r ↔
      ∃ xs, GivesAll d (m :: ms) xs ∧ r = (xs.foldl Draft.set d, rest) := by
  rw [entries_member_iff hm hs]
  constructor
  · rintro ⟨x, hx, hhas, hr⟩
    obtain ⟨xs, hxs, rfl⟩ := (htail _).1 hr
    exact ⟨x :: xs, givesAll_cons_iff.2 ⟨hx, hhas, hxs⟩, rfl⟩
  · rintro ⟨_ | ⟨x, xs⟩, hxs, rfl⟩
    · cases hxs.gives
    · obtain ⟨hx, hhas, hxs⟩ := givesAll_cons_iff.1 hxs
      exact ⟨x, hx, hhas, (htail _).2 ⟨xs, hxs, rfl⟩⟩

/-- **The members of an object are read if and only if they give values to different fields.** -/
lemma entries_members_iff (h : IsMembers ms t) (rest : List Char) :
    entries first d (lead first ++ (t ++ '}' :: rest)) = .ok r ↔
      ∃ xs, GivesAll d ms xs ∧ r = (xs.foldl Draft.set d, '}' :: rest) := by
  -- on the members and not on the derivation, which goes through the values as well
  induction ms generalizing t first d with
  | nil => cases h
  | cons m ms ih =>
    cases h with
    | last hm =>
      refine entries_cons_iff hm (by rintro _ ⟨⟩; decide) fun d => ?_
      simp [entries_brace, givesAll_nil_iff, eq_comm]
    | @cons _ _ t u hm hms =>
      rw [List.append_assoc]
      exact entries_cons_iff hm (by rintro _ ⟨⟩; decide) fun d => @ih false d u hms

/-! ## Whole texts -/

lemma entries_object_iff {object : List Char} (h : IsObject ms object) : ∃ t, object = '{' :: t ++ ['}'] ∧
    ∀ rest r, entries true {} (t ++ '}' :: rest) = .ok r ↔
      ∃ xs, GivesAll {} ms xs ∧ r = (xs.foldl Draft.set {}, '}' :: rest) := by
  cases h with
  | @empty b hb =>
    refine ⟨b, rfl, fun rest r => ?_⟩
    rw [entries_blanks hb, entries_brace]
    simp [givesAll_nil_iff, eq_comm]
  | @members _ t h => exact ⟨t, rfl, fun rest r => @entries_members_iff true {} ms t r h rest⟩

/-- **A text that holds an object is read if and only if its members give values to different fields.** -/
lemma readText_eq_ok_iff {text : List Char} {c : Config} (h : HoldsObject ms text) : readText text = .ok c ↔
    ∃ xs, List.Forall₂ Gives ms xs ∧ (xs.map Setting.field).Nodup ∧ c = ofSettings xs := by
  cases h with
  | @mk a object b ha h hb =>
    obtain ⟨t, rfl, hentries⟩ := entries_object_iff h
    -- the blanks in front of the object are skipped, and then its brace is
    have hdraft : readDraft (a ++ ('{' :: t ++ ['}']) ++ b) = objectBody (t ++ '}' :: b) := by
      have hskip : skipBlanks (a ++ ('{' :: t ++ ['}']) ++ b) = '{' :: (t ++ '}' :: b) := by
        rw [List.append_assoc, skipBlanks_append ha]
        simp [skipBlanks_cons (show '{' ∉ [' ', '\t', '\n', '\r'] by decide)]
      simp only [readDraft, hskip]
    have hok : ∀ {d : Draft}, entries true {} (t ++ '}' :: b) = .ok (d, '}' :: b) →
        readText (a ++ ('{' :: t ++ ['}']) ++ b) = .ok d.complete := by
      intro d hd
      rw [readText, hdraft, objectBody, hd]
      simp [Except.map, skipBlanks_of_isBlanks hb]
    constructor
    · intro hc
      rcases hr : entries true {} (t ++ '}' :: b) with e | r
      · rw [readText, hdraft, objectBody, hr] at hc
        cases hc
      · obtain ⟨xs, hxs, rfl⟩ := (hentries b r).1 hr
        obtain rfl := Except.ok.inj ((hok hr).symm.trans hc)
        exact ⟨xs, hxs.gives, hxs.nodup, Draft.complete_foldl_set xs {}⟩
    · rintro ⟨xs, hgives, hnodup, rfl⟩
      have hfree : ∀ x ∈ xs, Draft.has {} x.field = false := fun x _ => by cases x <;> rfl
      rw [hok ((hentries b _).2 ⟨xs, ⟨hgives, hnodup, hfree⟩, rfl⟩), Draft.complete_foldl_set]
      rfl

end Members

/-! ## Unknown keys and keys that are given twice -/

section Refused

variable {ms : List Member} {xs : List Setting}

lemma exists_gives_of_mem {m : Member} (h : List.Forall₂ Gives ms xs) (hm : m ∈ ms) : ∃ x ∈ xs, Gives m x := by
  induction h with
  | nil => cases hm
  | cons hx _ ih =>
    rcases List.mem_cons.1 hm with rfl | hm
    · exact ⟨_, List.mem_cons_self, hx⟩
    · obtain ⟨y, hy, hgives⟩ := ih hm
      exact ⟨y, List.mem_cons_of_mem _ hy, hgives⟩

lemma field_eq_of_spells {m : Member} {x : Setting} {f : Field} (hx : Gives m x) (hf : Spells m.key f.key.toList) :
    x.field = f := by
  have hkey : Field.ofKey? x.field.key.toList = some f := ofKey?_eq_some_iff.2 (hf.unique hx.key)
  exact Option.some.inj ((ofKey?_eq_some_iff.2 rfl).symm.trans hkey)

lemma pairwise_of_gives (h : List.Forall₂ Gives ms xs) (hnodup : (xs.map Setting.field).Nodup) :
    ms.Pairwise fun m₁ m₂ => ∀ f : Field, Spells m₁.key f.key.toList → ¬Spells m₂.key f.key.toList := by
  induction h with
  | nil => exact .nil
  | cons hx hxs ih =>
    rw [List.map_cons, List.nodup_cons] at hnodup
    refine .cons (fun m₂ hm₂ f hf₁ hf₂ => hnodup.1 ?_) (ih hnodup.2)
    obtain ⟨y, hy, hgives⟩ := exists_gives_of_mem hxs hm₂
    rw [field_eq_of_spells hx hf₁, ← field_eq_of_spells hgives hf₂]
    exact List.mem_map_of_mem hy

end Refused

/-! ## Configurations that were written -/

/-- The value of a field. -/
def setting (c : Config) : Field → Setting
  | .indentUnit => .indentUnit c.indentUnit
  | .tabSize => .tabSize c.tabSize
  | .indentWithTabs => .indentWithTabs c.indentWithTabs

/-- The values of all fields, in their order. -/
def settings (c : Config) : List Setting := Field.all.map c.setting

lemma ofSettings_settings (c : Config) : ofSettings c.settings = c := rfl

lemma nodup_settings (c : Config) : (c.settings.map Setting.field).Nodup := by
  have hfields : c.settings.map Setting.field = Field.all := rfl
  rw [hfields]
  decide

lemma text_setting (c : Config) (f : Field) (level : Nat) : (c.fieldJson f level).toList = (c.setting f).text := by
  cases f with
  | indentUnit | tabSize => simp [fieldJson, number, setting, Setting.text]
  | indentWithTabs =>
    simp only [fieldJson, Json.bool, setting, Setting.text]
    cases c.indentWithTabs <;> rfl

lemma isValue_text (x : Setting) : IsValue x.text := by
  cases x with
  | indentUnit n | tabSize n => exact .number (toDigits_mem_numberExpr n)
  | indentWithTabs b => exact isValue_toString b

/-- What is written of a configuration holds an object whose members give the values of its fields. -/
lemma holdsObject_encode {c : Config} (hfits : ∀ f, (c.setting f).Fits) :
    ∃ ms, HoldsObject ms c.encode.toList ∧ List.Forall₂ Gives ms c.settings := by
  have hvalue : ∀ e ∈ Field.all.map fun f => (f.key, c.fieldJson f), IsValue (e.2 1).toList := by
    intro e he
    obtain ⟨f, -, rfl⟩ := List.mem_map.1 he
    rw [text_setting]
    exact isValue_text _
  have hnone : IsBlanks [] := by decide
  have hholds := HoldsObject.mk hnone (isObject_object _ 0 hvalue) hnone
  rw [List.nil_append, List.append_nil] at hholds
  refine ⟨_, hholds, ?_⟩
  rw [List.map_map, List.forall₂_map_left_iff, settings, List.forall₂_map_right_iff, List.forall₂_same]
  intro f _
  have hfield : (c.setting f).field = f := by cases f <;> rfl
  refine ⟨?_, text_setting c f _, hfits f⟩
  rw [hfield]
  exact spells_flatMap_escapeChar _

/-! ## Decoding -/

section Decode

variable {ms : List Member} {xs : List Setting} {text : String} {c : Config}

lemma decode_of_gives (h : HoldsObject ms text.toList) (hgives : List.Forall₂ Gives ms xs)
    (hnodup : (xs.map Setting.field).Nodup) :
    decode text = if (ofSettings xs).indentUnit = 0 then .error (.defect .zeroIndentUnit)
      else if (ofSettings xs).tabSize = 0 then .error (.defect .zeroTabSize)
      else .ok (ofSettings xs) := by
  have hread : readText text.toList = .ok (ofSettings xs) := (readText_eq_ok_iff h).2 ⟨xs, hgives, hnodup, rfl⟩
  rw [decode, hread]
  simp only [defect?]
  split_ifs <;> rfl

lemma decode_of_gives_settings (hc : c.Usable) (h : HoldsObject ms text.toList)
    (hgives : List.Forall₂ Gives ms c.settings) : decode text = .ok c := by
  rw [decode_of_gives h hgives c.nodup_settings, ofSettings_settings, if_neg hc.indentUnit_pos.ne',
    if_neg hc.tabSize_pos.ne']

/-- Whatever is wrong with the members, it is found before the values are looked at. -/
lemma exists_malformed (h : HoldsObject ms text.toList)
    (hno : ∀ xs, List.Forall₂ Gives ms xs → ¬(xs.map Setting.field).Nodup) :
    ∃ report, decode text = .error (.malformed report) := by
  rcases hr : readText text.toList with e | c
  · exact ⟨_, by rw [decode, hr]⟩
  · obtain ⟨xs, hgives, hnodup, -⟩ := (readText_eq_ok_iff h).1 hr
    exact absurd hnodup (hno xs hgives)

end Decode

/-- **An object of settings is decoded to them.**  If the members of an object give values to different fields, then
these are taken, and defaults for the other fields, and a unit of zero is reported before a tab size of zero.  If some
key is not that of a field, or two keys are those of the same one, then the text is malformed, whatever its values are.
So a configuration is read from what is written of it. -/
theorem decode_holdsObject :
    (∀ (ms : List Member) (text : String), HoldsObject ms text.toList →
      (∀ xs, List.Forall₂ Gives ms xs → (xs.map Setting.field).Nodup →
        decode text =
          if (ofSettings xs).indentUnit = 0 then .error (.defect .zeroIndentUnit)
          else if (ofSettings xs).tabSize = 0 then .error (.defect .zeroTabSize)
          else .ok (ofSettings xs)) ∧
      ((∃ m ∈ ms, ∀ f : Field, ¬Spells m.key f.key.toList) ∨
          (∃ m₁ m₂ : Member, [m₁, m₂].Sublist ms ∧
            ∃ f : Field, Spells m₁.key f.key.toList ∧ Spells m₂.key f.key.toList) →
        ∃ report, decode text = .error (.malformed report))) ∧
    ∀ c : Config, c.Usable → c.indentUnit ≤ 4294967295 → c.tabSize ≤ 4294967295 →
      (∀ (ms : List Member) (text : String), HoldsObject ms text.toList → List.Forall₂ Gives ms c.settings →
        decode text = .ok c) ∧
      decode c.encode = .ok c := by
  refine ⟨fun ms text h => ⟨fun xs hgives hnodup => decode_of_gives h hgives hnodup, fun hrefused => ?_⟩,
    fun c hc hunit htab => ?_⟩
  · refine exists_malformed h fun xs hgives hnodup => ?_
    -- members that give values to different fields have known keys, which are all different
    rcases hrefused with ⟨m, hm, hunknown⟩ | ⟨m₁, m₂, hsub, f, hf₁, hf₂⟩
    · obtain ⟨x, -, hx⟩ := exists_gives_of_mem hgives hm
      exact hunknown _ hx.key
    · exact List.pairwise_iff_forall_sublist.1 (pairwise_of_gives hgives hnodup) hsub f hf₁ hf₂
  · have hfits : ∀ f, (c.setting f).Fits := by
      rintro (_ | _ | _)
      · exact hunit
      · exact htab
      · trivial
    obtain ⟨ms, h, hgives⟩ := holdsObject_encode hfits
    exact ⟨fun ms text => decode_of_gives_settings hc, decode_of_gives_settings hc h hgives⟩

/-- Two settings of zero, in another order than that of the fields and with blanks and an escape; a key that is given
twice, and one that is not known; and a configuration that is written and read. -/
theorem decode_zeros :
    decode "\n\x7b \"tabSize\" :\t0 ,\"\\u0069ndentUnit\":0\x7d " = .error (.defect .zeroIndentUnit) ∧
      (∃ report, decode "\x7b\"\\u0069ndentUnit\":0, \"tabSize\" :\t0 , \"tabSize\" :\t0 \x7d" =
        .error (.malformed report)) ∧
      (∃ report, decode "\x7b\"\\u0069ndentUnit\":0,\"x\":[null]\x7d" = .error (.malformed report)) ∧
      decode (encode ⟨8, 3, true⟩) = .ok ⟨8, 3, true⟩ := by
  obtain ⟨hobjects, hconfigs⟩ := decode_holdsObject
  have hnone : IsBlanks [] := by decide
  have hspace : IsBlanks [' '] := by decide
  have hzero : IsValue ['0'] := isValue_text (.tabSize 0)
  have hlist : IsValue "[null]".toList := .array (.last hnone .null hnone)
  have htab : Spells "tabSize".toList "tabSize".toList := spells_flatMap_escapeChar "tabSize".toList
  have hx : Spells "x".toList "x".toList := spells_flatMap_escapeChar "x".toList
  have hunit : Spells "\\u0069ndentUnit".toList "indentUnit".toList := by
    have h0 : HexDigit '0' 0 := .inl (by decide)
    have h6 : HexDigit '6' 6 := .inl (by decide)
    have h9 : HexDigit '9' 9 := .inl (by decide)
    exact .unit (.mk h0 h0 h6 h9) (.inl (by decide)) (spells_flatMap_escapeChar "ndentUnit".toList)
  have hunknown : ∀ f : Field, ¬Spells "x".toList f.key.toList := by
    intro f hf
    have hkey : ∀ f : Field, "x".toList ≠ f.key.toList := by rintro (_ | _ | _) <;> decide
    exact hkey f (hx.unique hf)
  have htabText : IsMember ⟨"tabSize".toList, ['0']⟩ " \"tabSize\" :\t0 ".toList :=
    .mk (c := ['\t']) hspace htab.isString hspace (by decide) hzero hspace
  have hunitText : IsMember ⟨"\\u0069ndentUnit".toList, ['0']⟩ "\"\\u0069ndentUnit\":0".toList :=
    .mk hnone hunit.isString hnone hnone hzero hnone
  have hxText : IsMember ⟨"x".toList, "[null]".toList⟩ "\"x\":[null]".toList :=
    .mk hnone hx.isString hnone hnone hlist hnone
  have hgivesTab : Gives ⟨"tabSize".toList, ['0']⟩ (.tabSize 0) := ⟨htab, rfl, Nat.zero_le _⟩
  have hgivesUnit : Gives ⟨"\\u0069ndentUnit".toList, ['0']⟩ (.indentUnit 0) := ⟨hunit, rfl, Nat.zero_le _⟩
  refine ⟨?_, ?_, ?_, ?_⟩
  · have h := (hobjects _ "\n\x7b \"tabSize\" :\t0 ,\"\\u0069ndentUnit\":0\x7d "
      (.mk (a := ['\n']) (by decide) (.members (.cons htabText (.last hunitText))) hspace)).1
    exact h [.tabSize 0, .indentUnit 0] (.cons hgivesTab (.cons hgivesUnit .nil)) (by decide)
  · have h := (hobjects _ "\x7b\"\\u0069ndentUnit\":0, \"tabSize\" :\t0 , \"tabSize\" :\t0 \x7d"
      (.mk hnone (.members (.cons hunitText (.cons htabText (.last htabText)))) hnone)).2
    exact h (.inr ⟨_, _, .cons _ (.refl _), .tabSize, htab, htab⟩)
  · have h := (hobjects _ "\x7b\"\\u0069ndentUnit\":0,\"x\":[null]\x7d"
      (.mk hnone (.members (.cons hunitText (.last hxText))) hnone)).2
    exact h (.inl ⟨_, .tail _ (.head _), hunknown⟩)
  · exact (hconfigs ⟨8, 3, true⟩ ⟨by decide, by decide⟩ (by decide) (by decide)).2

end GoLayout.Config
