import GoLayout.CommandLine.Directory
import Mathlib.Tactic.Lemma

/-!
# Writing a file

Two things are expected of a file system: a write that fails leaves no trace, and what was written to a path is read back
from it.  A directory keeps to both.  A file that is written there lies at the place to which its path leads, and the path
leads there again afterwards: on its way it goes through folders only, and all of them are still folders.
-/

namespace GoLayout.CommandLine

open GoLayout.Text

namespace FileSystem

/-- A write that fails leaves all files as they were. -/
def WritesCleanly (δ : Type) [FileSystem δ] : Prop :=
  ∀ (d : δ) (path text : String) (f : FileFault), (write d path text).1 = .error f → (write d path text).2 = d

/-- What was written to a path is read back from it. -/
def ReadsBack (δ : Type) [FileSystem δ] : Prop :=
  ∀ (d : δ) (path text : String), (write d path text).1 = .ok () → read (write d path text).2 path = .ok text

end FileSystem

namespace Directory

variable {d : Directory} {place place' target : Place} {content : ByteArray}

lemma entry_put_self (d : Directory) (place : Place) (content : ByteArray) :
    (d.put place content).entry place = .file content := by
  simp [entry, put]

/-- A folder is still one when a file was put somewhere else. -/
lemma entry_put_of_folder (h : d.entry place' = .folder) (hne : place' ≠ place) :
    (d.put place content).entry place' = .folder := by
  have hfind : (d.put place content).files.find? place' = d.files.find? place' := d.files.find?_insert_of_ne _ hne
  -- no key is lost, so every folder still leads to the file to which it led before
  have hkeys : (d.home :: d.files.keys).any place'.isPrefixOf = true →
      (d.home :: (d.put place content).files.keys).any place'.isPrefixOf = true := by
    intro hany
    obtain ⟨key, hk, hp⟩ := List.any_eq_true.1 hany
    refine List.any_eq_true.2 ⟨key, ?_, hp⟩
    rw [put, Table.keys_insert]
    split
    · exact hk
    · exact List.mem_append_left _ hk
  unfold entry at h ⊢
  rw [hfind]
  cases hf : d.files.find? place' with
  | some content' =>
    rw [hf] at h
    cases h
  | none =>
    rw [hf] at h
    dsimp only at h ⊢
    split at h
    · rename_i hany
      exact if_pos (hkeys hany)
    · cases h

lemma follow_cons_eq_ok_iff {name : Name} {names : List Name} :
    d.follow place (name :: names) = .ok place' ↔
      d.entry place = .folder ∧ utf8Length name ≤ maxNameLength ∧ d.follow (child place name) names = .ok place' := by
  rw [follow]
  cases d.entry place with
  | file content => simp
  | absent => simp
  | folder =>
    by_cases hlen : maxNameLength < utf8Length name
    · simp [hlen, Nat.not_le.2 hlen]
    · simp [hlen, Nat.not_lt.1 hlen]

/-- Where a file is put, the names that lead there still do. -/
lemma follow_put (hne : d.entry target ≠ .folder) {names : List Name}
    (h : d.follow place names = .ok place') : (d.put target content).follow place names = .ok place' := by
  induction names generalizing place with
  | nil => exact h
  | cons name names ih =>
    obtain ⟨hfolder, hlen, hrest⟩ := follow_cons_eq_ok_iff.1 h
    refine follow_cons_eq_ok_iff.2 ⟨entry_put_of_folder hfolder ?_, hlen, ih hrest⟩
    rintro rfl
    exact hne hfolder

/-- A path through a dot at its end leads to a folder. -/
lemma entry_of_follow_dot {names : List Name} (h : d.follow place (names ++ [['.']]) = .ok place') :
    d.entry place' = .folder := by
  induction names generalizing place with
  | nil =>
    obtain ⟨hfolder, -, hrest⟩ := follow_cons_eq_ok_iff.1 h
    have hplace : place = place' := by simpa [follow, child] using hrest
    exact hplace ▸ hfolder
  | cons name names ih => exact ih (follow_cons_eq_ok_iff.1 h).2.2

/-- A file is written where no folder is, and the path leads there when it is followed to read. -/
lemma locate_of_target {path : String} (h : d.target path = .ok place) :
    endsInSlash path.toList = false ∧ d.locate path.toList (names path.toList) = .ok place ∧
      d.entry place ≠ .folder := by
  unfold Directory.target at h
  cases hl : d.locate path.toList (namesForWriting path.toList) with
  | error f =>
    rw [hl] at h
    cases h
  | ok found =>
    rw [hl] at h
    dsimp only at h
    have hne : d.entry found ≠ .folder := by
      intro he
      rw [he] at h
      cases h
    obtain rfl : found = place := by
      split at h
      · cases h
      · exact Except.ok.inj h
      · exact Except.ok.inj h
    -- with a slash at its end the path would have led to a folder
    have hslash : endsInSlash path.toList = false := by
      rw [← Bool.not_eq_true]
      intro hs
      rw [namesForWriting, if_pos hs, locate] at hl
      split at hl
      · cases hl
      · exact hne (entry_of_follow_dot hl)
    rw [namesForWriting, if_neg (by simp [hslash])] at hl
    exact ⟨hslash, hl, hne⟩

lemma fromUTF8?_toUTF8 (text : String) : String.fromUTF8? text.toUTF8 = some text :=
  dif_pos text.isValidUTF8

lemma read_put_of_target {path : String} (h : d.target path = .ok place) (text : String) :
    (d.put place text.toUTF8).read path = .ok text := by
  obtain ⟨hslash, hl, hne⟩ := locate_of_target h
  have hl' : (d.put place text.toUTF8).locate path.toList (names path.toList) = .ok place := by
    unfold locate at hl ⊢
    split at hl
    · cases hl
    · rename_i hlen
      rw [if_neg hlen]
      exact follow_put hne hl
  simp only [read, hl', entry_put_self, hslash, fromUTF8?_toUTF8, Bool.false_eq_true, if_false]

lemma write_cases (d : Directory) (path text : String) :
    (∃ place, d.target path = .ok place ∧ d.write path text = (.ok (), d.put place text.toUTF8)) ∨
      ∃ f, d.target path = .error f ∧ d.write path text = (.error f, d) := by
  unfold write
  cases ht : d.target path with
  | ok place => exact .inl ⟨place, rfl, rfl⟩
  | error f => exact .inr ⟨f, rfl, rfl⟩

theorem writesCleanly : FileSystem.WritesCleanly Directory := by
  intro d path text f hf
  show (d.write path text).2 = d
  rcases d.write_cases path text with ⟨place, -, hw⟩ | ⟨f', -, hw⟩
  · have hok : (d.write path text).1 = .error f := hf
    rw [hw] at hok
    cases hok
  · rw [hw]

/-- **What was written to a path is what is read from it.** -/
theorem readsBack : FileSystem.ReadsBack Directory := by
  intro d path text hok
  show (d.write path text).2.read path = .ok text
  rcases d.write_cases path text with ⟨place, ht, hw⟩ | ⟨f, -, hw⟩
  · rw [hw]
    exact read_put_of_target ht text
  · have hf : (d.write path text).1 = .ok () := hok
    rw [hw] at hf
    cases hf

end Directory

end GoLayout.CommandLine
