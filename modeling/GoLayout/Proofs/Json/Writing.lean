import GoLayout.Json.Writer
import GoLayout.Proofs.Json.Grammar

/-!
# Writing JSON

What is written is JSON: a string is spelled by what stands between its quotes, and an object has its entries as
members, whatever stands in the strings and at whatever level the object is laid out.
-/

namespace GoLayout.Json

/-! ## Strings -/

lemma Spells.isString {t s : List Char} (h : Spells t s) : IsString t := by
  induction h with
  | nil => exact .nil
  | plain hc _ ih => exact .plain hc ih
  | short he _ ih => exact .short he ih
  | unit hq _ _ ih => exact .unit hq ih
  | pair hq _ hq' _ _ ih => exact .unit hq (.unit hq' ih)

/-- A control is written with two hexadecimal digits. -/
lemma hexQuad_control {n : Nat} (hn : n < 0x20) : HexQuad ['0', '0', hexDigit (n / 16), hexDigit n] n := by
  have hdigits : ∀ n < 0x20, HexDigit (hexDigit (n / 16)) (n / 16) ∧ HexDigit (hexDigit n) (n % 16) := by
    unfold HexDigit
    decide
  have hvalue : Nat.ofDigits 16 [n % 16, n / 16, 0, 0] = n := by
    simp only [Nat.ofDigits_cons, Nat.ofDigits_nil]
    push_cast
    omega
  have hzero : HexDigit '0' 0 := .inl (by decide)
  have h := HexQuad.mk hzero hzero (hdigits n hn).1 (hdigits n hn).2
  rwa [hvalue] at h

lemma spells_escapeChar (c : Char) {t s : List Char} (h : Spells t s) : Spells (escapeChar c ++ t) (c :: s) := by
  unfold escapeChar
  split_ifs with hquote hbackspace hfeed hline hreturn htab hcontrol
  · rcases hquote with rfl | rfl
    · exact .short .quote h
    · exact .short .backslash h
  · exact hbackspace ▸ .short .backspace h
  · exact hfeed ▸ .short .formFeed h
  · exact hline ▸ .short .lineFeed h
  · exact hreturn ▸ .short .carriageReturn h
  · exact htab ▸ .short .tab h
  · have hunit := Spells.unit (hexQuad_control hcontrol) (.inl (by omega)) h
    rwa [Char.ofNat_toNat] at hunit
  · rw [not_or] at hquote
    exact .plain ⟨hquote.1, hquote.2, by omega⟩ h

/-- **What is written of a string spells it.** -/
lemma spells_flatMap_escapeChar (s : List Char) : Spells (s.flatMap escapeChar) s := by
  induction s with
  | nil => exact .nil
  | cons c s ih =>
    rw [List.flatMap_cons]
    exact spells_escapeChar c ih

/-! ## Objects -/

lemma isBlanks_lineStart (level : Nat) : IsBlanks (lineStart level).toList := by
  intro c hc
  rw [lineStart, String.toList_ofList, List.mem_cons, List.mem_replicate] at hc
  rcases hc with rfl | ⟨-, rfl⟩ <;> decide

/-- An entry as a member. -/
def entryMember (level : Nat) (e : String × Layout) : Member := ⟨e.1.toList.flatMap escapeChar, (e.2 level).toList⟩

/-- An entry on a line of its own. -/
def entryLine (level : Nat) (e : String × Layout) : String :=
  lineStart level ++ (string e.1 level ++ ": " ++ e.2 level)

variable {level : Nat} {es : List (String × Layout)}

lemma isMember_entryLine {e : String × Layout} (hv : IsValue (e.2 level).toList) {b : List Char} (hb : IsBlanks b) :
    IsMember (entryMember level e) ((entryLine level e).toList ++ b) := by
  have hnone : IsBlanks [] := by decide
  have hspace : IsBlanks [' '] := by decide
  have hkey : IsString (entryMember level e).key := (spells_flatMap_escapeChar e.1.toList).isString
  have h := IsMember.mk (isBlanks_lineStart level) hkey hnone hspace hv hb
  simpa [entryLine, entryMember, string] using h

/-- The entries on lines of their own, with commas between them. -/
lemma isMembers_intercalate (hes : es ≠ []) (hv : ∀ e ∈ es, IsValue (e.2 level).toList) {b : List Char}
    (hb : IsBlanks b) :
    IsMembers (es.map (entryMember level)) ((String.intercalate "," (es.map (entryLine level))).toList ++ b) := by
  induction es with
  | nil => exact absurd rfl hes
  | cons e es ih =>
    obtain ⟨he, hv⟩ := List.forall_mem_cons.1 hv
    cases es with
    | nil =>
      simpa using IsMembers.last (isMember_entryLine he hb)
    | cons e' es =>
      have h := IsMembers.cons (isMember_entryLine he (b := []) (by decide)) (ih (by simp) hv)
      simpa using h

/-- **An object is written with its entries as members.** -/
lemma isObject_object (es : List (String × Layout)) (level : Nat) (hv : ∀ e ∈ es, IsValue (e.2 (level + 1)).toList) :
    IsObject (es.map (entryMember (level + 1))) (object es level).toList := by
  cases es with
  | nil =>
    have htext : (object [] level).toList = '{' :: [] ++ ['}'] := by simp [object, enclose]
    rw [htext]
    exact .empty (b := []) (by decide)
  | cons e es =>
    have htext : (object (e :: es) level).toList =
        '{' :: ((String.intercalate "," ((e :: es).map (entryLine (level + 1)))).toList ++
          (lineStart level).toList) ++ ['}'] := by
      simp [object, enclose, entryLine, Function.comp_def]
    rw [htext]
    exact .members (isMembers_intercalate (by simp) hv (isBlanks_lineStart level))

end GoLayout.Json
