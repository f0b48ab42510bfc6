import GoLayout.Json.Reader
import GoLayout.Proofs.Json.Grammar

/-!
# Reading numbers and truth values

What the readers of blanks, of numbers of 32 bits and of truth values make of the texts of the grammar.  A natural
number is read from its decimal form and from nothing else: a sign, a point or an exponent makes another number of
it, and more digits than a word has room for make it a decimal.  The texts are followed by anything that does not go
on with a number.
-/

namespace GoLayout.Json

variable {a v s rest : List Char} {n : Nat}

lemma andThen_yields_iff {α β : Type} {p : Reader α} {f : α → β} {y : β} :
    andThen p (fun x => yields (f x)) s = .ok (y, rest) ↔ ∃ x, p s = .ok (x, rest) ∧ y = f x := by
  constructor
  · intro h
    obtain ⟨x, s', hx, hy⟩ := of_andThen h
    obtain ⟨rfl, rfl⟩ := Prod.mk.inj (Except.ok.inj hy)
    exact ⟨x, hx, rfl⟩
  · rintro ⟨x, hx, rfl⟩
    rw [andThen, hx]
    rfl

/-! ## Blanks -/

lemma isJsonBlank_iff {c : Char} : isJsonBlank c = true ↔ c ∈ [' ', '\t', '\n', '\r'] := by
  simp only [isJsonBlank, Bool.or_eq_true, beq_iff_eq, List.mem_cons, List.not_mem_nil, or_false]
  tauto

lemma skipBlanks_append (ha : IsBlanks a) (s : List Char) : skipBlanks (a ++ s) = skipBlanks s :=
  List.dropWhile_append_of_pos fun c hc => isJsonBlank_iff.2 (ha c hc)

lemma skipBlanks_of_isBlanks (ha : IsBlanks a) : skipBlanks a = [] := by
  rw [← List.append_nil a, skipBlanks_append ha]
  rfl

lemma skipBlanks_cons {c : Char} (hc : c ∉ [' ', '\t', '\n', '\r']) (s : List Char) :
    skipBlanks (c :: s) = c :: s := by
  rw [← isJsonBlank_iff] at hc
  exact List.dropWhile_cons_of_neg hc

/-! ## Digits -/

lemma ofDigitChars_cons_digitValue (d : Char) (ds : List Char) (n : Nat) :
    Nat.ofDigitChars 10 (d :: ds) n = Nat.ofDigitChars 10 ds (n * 10 + digitValue d) := by
  rw [Nat.ofDigitChars_cons, mul_comm]
  rfl

lemma le_ofDigitChars (ds : List Char) (n : Nat) : n ≤ Nat.ofDigitChars 10 ds n := by
  induction ds generalizing n with
  | nil => exact le_refl n
  | cons d ds ih =>
    rw [ofDigitChars_cons_digitValue]
    exact le_trans (by omega) (ih _)

lemma startsWithDigit_cons (c : Char) (s : List Char) : startsWithDigit (c :: s) = c.isDigit := by
  simp [startsWithDigit]

/-- Digits are read to their end if their number is within the limit. -/
lemma digitsWithin_append {limit : Nat} {ds : List Char} (hds : ∀ d ∈ ds, d.isDigit = true)
    (hle : Nat.ofDigitChars 10 ds n ≤ limit) (hs : startsWithDigit s = false) :
    digitsWithin limit n (ds ++ s) = (Nat.ofDigitChars 10 ds n, ds.length, s) := by
  induction ds generalizing n with
  | nil =>
    cases s with
    | nil => rfl
    | cons c s =>
      rw [startsWithDigit_cons] at hs
      simp [digitsWithin, hs]
  | cons d ds ih =>
    obtain ⟨hd, hds⟩ := List.forall_mem_cons.1 hds
    rw [ofDigitChars_cons_digitValue] at hle ⊢
    have hfits : n * 10 + digitValue d ≤ limit := (le_ofDigitChars ds _).trans hle
    simp [digitsWithin, hd, hfits, ih hds hle]

/-- If their number is beyond the limit, some digits are left. -/
lemma startsWithDigit_of_limit_lt {limit : Nat} {ds : List Char} (hds : ∀ d ∈ ds, d.isDigit = true) (hn : n ≤ limit)
    (hlt : limit < Nat.ofDigitChars 10 ds n) (s : List Char) :
    startsWithDigit (digitsWithin limit n (ds ++ s)).2.2 = true := by
  induction ds generalizing n with
  | nil => exact absurd hlt (not_lt.2 hn)
  | cons d ds ih =>
    obtain ⟨hd, hds⟩ := List.forall_mem_cons.1 hds
    rw [ofDigitChars_cons_digitValue] at hlt
    by_cases hfits : n * 10 + digitValue d ≤ limit
    · simpa [digitsWithin, hd, hfits] using ih hds hfits hlt
    · simp [digitsWithin, hd, hfits, startsWithDigit]

lemma isDigit_of_mem_toDigits {d : Char} (hd : d ∈ Nat.toDigits 10 n) : d.isDigit = true :=
  Nat.isDigit_of_mem_toDigits (by decide) (by decide) hd

lemma exists_isDigit_toDigits (n : Nat) :
    ∃ d ds, Nat.toDigits 10 n = d :: ds ∧ d.isDigit = true ∧ (0 < n → d ≠ '0') := by
  rcases Nat.eq_zero_or_pos n with rfl | hn
  · exact ⟨'0', [], rfl, rfl, fun h => absurd h (lt_irrefl 0)⟩
  · obtain ⟨d, hd, ds, -, heq⟩ := exists_toDigits_eq_cons hn
    have hno : ∀ d ∈ "123456789".toList, d ≠ '0' := forall_mem_of_all (by decide)
    exact ⟨d, ds, heq, isDigit_of_mem_toDigits (heq ▸ List.mem_cons_self), fun _ => hno d hd⟩

/-! ## Integers and decimals -/

/-- What was read is no integer. -/
def NoInteger (x : Except Fault (Number × List Char)) : Prop := ∀ i rest, x ≠ .ok (.integer i, rest)

lemma noInteger_decimal (negative : Bool) (digits : Nat) (power : Int) (s : List Char) :
    NoInteger (decimal negative digits power s) := by
  intro i rest h
  rcases hx : Decimal.Binary64.ofDecimal? digits power with _ | x <;> rw [decimal, hx] at h <;> cases h

lemma noInteger_exponent (negative : Bool) (digits : Nat) (power : Int) (s : List Char) :
    NoInteger (exponent negative digits power s) := by
  intro i rest h
  simp only [exponent] at h
  split at h
  · cases h
  · split at h
    · cases h
    · split at h
      · split at h <;> cases h
      · exact noInteger_decimal _ _ _ _ i rest h

lemma noInteger_decimalEnd (negative : Bool) (digits : Nat) (power : Int) (s : List Char) :
    NoInteger (decimalEnd negative digits power s) := by
  intro i rest h
  unfold decimalEnd at h
  split at h
  · exact noInteger_exponent _ _ _ _ i rest h
  · exact noInteger_decimal _ _ _ _ i rest h

lemma noInteger_fraction (negative : Bool) (digits : Nat) (power : Int) (s : List Char) :
    NoInteger (fraction negative digits power s) := by
  intro i rest h
  simp only [fraction] at h
  split at h
  · split at h <;> cases h
  · exact noInteger_decimalEnd _ _ _ _ i rest h

/-- A text that does not go on with a number. -/
def EndsNumber (s : List Char) : Prop := ∀ c ∈ s.head?, c.isDigit = false ∧ c ≠ '.' ∧ c ≠ 'e' ∧ c ≠ 'E'

lemma endsNumber_append (ha : IsBlanks a) (hs : EndsNumber s) : EndsNumber (a ++ s) := by
  cases a with
  | nil => exact hs
  | cons c a =>
    have hno : ∀ c ∈ [' ', '\t', '\n', '\r'], c.isDigit = false ∧ c ≠ '.' ∧ c ≠ 'e' ∧ c ≠ 'E' :=
      forall_mem_of_all (by decide)
    rintro _ ⟨⟩
    exact hno c (ha c List.mem_cons_self)

lemma EndsNumber.startsWithDigit_eq_false (hs : EndsNumber s) : startsWithDigit s = false := by
  cases s with
  | nil => rfl
  | cons c s => rw [startsWithDigit_cons, (hs c rfl).1]

/-- An integer without a sign ends where the text does not go on with a number. -/
lemma numberEnd_eq_integer_iff {i : Int} (hs : startsWithDigit s = false) :
    numberEnd false n s = .ok (.integer i, rest) ↔ (n : Int) = i ∧ s = rest ∧ EndsNumber s := by
  cases s with
  | nil => simp [numberEnd, startsWithMark, EndsNumber]
  | cons c s =>
    rw [startsWithDigit_cons] at hs
    by_cases hpoint : c = '.'
    · simp [numberEnd, hpoint, EndsNumber, noInteger_fraction _ _ _ _ i rest]
    · by_cases hmark : c = 'e' ∨ c = 'E'
      · have hends : ¬EndsNumber (c :: s) := fun h => hmark.elim (h c rfl).2.2.1 (h c rfl).2.2.2
        simp [numberEnd, hpoint, startsWithMark, hmark, hends, noInteger_exponent _ _ _ _ i rest]
      · have hends : EndsNumber (c :: s) := by
          rintro _ ⟨⟩
          exact ⟨hs, hpoint, not_or.1 hmark⟩
        simp [numberEnd, hpoint, startsWithMark, hmark, hends]

/-! ## Numbers without a sign -/

/-- What is read of the decimal form of a number that has room among the exact digits. -/
lemma unsigned_toDigits (hn : n ≤ maxExact) (hs : startsWithDigit s = false) (negative : Bool) :
    unsigned negative (Nat.toDigits 10 n ++ s) = numberEnd negative n s := by
  rcases Nat.eq_zero_or_pos n with rfl | hpos
  · simp [unsigned, hs]
  · have hle : Nat.ofDigitChars 10 (Nat.toDigits 10 n) 0 ≤ maxExact := by rwa [Nat.ofDigitChars_ten_toDigits]
    have hread := digitsWithin_append (fun d hd => isDigit_of_mem_toDigits hd) hle hs
    rw [Nat.ofDigitChars_ten_toDigits] at hread
    obtain ⟨d, ds, heq, hdigit, hzero⟩ := exists_isDigit_toDigits n
    rw [heq, List.cons_append] at hread ⊢
    rw [unsigned, if_neg (hzero hpos), if_neg (by simp [hdigit]), hread]
    simp [hs]

/-- A number that has no room among the exact digits is a decimal. -/
lemma noInteger_unsigned_toDigits (hn : maxExact < n) (negative : Bool) (s : List Char) :
    NoInteger (unsigned negative (Nat.toDigits 10 n ++ s)) := by
  intro i rest h
  have hlt : maxExact < Nat.ofDigitChars 10 (Nat.toDigits 10 n) 0 := by rwa [Nat.ofDigitChars_ten_toDigits]
  have hleft := startsWithDigit_of_limit_lt (fun d hd => isDigit_of_mem_toDigits hd) (Nat.zero_le _) hlt s
  obtain ⟨d, ds, heq, hdigit, hzero⟩ := exists_isDigit_toDigits n
  rw [heq, List.cons_append] at h hleft
  simp only [unsigned, if_neg (hzero (Nat.zero_lt_of_lt hn)), hdigit, not_true_eq_false, if_false, hleft, if_true] at h
  split at h
  · exact noInteger_fraction _ _ _ _ i rest h
  · exact noInteger_decimalEnd _ _ _ _ i rest h

/-- An integer behind a sign is negative. -/
lemma neg_of_unsigned_true {i : Int} (h : unsigned true s = .ok (.integer i, rest)) : i < 0 := by
  -- only the end of the digits gives an integer, and there the sign makes it negative
  have hend : ∀ {n : Nat} {s : List Char}, numberEnd true n s = .ok (.integer i, rest) → i < 0 := by
    intro n s h
    simp only [numberEnd] at h
    split at h
    · exact absurd h (noInteger_fraction _ _ _ _ i rest)
    · split at h
      · exact absurd h (noInteger_exponent _ _ _ _ i rest)
      · rw [if_neg (by simp)] at h
        split at h
        · have hi := Found.integer.inj (Prod.mk.inj (Except.ok.inj h)).1
          omega
        · exact absurd h (noInteger_decimal _ _ _ _ i rest)
  cases s with
  | nil => cases h
  | cons c s =>
    simp only [unsigned] at h
    split at h
    · split at h
      · cases h
      · exact hend h
    · split at h
      · cases h
      · split at h
        · split at h
          · exact absurd h (noInteger_fraction _ _ _ _ i rest)
          · exact absurd h (noInteger_decimalEnd _ _ _ _ i rest)
        · exact hend h

/-! ## Values by their first character -/

/-- Every value is a word, a number, or starts with a quote, a bracket or a brace. -/
lemma shape_of_isValue (h : IsValue v) :
    v ∈ [['n', 'u', 'l', 'l'], ['t', 'r', 'u', 'e'], ['f', 'a', 'l', 's', 'e']] ∨
      v ∈ numberExpr.matches' ∨ ∃ c ∈ ['\x22', '[', '{'], ∃ u, v = c :: u := by
  cases h with
  | null | true | false => exact .inl (by decide)
  | number h => exact .inr (.inl h)
  | string => exact .inr (.inr ⟨'\x22', by decide, _, rfl⟩)
  | emptyArray | array => exact .inr (.inr ⟨'[', by decide, _, rfl⟩)
  | object h =>
    cases h with
    | empty | members => exact .inr (.inr ⟨'{', by decide, _, rfl⟩)

/-- A number starts with its sign or with a digit. -/
lemma exists_cons_of_mem_numberExpr (h : v ∈ numberExpr.matches') :
    ∃ c u, v = c :: u ∧ (c = '-' ∨ c.isDigit = true) := by
  rcases exists_of_mem_numberExpr h with hsign | ⟨n, scale, rfl, -⟩
  · obtain ⟨u, rfl⟩ := List.head?_eq_some_iff.1 hsign
    exact ⟨_, u, rfl, .inl rfl⟩
  · obtain ⟨d, ds, heq, hdigit, -⟩ := exists_isDigit_toDigits n
    exact ⟨d, ds ++ scale, by rw [heq, List.cons_append], .inr hdigit⟩

/-- No value starts with a blank. -/
lemma exists_cons_of_isValue (h : IsValue v) : ∃ c u, v = c :: u ∧ c ∉ [' ', '\t', '\n', '\r'] := by
  rcases shape_of_isValue h with hword | hnumber | ⟨c, hc, u, rfl⟩
  · simp only [List.mem_cons, List.not_mem_nil, or_false] at hword
    rcases hword with rfl | rfl | rfl <;> exact ⟨_, _, rfl, by decide⟩
  · obtain ⟨c, u, rfl, hc⟩ := exists_cons_of_mem_numberExpr hnumber
    refine ⟨c, u, rfl, fun hblank => ?_⟩
    have hno : ∀ c ∈ [' ', '\t', '\n', '\r'], ¬(c = '-' ∨ c.isDigit = true) := forall_mem_of_all (by decide)
    exact hno c hblank hc
  · have hno : ∀ c ∈ ['\x22', '[', '{'], c ∉ [' ', '\t', '\n', '\r'] := forall_mem_of_all (by decide)
    exact ⟨c, u, rfl, hno c hc⟩

lemma skipBlanks_value (ha : IsBlanks a) (hv : IsValue v) (s : List Char) :
    skipBlanks (a ++ (v ++ s)) = v ++ s := by
  obtain ⟨c, u, rfl, hc⟩ := exists_cons_of_isValue hv
  rw [skipBlanks_append ha, List.cons_append, skipBlanks_cons hc]

/-! ## The readers of scalars -/

/-- A value of another kind is always refused. -/
lemma unexpected_ne_ok {α : Type} (expected : String) (s : List Char) (r : α × List Char) :
    unexpected expected s ≠ .ok r := by
  have hwrong : ∀ {p : Reader Found} {reason : Found → Reason} {s : List Char},
      (andThen p fun x => fail (reason x)) s ≠ .ok r := by
    intro p reason s h
    obtain ⟨x, rest, -, hx⟩ := of_andThen h
    cases hx
  intro h
  simp only [unexpected] at h
  split at h
  · cases h
  · cases h
  · split at h
    · exact hwrong h
    · exact hwrong h
    · exact hwrong h
    · exact hwrong h
    · cases h
    · cases h
    · cases h

lemma natural_eq_ok_iff : natural s = .ok (n, rest) ↔
    number? (skipBlanks s) = some (.ok (.integer n, rest)) ∧ n ≤ 4294967295 := by
  simp only [natural]
  constructor
  · intro h
    split at h
    · cases h
    · split at h
      · rename_i i r hi
        split at h
        · rename_i hrange
          obtain ⟨rfl, rfl⟩ := Prod.mk.inj (Except.ok.inj h)
          rw [hi, Int.toNat_of_nonneg hrange.1]
          exact ⟨rfl, by omega⟩
        · cases h
      · cases h
      · cases h
      · exact absurd h (unexpected_ne_ok _ _ _)
  · rintro ⟨h, hn⟩
    have hne : skipBlanks s ≠ [] := by
      intro hnil
      rw [hnil] at h
      cases h
    rw [if_neg hne, h]
    simp [hn]

lemma number?_toDigits (n : Nat) (s : List Char) :
    number? (Nat.toDigits 10 n ++ s) = some (unsigned false (Nat.toDigits 10 n ++ s)) := by
  obtain ⟨d, ds, heq, hdigit, -⟩ := exists_isDigit_toDigits n
  have hsign : d ≠ '-' := by
    rintro rfl
    cases hdigit
  rw [heq, List.cons_append, number?, if_neg (by simpa using hsign), if_pos (by rwa [startsWithDigit_cons])]

/-- What follows the digits of an integer is no part of a number. -/
lemma of_unsigned_eq_integer {scale : List Char} {i : Int} (hscale : scale ∈ scaleExpr.matches') (hs : EndsNumber s)
    (h : unsigned false (Nat.toDigits 10 n ++ (scale ++ s)) = .ok (.integer i, rest)) :
    scale = [] ∧ n ≤ maxExact ∧ (n : Int) = i ∧ rest = s := by
  have hmarks := head?_of_mem_scaleExpr hscale
  have hdigit : startsWithDigit (scale ++ s) = false := by
    cases scale with
    | nil => exact hs.startsWithDigit_eq_false
    | cons c scale =>
      rw [List.cons_append, startsWithDigit_cons]
      rcases hmarks c rfl with rfl | rfl | rfl <;> rfl
  by_cases hn : n ≤ maxExact
  · rw [unsigned_toDigits hn hdigit, numberEnd_eq_integer_iff hdigit] at h
    obtain ⟨hi, hrest, hends⟩ := h
    obtain rfl : scale = [] := by
      cases scale with
      | nil => rfl
      | cons c scale =>
        obtain ⟨-, hno⟩ := hends c rfl
        rcases hmarks c rfl with hc | hc | hc <;> simp [hc] at hno
    exact ⟨rfl, hn, hi, hrest.symm⟩
  · exact absurd h (noInteger_unsigned_toDigits (not_le.1 hn) _ _ _ _)

/-- A value that is read as a natural number is its decimal form. -/
lemma number?_value_iff (hv : IsValue v) (hs : EndsNumber s) :
    number? (v ++ s) = some (.ok (.integer n, rest)) ↔ v = Nat.toDigits 10 n ∧ n ≤ maxExact ∧ rest = s := by
  constructor
  · intro h
    have hnumber : v ∈ numberExpr.matches' := by
      rcases shape_of_isValue hv with hword | hnumber | ⟨c, hc, u, rfl⟩
      · simp only [List.mem_cons, List.not_mem_nil, or_false] at hword
        rcases hword with rfl | rfl | rfl <;> cases h
      · exact hnumber
      · simp only [List.mem_cons, List.not_mem_nil, or_false] at hc
        rcases hc with rfl | rfl | rfl <;> cases h
    -- no natural number has a sign, and digits behind an integer end it
    rcases exists_of_mem_numberExpr hnumber with hsign | ⟨m, scale, rfl, hscale⟩
    · obtain ⟨u, rfl⟩ := List.head?_eq_some_iff.1 hsign
      have hneg := neg_of_unsigned_true (Option.some.inj h)
      omega
    · rw [List.append_assoc, number?_toDigits, Option.some_inj] at h
      obtain ⟨rfl, hm, hi, hrest⟩ := of_unsigned_eq_integer hscale hs h
      obtain rfl : m = n := by exact_mod_cast hi
      exact ⟨List.append_nil _, hm, hrest⟩
  · rintro ⟨rfl, hn, rfl⟩
    rw [number?_toDigits, unsigned_toDigits hn hs.startsWithDigit_eq_false]
    exact congrArg some ((numberEnd_eq_integer_iff hs.startsWithDigit_eq_false).2 ⟨rfl, rfl, hs⟩)

/-- **A natural number of 32 bits is read from its decimal form, and from no other value.** -/
lemma natural_value_iff (ha : IsBlanks a) (hv : IsValue v) (hs : EndsNumber s) :
    natural (a ++ (v ++ s)) = .ok (n, rest) ↔ v = Nat.toDigits 10 n ∧ n ≤ 4294967295 ∧ rest = s := by
  rw [natural_eq_ok_iff, skipBlanks_value ha hv, number?_value_iff hv hs]
  have hexact : 4294967295 ≤ maxExact := by decide
  constructor
  · rintro ⟨⟨hform, -, hrest⟩, hn⟩
    exact ⟨hform, hn, hrest⟩
  · rintro ⟨hform, hn, hrest⟩
    exact ⟨⟨hform, hn.trans hexact, hrest⟩, hn⟩

lemma boolean_text (ha : IsBlanks a) (x : Bool) (s : List Char) :
    boolean (a ++ ((toString x).toList ++ s)) = .ok (x, s) := by
  simp only [boolean, skipBlanks_value ha (isValue_toString x)]
  cases x <;> rfl

lemma boolean_ne_ok {c : Char} (ha : IsBlanks a) (hv : IsValue (c :: v)) (ht : c ≠ 't') (hf : c ≠ 'f')
    (r : Bool × List Char) : boolean (a ++ (c :: v ++ s)) ≠ .ok r := by
  intro h
  simp only [boolean, skipBlanks_value ha hv] at h
  split at h
  · cases h
  · rename_i heq
    exact ht (List.cons.inj heq).1
  · rename_i heq
    exact hf (List.cons.inj heq).1
  · exact unexpected_ne_ok _ _ _ h

/-- **A truth value is read from its word, and from no other value.** -/
lemma boolean_value_iff (ha : IsBlanks a) (hv : IsValue v) {x : Bool} :
    boolean (a ++ (v ++ s)) = .ok (x, rest) ↔ v = (toString x).toList ∧ rest = s := by
  constructor
  · intro h
    have hword : ∃ y : Bool, v = (toString y).toList := by
      rcases shape_of_isValue hv with hmem | hnumber | ⟨c, hc, u, rfl⟩
      · simp only [List.mem_cons, List.not_mem_nil, or_false] at hmem
        rcases hmem with rfl | rfl | rfl
        · exact absurd h (boolean_ne_ok ha hv (by decide) (by decide) _)
        · exact ⟨true, rfl⟩
        · exact ⟨false, rfl⟩
      · obtain ⟨c, u, rfl, hc⟩ := exists_cons_of_mem_numberExpr hnumber
        have hno : ¬('t' = '-' ∨ 't'.isDigit = true) ∧ ¬('f' = '-' ∨ 'f'.isDigit = true) := by decide
        exact absurd h (boolean_ne_ok ha hv (fun ht => hno.1 (ht ▸ hc)) (fun hf => hno.2 (hf ▸ hc)) _)
      · have hno : ∀ c ∈ ['\x22', '[', '{'], c ≠ 't' ∧ c ≠ 'f' := forall_mem_of_all (by decide)
        exact absurd h (boolean_ne_ok ha hv (hno c hc).1 (hno c hc).2 _)
    obtain ⟨y, rfl⟩ := hword
    obtain ⟨rfl, rfl⟩ := Prod.mk.inj (Except.ok.inj ((boolean_text ha y s).symm.trans h))
    exact ⟨rfl, rfl⟩
  · rintro ⟨rfl, rfl⟩
    exact boolean_text ha x rest

end GoLayout.Json
