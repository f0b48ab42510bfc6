import GoLayout.Proofs.Lexis.Numerals
import Mathlib.Data.Nat.Digits.Defs

/-!
# The grammar of JSON

The texts of JSON, as they are defined without a reader: blanks, strings, numbers, and values that are built from
them, with any amount of blanks around each part.  An object is known by its members, which are pairs of texts: how
a key is written between its quotes, and the text of a value.  What a key stands for is another matter (`Spells`),
since a character may be written in several ways, and half of a surrogate pair stands for nothing.
-/

namespace GoLayout.Json

open RegularExpression

/-! ## Blanks and strings -/

/-- Any number of blanks. -/
def IsBlanks (s : List Char) : Prop := ∀ c ∈ s, c ∈ [' ', '\t', '\n', '\r']

instance (s : List Char) : Decidable (IsBlanks s) := List.decidableBAll _ s

/-- The letters that stand for a character behind a backslash. -/
inductive ShortEscape : Char → Char → Prop
  | quote : ShortEscape '\x22' '\x22'
  | backslash : ShortEscape '\\' '\\'
  | slash : ShortEscape '/' '/'
  | backspace : ShortEscape 'b' '\x08'
  | formFeed : ShortEscape 'f' '\x0c'
  | lineFeed : ShortEscape 'n' '\n'
  | carriageReturn : ShortEscape 'r' '\r'
  | tab : ShortEscape 't' '\t'

/-- A hexadecimal digit, in one of its cases. -/
def HexDigit (c : Char) (v : Nat) : Prop :=
  "0123456789abcdef".toList[v]? = some c ∨ "0123456789ABCDEF".toList[v]? = some c

/-- Four hexadecimal digits and the number that they stand for. -/
inductive HexQuad : List Char → Nat → Prop
  | mk {a b c d : Char} {va vb vc vd : Nat} (ha : HexDigit a va) (hb : HexDigit b vb) (hc : HexDigit c vc)
    (hd : HexDigit d vd) : HexQuad [a, b, c, d] (Nat.ofDigits 16 [vd, vc, vb, va])

/-- A character that stands for itself between quotes. -/
structure IsPlain (c : Char) : Prop where
  not_quote : c ≠ '\x22'
  not_backslash : c ≠ '\\'
  not_control : 0x20 ≤ c.toNat

/-- What may stand between the quotes of a string. -/
inductive IsString : List Char → Prop
  | nil : IsString []
  | plain {c : Char} {t : List Char} (hc : IsPlain c) (h : IsString t) : IsString (c :: t)
  | short {e c : Char} {t : List Char} (he : ShortEscape e c) (h : IsString t) : IsString ('\\' :: e :: t)
  | unit {q t : List Char} {n : Nat} (hq : HexQuad q n) (h : IsString t) : IsString ('\\' :: 'u' :: (q ++ t))

/-- What stands between the quotes of a string, and the characters that it stands for.  Characters beyond the first
plane are two units, one from each half of the surrogates. -/
inductive Spells : List Char → List Char → Prop
  | nil : Spells [] []
  | plain {c : Char} {t s : List Char} (hc : IsPlain c) (h : Spells t s) : Spells (c :: t) (c :: s)
  | short {e c : Char} {t s : List Char} (he : ShortEscape e c) (h : Spells t s) : Spells ('\\' :: e :: t) (c :: s)
  | unit {q t s : List Char} {n : Nat} (hq : HexQuad q n) (hn : n < 0xD800 ∨ 0xDFFF < n) (h : Spells t s) :
    Spells ('\\' :: 'u' :: (q ++ t)) (Char.ofNat n :: s)
  | pair {q q' t s : List Char} {n n' : Nat} (hq : HexQuad q n) (hn : 0xD800 ≤ n ∧ n ≤ 0xDBFF) (hq' : HexQuad q' n')
    (hn' : 0xDC00 ≤ n' ∧ n' ≤ 0xDFFF) (h : Spells t s) :
    Spells ('\\' :: 'u' :: (q ++ '\\' :: 'u' :: (q' ++ t)))
      (Char.ofNat (0x10000 + (n - 0xD800) * 0x400 + (n' - 0xDC00)) :: s)

/-! ## Numbers and values -/

/-- `0|[1-9][0-9]*` -/
def intExpr : RegularExpression Char :=
  Lexis.oneOf "0" + Lexis.oneOf "123456789" * (Lexis.oneOf "0123456789").star

/-- `([.][0-9]+)?([eE][-+]?[0-9]+)?` -/
def scaleExpr : RegularExpression Char :=
  Lexis.optional (Lexis.oneOf "." * Lexis.many (Lexis.oneOf "0123456789")) *
    Lexis.optional (Lexis.oneOf "eE" * (Lexis.optional (Lexis.oneOf "-+") * Lexis.many (Lexis.oneOf "0123456789")))

/-- `-?(0|[1-9][0-9]*)([.][0-9]+)?([eE][-+]?[0-9]+)?` -/
def numberExpr : RegularExpression Char := Lexis.optional (Lexis.oneOf "-") * (intExpr * scaleExpr)

/-- A member of an object: how its key is written between the quotes, and the text of its value. -/
structure Member where
  key : List Char
  value : List Char
deriving DecidableEq, Repr

mutual

/-- The text of a value. -/
inductive IsValue : List Char → Prop
  | null : IsValue ['n', 'u', 'l', 'l']
  | true : IsValue ['t', 'r', 'u', 'e']
  | false : IsValue ['f', 'a', 'l', 's', 'e']
  | number {t : List Char} (h : t ∈ numberExpr.matches') : IsValue t
  | string {t : List Char} (h : IsString t) : IsValue ('\x22' :: t ++ ['\x22'])
  | emptyArray {b : List Char} (hb : IsBlanks b) : IsValue ('[' :: b ++ [']'])
  | array {t : List Char} (h : IsElements t) : IsValue ('[' :: t ++ [']'])
  | object {ms : List Member} {t : List Char} (h : IsObject ms t) : IsValue t

/-- The text between the brackets of an array that is not empty. -/
inductive IsElements : List Char → Prop
  | last {a v b : List Char} (ha : IsBlanks a) (hv : IsValue v) (hb : IsBlanks b) : IsElements (a ++ v ++ b)
  | cons {a v b t : List Char} (ha : IsBlanks a) (hv : IsValue v) (hb : IsBlanks b) (h : IsElements t) :
    IsElements (a ++ v ++ b ++ ',' :: t)

/-- The text of a member, with blanks around the key and around the value. -/
inductive IsMember : Member → List Char → Prop
  | mk {m : Member} {a b c d : List Char} (ha : IsBlanks a) (hk : IsString m.key) (hb : IsBlanks b) (hc : IsBlanks c)
    (hv : IsValue m.value) (hd : IsBlanks d) :
    IsMember m (a ++ '\x22' :: m.key ++ '\x22' :: b ++ ':' :: c ++ m.value ++ d)

/-- The text between the braces of an object that is not empty. -/
inductive IsMembers : List Member → List Char → Prop
  | last {m : Member} {t : List Char} (h : IsMember m t) : IsMembers [m] t
  | cons {m : Member} {ms : List Member} {t u : List Char} (h : IsMember m t) (hs : IsMembers ms u) :
    IsMembers (m :: ms) (t ++ ',' :: u)

/-- The text of an object with its members. -/
inductive IsObject : List Member → List Char → Prop
  | empty {b : List Char} (hb : IsBlanks b) : IsObject [] ('{' :: b ++ ['}'])
  | members {ms : List Member} {t : List Char} (h : IsMembers ms t) : IsObject ms ('{' :: t ++ ['}'])

end

/-- A text that holds an object with its members, and nothing else but blanks. -/
inductive HoldsObject : List Member → List Char → Prop
  | mk {ms : List Member} {a object b : List Char} (ha : IsBlanks a) (h : IsObject ms object) (hb : IsBlanks b) :
    HoldsObject ms (a ++ object ++ b)

lemma isValue_toString (b : Bool) : IsValue (toString b).toList := by
  cases b with
  | true => exact .true
  | false => exact .false

/-! ## The forms of natural numbers -/

section Integers

variable {w : List Char} {n : Nat}

lemma forall_mem_of_all {p : Char → Prop} [DecidablePred p] {cs : List Char} (h : (cs.all fun c => p c) = true) :
    ∀ c ∈ cs, p c :=
  fun _ hc => of_decide_eq_true (Lexis.holds_of_mem h hc)

lemma isDigit_iff_mem_digits (d : Char) : d.isDigit = true ↔ d ∈ "0123456789".toList := by
  rw [Lexis.isDigit_iff_mem]
  exact List.mem_cons.symm

lemma mem_intExpr : w ∈ intExpr.matches' ↔
    w = ['0'] ∨ ∃ c ∈ "123456789".toList, ∃ ds : List Char, (∀ d ∈ ds, d.isDigit = true) ∧ w = c :: ds := by
  rw [intExpr, matches'_add, Language.mem_add, Lexis.mem_oneOf, Lexis.mem_oneOf_mul]
  simp only [Lexis.mem_star_oneOf, isDigit_iff_mem_digits]
  exact or_congr_left (by simp)

/-- Digits behind a number that is not zero are the decimal form of a number. -/
lemma toDigits_append (hn : 0 < n) {ds : List Char} (hds : ∀ d ∈ ds, d.isDigit = true) :
    Nat.toDigits 10 n ++ ds = Nat.toDigits 10 (Nat.ofDigitChars 10 ds n) := by
  induction ds generalizing n with
  | nil => rw [List.append_nil, Nat.ofDigitChars_nil]
  | cons d ds ih =>
    obtain ⟨hd, hds⟩ := List.forall_mem_cons.1 hds
    have hform : ∀ d ∈ "0123456789".toList, d.toNat - 48 < 10 ∧ Nat.toDigits 10 (d.toNat - 48) = [d] :=
      forall_mem_of_all (by decide)
    obtain ⟨hlt, hform⟩ := hform d ((isDigit_iff_mem_digits d).1 hd)
    calc Nat.toDigits 10 n ++ d :: ds
        = Nat.toDigits 10 n ++ [d] ++ ds := by simp
      _ = Nat.toDigits 10 (10 * n + (d.toNat - 48)) ++ ds := by
          rw [← hform, Nat.toDigits_append_toDigits (by decide) hn hlt]
      _ = Nat.toDigits 10 (Nat.ofDigitChars 10 (d :: ds) n) := by
          rw [ih (Nat.add_pos_left (Nat.mul_pos (by decide) hn) _) hds, Nat.ofDigitChars_cons]
          rfl

lemma exists_toDigits_eq_cons (hn : 0 < n) :
    ∃ c ∈ "123456789".toList, ∃ ds : List Char, (∀ d ∈ ds, d.isDigit = true) ∧ Nat.toDigits 10 n = c :: ds := by
  induction n using Nat.strong_induction_on with
  | _ n ih =>
    by_cases hlt : n < 10
    · have hc : ∀ k < 10, 0 < k → Nat.digitChar k ∈ "123456789".toList := by decide
      exact ⟨_, hc n hlt hn, [], by simp, Nat.toDigits_of_lt_base hlt⟩
    · obtain ⟨c, hc, ds, hds, heq⟩ := ih (n / 10) (by omega) (by omega)
      have hsplit : Nat.toDigits 10 n = Nat.toDigits 10 (n / 10) ++ Nat.toDigits 10 (n % 10) := by
        rw [Nat.toDigits_append_toDigits (by decide) (by omega) (Nat.mod_lt n (by decide)), Nat.div_add_mod]
      refine ⟨c, hc, ds ++ Nat.toDigits 10 (n % 10), fun d hd => ?_, by rw [hsplit, heq, List.cons_append]⟩
      rcases List.mem_append.1 hd with hd | hd
      · exact hds d hd
      · exact Nat.isDigit_of_mem_toDigits (by decide) (by decide) hd

/-- **The integers of JSON without a sign are the decimal forms of the natural numbers.** -/
lemma mem_intExpr_iff_toDigits : w ∈ intExpr.matches' ↔ ∃ n, w = Nat.toDigits 10 n := by
  rw [mem_intExpr]
  constructor
  · rintro (rfl | ⟨c, hc, ds, hds, rfl⟩)
    · exact ⟨0, rfl⟩
    · have hvalue : ∀ c ∈ "123456789".toList, 0 < c.toNat - 48 ∧ Nat.toDigits 10 (c.toNat - 48) = [c] :=
        forall_mem_of_all (by decide)
      obtain ⟨hpos, hform⟩ := hvalue c hc
      exact ⟨_, (congrArg (· ++ ds) hform).symm.trans (toDigits_append hpos hds)⟩
  · rintro ⟨n, rfl⟩
    rcases Nat.eq_zero_or_pos n with rfl | hn
    · exact .inl rfl
    · exact .inr (exists_toDigits_eq_cons hn)

lemma toDigits_mem_numberExpr (n : Nat) : Nat.toDigits 10 n ∈ numberExpr.matches' := by
  refine Lexis.mem_mul.2 ⟨[], Lexis.mem_optional.2 (.inl rfl), _, Lexis.mem_mul.2
    ⟨_, mem_intExpr_iff_toDigits.2 ⟨n, rfl⟩, [], ?_, List.append_nil _⟩, List.nil_append _⟩
  exact Lexis.mem_mul.2 ⟨[], Lexis.mem_optional.2 (.inl rfl), [], Lexis.mem_optional.2 (.inl rfl), rfl⟩

/-- What follows the integer in a number is empty or starts with a point or the mark of an exponent. -/
lemma head?_of_mem_scaleExpr (h : w ∈ scaleExpr.matches') : ∀ c ∈ w.head?, c = '.' ∨ c = 'e' ∨ c = 'E' := by
  obtain ⟨u, hu, v, hv, rfl⟩ := Lexis.mem_mul.1 h
  have hv : ∀ c ∈ v.head?, c = 'e' ∨ c = 'E' := by
    rcases Lexis.mem_optional.1 hv with rfl | hv
    · simp
    · obtain ⟨c, hc, v, -, rfl⟩ := Lexis.mem_oneOf_mul.1 hv
      simpa using hc
  rcases Lexis.mem_optional.1 hu with rfl | hu
  · exact fun c hc => .inr (hv c hc)
  · obtain ⟨c, hc, u, -, rfl⟩ := Lexis.mem_oneOf_mul.1 hu
    have hpoint : c = '.' := by simpa using hc
    simp [hpoint]

/-- A number is an integer with a sign or without, and what follows it. -/
lemma exists_of_mem_numberExpr (h : w ∈ numberExpr.matches') :
    w.head? = some '-' ∨ ∃ n scale, w = Nat.toDigits 10 n ++ scale ∧ scale ∈ scaleExpr.matches' := by
  obtain ⟨sign, hsign, v, hv, rfl⟩ := Lexis.mem_mul.1 h
  rcases Lexis.mem_optional.1 hsign with rfl | hsign
  · obtain ⟨int, hint, scale, hscale, rfl⟩ := Lexis.mem_mul.1 hv
    obtain ⟨n, rfl⟩ := mem_intExpr_iff_toDigits.1 hint
    exact .inr ⟨n, scale, rfl, hscale⟩
  · obtain ⟨c, hc, rfl⟩ := Lexis.mem_oneOf.1 hsign
    have hminus : c = '-' := by simpa using hc
    exact .inl (by simp [hminus])

end Integers

end GoLayout.Json
