import GoLayout.Proofs.Lexis.Signals
import GoLayout.Proofs.Lexis.Tokens

/-!
# The brackets of a line

The spans of a line may open and close brackets; those in strings and comments are no spans of their own and
do not count.  This file says which brackets are open after some spans, when the brackets of some spans are
well nested, and what a line looks like that closes at most one bracket of the lines before, as the first
thing, and leaves at most one of its own open, as the last one.

* `nested_iff_closesAll`: well nested spans are those that a stack of brackets accepts;
* `Layer`: the shape of such a line;
* `level_eq_length`: such a line stands as many levels deep as it leaves brackets of the lines before open.
-/

namespace GoLayout.Lexis

open GoLayout.Text

/-- Whether a span is neither a bracket nor a label. -/
def Scan.isPlain (r : Scan) : Bool :=
  match r.signal with
  | some (.punct (.opening _)) => false
  | some (.punct (.closing _)) => false
  | some .caseLabel => false
  | _ => true

/-- The brackets that are open after a span, innermost first. -/
def openAfter (opened : List Bracket) (r : Scan) : List Bracket :=
  match r.signal with
  | some (.punct (.opening b)) => b :: opened
  | some (.punct (.closing _)) => opened.tail
  | _ => opened

lemma openAfter_of_opening {r : Scan} {b : Bracket} (h : r.signal = some (.punct (.opening b)))
    (opened : List Bracket) : openAfter opened r = b :: opened := by
  simp [openAfter, h]

lemma openAfter_of_closing {r : Scan} {b : Bracket} (h : r.signal = some (.punct (.closing b)))
    (opened : List Bracket) : openAfter opened r = opened.tail := by
  simp [openAfter, h]

lemma openAfter_of_isPlain {r : Scan} (h : r.isPlain = true) (opened : List Bracket) :
    openAfter opened r = opened := by
  unfold Scan.isPlain at h
  unfold openAfter
  split at h <;> simp_all

lemma Scan.signal_cases (r : Scan) :
    r.isPlain = true ∨ r.signal = some .caseLabel ∨
      ∃ b, r.signal = some (.punct (.opening b)) ∨ r.signal = some (.punct (.closing b)) := by
  rcases h : r.signal with _ | ⟨p⟩ | _
  · exact .inl (by simp [isPlain, h])
  · cases p with
    | opening b => exact .inr (.inr ⟨b, .inl rfl⟩)
    | closing b => exact .inr (.inr ⟨b, .inr rfl⟩)
    | _ => exact .inl (by simp [isPlain, h])
  · exact .inr (.inl rfl)

lemma Scan.signal_ne_of_isPlain {r : Scan} (h : r.isPlain = true) :
    r.signal ≠ some .caseLabel ∧ (∀ b, r.signal ≠ some (.punct (.opening b))) ∧
      ∀ b, r.signal ≠ some (.punct (.closing b)) := by
  refine ⟨fun hs => ?_, fun b hs => ?_, fun b hs => ?_⟩ <;> simp [isPlain, hs] at h

/-- The brackets of a line do not depend on its leading blanks. -/
lemma foldl_openAfter_readLine (k : Continuation) (line : List Char) (opened : List Bracket) :
    (readLine k line).foldl openAfter opened = (readLine k (trimStart line)).foldl openAfter opened := by
  have h : (indentSpan k line).foldl openAfter opened = opened := by
    unfold indentSpan
    split <;> rfl
  rw [readLine_eq_append, List.foldl_append, h]

/-! ## Nested spans -/

/-- Spans without labels whose brackets are well nested. -/
inductive Nested : List Scan → Prop
  | nil : Nested []
  | plain {r : Scan} {rs : List Scan} (hr : r.isPlain = true) (hs : Nested rs) : Nested (r :: rs)
  | group {o c : Scan} {b : Bracket} {body rs : List Scan}
      (ho : o.signal = some (.punct (.opening b))) (hb : Nested body)
      (hc : c.signal = some (.punct (.closing b))) (hs : Nested rs) : Nested (o :: (body ++ c :: rs))

/-- Nested spans leave those brackets open that were open before. -/
lemma Nested.foldl_openAfter {rs : List Scan} (h : Nested rs) (opened : List Bracket) :
    rs.foldl openAfter opened = opened := by
  induction h generalizing opened with
  | nil => rfl
  | plain hr hs ih => rw [List.foldl_cons, openAfter_of_isPlain hr, ih]
  | group ho hb hc hs ihb ihs =>
    rw [List.foldl_cons, openAfter_of_opening ho, List.foldl_append, ihb, List.foldl_cons,
      openAfter_of_closing hc, List.tail_cons, ihs]

/-- Spans that are no code are no brackets, if signals come from code. -/
lemma foldl_openAfter_of_not_isCode {rs : List Scan} (h : ∀ r ∈ rs, r.isCode = false)
    (hc : ∀ r ∈ rs, r.signal ≠ none → r.isCode = true) (opened : List Bracket) :
    rs.foldl openAfter opened = opened := by
  induction rs with
  | nil => rfl
  | cons r rs ih =>
    obtain ⟨hr, hrs⟩ := List.forall_mem_cons.1 h
    obtain ⟨hcr, hcrs⟩ := List.forall_mem_cons.1 hc
    have hn : r.signal = none := by
      by_contra hs
      rw [hcr hs] at hr
      cases hr
    have ho : openAfter opened r = opened := openAfter_of_isPlain (by simp [Scan.isPlain, hn]) opened
    rw [List.foldl_cons, ho, ih hrs hcrs]

lemma Nested.signal_ne_closing {r : Scan} {rs : List Scan} (h : Nested (r :: rs)) (b : Bracket) :
    r.signal ≠ some (.punct (.closing b)) := by
  intro hr
  cases h with
  | plain hp hs => simp [Scan.isPlain, hr] at hp
  | group ho hb hc hs => simp [ho] at hr

/-- Whether a span closes nothing but the innermost open bracket, and is no label. -/
def admits (opened : List Bracket) (r : Scan) : Bool :=
  match r.signal with
  | some (.punct (.closing b)) => opened.head? = some b
  | some .caseLabel => false
  | _ => true

/-- Whether some spans close all the brackets that are open, each with its own closing bracket. -/
def closesAll : List Bracket → List Scan → Bool
  | opened, [] => opened.isEmpty
  | opened, r :: rs => admits opened r && closesAll (openAfter opened r) rs

lemma closesAll_cons_of_isPlain {r : Scan} (h : r.isPlain = true) (opened : List Bracket)
    (rs : List Scan) : closesAll opened (r :: rs) = closesAll opened rs := by
  have ha : admits opened r = true := by
    unfold Scan.isPlain at h
    unfold admits
    split at h <;> simp_all
  rw [closesAll, ha, openAfter_of_isPlain h, Bool.true_and]

lemma closesAll_cons_of_opening {r : Scan} {b : Bracket} (h : r.signal = some (.punct (.opening b)))
    (opened : List Bracket) (rs : List Scan) :
    closesAll opened (r :: rs) = closesAll (b :: opened) rs := by
  rw [closesAll, openAfter_of_opening h, admits, h, Bool.true_and]

lemma closesAll_cons_of_closing {r : Scan} {b : Bracket} (h : r.signal = some (.punct (.closing b)))
    (opened : List Bracket) (rs : List Scan) :
    closesAll opened (r :: rs) = (decide (opened.head? = some b) && closesAll opened.tail rs) := by
  rw [closesAll, openAfter_of_closing h, admits, h]

lemma closesAll_cons_of_label {r : Scan} (h : r.signal = some .caseLabel) (opened : List Bracket)
    (rs : List Scan) : closesAll opened (r :: rs) = false := by
  rw [closesAll, admits, h, Bool.false_and]

lemma Nested.closesAll_append {rs : List Scan} (h : Nested rs) (opened : List Bracket)
    (ts : List Scan) : closesAll opened (rs ++ ts) = closesAll opened ts := by
  induction h generalizing opened ts with
  | nil => rfl
  | plain hr hs ih => rw [List.cons_append, closesAll_cons_of_isPlain hr, ih]
  | group ho hb hc hs ihb ihs =>
    rw [List.cons_append, closesAll_cons_of_opening ho, List.append_assoc, ihb, List.cons_append,
      closesAll_cons_of_closing hc, ihs]
    simp

/-- Spans that close all the brackets that are open are nested up to the one that closes the innermost. -/
lemma exists_nested_of_closesAll {opened : List Bracket} {rs : List Scan}
    (h : closesAll opened rs = true) :
    ∃ body rest, rs = body ++ rest ∧ Nested body ∧
      ((opened = [] ∧ rest = []) ∨ ∃ b outer c tail, opened = b :: outer ∧ rest = c :: tail ∧
        c.signal = some (.punct (.closing b)) ∧ closesAll outer tail = true) := by
  -- an opening bracket needs the claim twice: for its own group and for what follows that
  induction hn : rs.length using Nat.strong_induction_on generalizing opened rs with
  | _ n ih =>
    subst hn
    cases rs with
    | nil => exact ⟨[], [], rfl, .nil, .inl ⟨List.isEmpty_iff.1 h, rfl⟩⟩
    | cons r rs =>
      rcases r.signal_cases with hr | hr | ⟨b, hr | hr⟩
      · rw [closesAll_cons_of_isPlain hr] at h
        obtain ⟨body, rest, rfl, hb, hrest⟩ := ih _ (by simp) h rfl
        exact ⟨r :: body, rest, rfl, .plain hr hb, hrest⟩
      · rw [closesAll_cons_of_label hr] at h
        cases h
      · rw [closesAll_cons_of_opening hr] at h
        obtain ⟨body, rest, rfl, hb, hrest⟩ := ih _ (by simp) h rfl
        rcases hrest with ⟨ho, -⟩ | ⟨b', outer, c, tail, ho, rfl, hc, ht⟩
        · cases ho
        · cases ho
          obtain ⟨body', rest', rfl, hb', hrest'⟩ := ih _ (by simp; omega) ht rfl
          exact ⟨r :: (body ++ c :: body'), rest', by simp, .group hr hb hc hb', hrest'⟩
      · rw [closesAll_cons_of_closing hr, Bool.and_eq_true, decide_eq_true_iff] at h
        obtain ⟨ho, ht⟩ := h
        cases opened with
        | nil => cases ho
        | cons b' outer =>
          cases ho
          exact ⟨[], r :: rs, rfl, .nil, .inr ⟨b, outer, r, rs, rfl, rfl, hr, ht⟩⟩

/-- Well nested spans are those that a stack of brackets accepts. -/
lemma nested_iff_closesAll {rs : List Scan} : Nested rs ↔ closesAll [] rs = true := by
  constructor
  · intro h
    have hc := h.closesAll_append [] []
    rw [List.append_nil] at hc
    exact hc
  · intro h
    obtain ⟨body, rest, rfl, hb, ⟨-, rfl⟩ | ⟨b, outer, c, tail, ho, -⟩⟩ := exists_nested_of_closesAll h
    · rwa [List.append_nil]
    · cases ho

instance : DecidablePred Nested := fun _ => decidable_of_iff _ nested_iff_closesAll.symm

/-! ## Layers -/

/-- Whether some spans are a single bracket that closes the innermost open one, or none at all. -/
def closesFirst (opened : List Bracket) : List Scan → Bool
  | [] => true
  | [r] => opened.head?.any fun b => r.signal == some (.punct (.closing b))
  | _ => false

/-- Whether some spans are a single opening bracket with nothing but blanks and comments after it, or none
at all. -/
def opensLast : List Scan → Bool
  | [] => true
  | r :: rs =>
    match r.signal with
    | some (.punct (.opening _)) => rs.all fun t => !t.isCode
    | _ => false

/-- A line of code that may close the innermost open bracket first, has nested brackets then, and may open
one bracket last.  It has no label, and no string or comment goes on behind it. -/
structure Layer (opened : List Bracket) (text : List Char) : Prop where
  ends : continuationAfter (readLine .code text) .code = .code
  shape : ∃ lead mid tail, readLine .code (trimStart text) = lead ++ (mid ++ tail) ∧
    closesFirst opened lead = true ∧ Nested mid ∧ opensLast tail = true

/-- The parts of a layer are found by their lengths. -/
lemma layer_iff_exists_length {opened : List Bracket} {text : List Char} :
    Layer opened text ↔
      continuationAfter (readLine .code text) .code = .code ∧
        let rs := readLine .code (trimStart text)
        ∃ i ∈ List.range (rs.length + 1), ∃ j ∈ List.range (rs.length + 1),
          closesFirst opened (rs.take i) = true ∧ Nested ((rs.drop i).take j) ∧
            opensLast ((rs.drop i).drop j) = true := by
  constructor
  · rintro ⟨he, lead, mid, tail, hrs, h⟩
    refine ⟨he, lead.length, ?_, mid.length, ?_, ?_⟩
    · rw [hrs, List.mem_range, List.length_append]
      omega
    · rw [hrs, List.mem_range, List.length_append, List.length_append]
      omega
    · rwa [hrs, List.take_left, List.drop_left, List.take_left, List.drop_left]
  · rintro ⟨he, i, -, j, -, h⟩
    exact ⟨he, _, _, _, by rw [List.take_append_drop, List.take_append_drop], h⟩

instance (opened : List Bracket) (text : List Char) : Decidable (Layer opened text) :=
  decidable_of_iff _ layer_iff_exists_length.symm

/-- The number of brackets that stay open around a line: one less than are open before it if the line
starts with the bracket that closes the innermost one. -/
def level (opened : List Bracket) (text : List Char) : Nat :=
  match opened with
  | [] => 0
  | b :: outer => if (trimStart text).head? = some b.closer then outer.length else outer.length + 1

lemma closesFirst_cases {opened : List Bracket} {lead : List Scan} (h : closesFirst opened lead = true) :
    lead = [] ∨ ∃ b outer r, opened = b :: outer ∧ lead = [r] ∧ r.signal = some (.punct (.closing b)) := by
  match lead, opened, h with
  | [], _, _ => exact .inl rfl
  | [r], b :: outer, h => exact .inr ⟨b, outer, r, rfl, rfl, eq_of_beq h⟩

lemma opensLast_cases {tail : List Scan} (h : opensLast tail = true) :
    tail = [] ∨ ∃ b r rest, tail = r :: rest ∧ r.signal = some (.punct (.opening b)) ∧
      ∀ t ∈ rest, t.isCode = false := by
  cases tail with
  | nil => exact .inl rfl
  | cons r rest =>
    rw [opensLast] at h
    split at h
    · rename_i b hr
      refine .inr ⟨b, r, rest, rfl, hr, fun t ht => ?_⟩
      have := List.all_eq_true.1 h t ht
      simpa using this
    · cases h

lemma head?_signal_ne_closing {mid tail : List Scan} (hm : Nested mid) (ht : opensLast tail = true)
    (b : Bracket) : (mid ++ tail).head?.map Scan.signal ≠ some (some (.punct (.closing b))) := by
  intro h
  cases mid with
  | cons r mid => exact hm.signal_ne_closing b (Option.some.inj h)
  | nil =>
    rcases opensLast_cases ht with rfl | ⟨b', r, rest, rfl, hr, -⟩
    · cases h
    · simp [hr] at h

/-- A layer stands as many levels deep as it leaves brackets of the lines before open. -/
lemma level_eq_length {opened : List Bracket} {text : List Char} {lead mid tail : List Scan}
    (hrs : readLine .code (trimStart text) = lead ++ (mid ++ tail)) (hl : closesFirst opened lead = true)
    (hm : Nested mid) (ht : opensLast tail = true) :
    level opened text = (lead.foldl openAfter opened).length := by
  have hhead := head?_readLine_signal_closing (startsSolid_trimStart text)
  rcases closesFirst_cases hl with rfl | ⟨b, outer, r, rfl, rfl, hr⟩
  · cases opened with
    | nil => rfl
    | cons b outer =>
      have hb : (trimStart text).head? ≠ some b.closer := by
        rw [Ne, ← hhead b, hrs]
        exact head?_signal_ne_closing hm ht b
      rw [level, if_neg hb, List.foldl_nil, List.length_cons]
  · have hb : (trimStart text).head? = some b.closer := by
      rw [← hhead b, hrs]
      exact congrArg some hr
    rw [level, if_pos hb, List.foldl_cons, openAfter_of_closing hr, List.foldl_nil, List.tail_cons]

end GoLayout.Lexis
