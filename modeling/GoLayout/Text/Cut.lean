/-!
# Cuts of a text

A recognizer answers how far it reads: it cuts the text in the part that it takes and the part that
it leaves.  Cuts are composed by letting a second recognizer go on where the first one stopped.
-/

namespace GoLayout.Text

/-- A text in two parts: what was taken from its front, and the rest. -/
structure Cut where
  taken : List Char
  rest : List Char
deriving DecidableEq, Repr

namespace Cut

/-- The text that was cut. -/
def whole (k : Cut) : List Char := k.taken ++ k.rest

/-- The cut that takes nothing. -/
def stay (s : List Char) : Cut := ⟨[], s⟩

/-- The cut that takes everything. -/
def all (s : List Char) : Cut := ⟨s, []⟩

/-- Take the longest run of characters that satisfy `p`. -/
def span (p : Char → Bool) (s : List Char) : Cut := ⟨s.takeWhile p, s.dropWhile p⟩

/-- Take the first character if it satisfies `p`, and nothing otherwise. -/
def one (p : Char → Bool) : List Char → Cut
  | [] => stay []
  | c :: s => if p c then ⟨[c], s⟩ else stay (c :: s)

/-- Take one more character in front. -/
def cons (c : Char) (k : Cut) : Cut := ⟨c :: k.taken, k.rest⟩

/-- Go on with `f` where the cut stopped. -/
def andThen (k : Cut) (f : List Char → Cut) : Cut :=
  ⟨k.taken ++ (f k.rest).taken, (f k.rest).rest⟩

/-- Take the longest run of characters that satisfy `p`, which must not be empty. -/
def span? (p : Char → Bool) (s : List Char) : Option Cut :=
  if (span p s).taken = [] then none else some (span p s)

/-- Try a recognizer, and take nothing where it fails. -/
def orStay (f : List Char → Option Cut) (s : List Char) : Cut := (f s).getD (stay s)

@[simp] theorem whole_stay (s : List Char) : (stay s).whole = s := rfl

@[simp] theorem whole_all (s : List Char) : (all s).whole = s := by simp [whole, all]

@[simp] theorem whole_span (p : Char → Bool) (s : List Char) : (span p s).whole = s :=
  List.takeWhile_append_dropWhile

@[simp] theorem whole_one (p : Char → Bool) (s : List Char) : (one p s).whole = s := by
  cases s with
  | nil => rfl
  | cons c s => by_cases h : p c = true <;> simp [one, h, whole, stay]

@[simp] theorem whole_cons (c : Char) (k : Cut) : (k.cons c).whole = c :: k.whole := rfl

/-- A composed cut cuts the same text as its first part. -/
theorem whole_andThen {k : Cut} {f : List Char → Cut} (h : (f k.rest).whole = k.rest) :
    (k.andThen f).whole = k.whole := by
  simp only [whole, andThen, List.append_assoc] at h ⊢
  rw [h]

theorem andThen_assoc (k : Cut) (f g : List Char → Cut) :
    (k.andThen f).andThen g = k.andThen fun s => (f s).andThen g := by
  simp only [andThen, List.append_assoc]

theorem whole_of_span? {p : Char → Bool} {s : List Char} {k : Cut} (h : span? p s = some k) :
    k.whole = s := by
  unfold span? at h
  split at h
  · exact absurd h (by simp)
  · cases h
    exact whole_span p s

/-- A recognizer that cuts the text it is given still does so where its failure is let pass. -/
theorem whole_orStay {f : List Char → Option Cut} {s : List Char}
    (h : ∀ k, f s = some k → k.whole = s) : (orStay f s).whole = s := by
  unfold orStay
  cases hf : f s with
  | none => rfl
  | some k => exact h k hf

end Cut

end GoLayout.Text
