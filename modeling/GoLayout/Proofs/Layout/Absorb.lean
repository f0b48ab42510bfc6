import GoLayout.Layout.State
import GoLayout.Proofs.Lexis.Brackets

/-!
# What a span does to the layout

A span of code settles the innermost context first.  Then an opening bracket opens a context, and a closing
bracket closes the innermost one if that is its own; other spans of code leave the contexts alone.  Blanks
and comments change nothing but what the text goes on with.
-/

namespace GoLayout.State

open GoLayout.Lexis

variable {s : State} {column : Int} {r : Scan}

lemma absorb_of_not_isCode (h : r.isCode = false) :
    s.absorb column r = { s with continuation := r.continuation } := by
  simp [absorb, h]

lemma absorb_of_isPlain (h : r.isCode = true) (hp : r.isPlain = true) :
    s.absorb column r = ⟨r.continuation, s.nesting.mapHead Context.onCode, s.indented, false⟩ := by
  rcases hs : r.signal with _ | ⟨p⟩ | _
  · simp [absorb, h, hs, mapHead]
  · cases p with
    | opening b => simp [Scan.isPlain, hs] at hp
    | closing b => simp [Scan.isPlain, hs] at hp
    | _ => simp [absorb, h, hs, mapHead, follow, Kind.openedBy?, Kind.closedBy]
  · simp [Scan.isPlain, hs] at hp

/-- An opening bracket opens a context that is indented as its line and not yet aligned. -/
lemma absorb_opening {b : Bracket} (h : r.isCode = true) (hs : r.signal = some (.punct (.opening b))) :
    s.absorb column r
      = ⟨r.continuation,
          (s.nesting.mapHead Context.onCode).push ⟨s.indented, column, .group b, .unresolved⟩,
          s.indented, false⟩ := by
  simp [absorb, h, hs, mapHead, follow, openContext]

/-- A closing bracket closes its context, and the line is indented as that of the opening one. -/
lemma absorb_closing {b : Bracket} {x : Context} {n : Nesting} (h : r.isCode = true)
    (hs : r.signal = some (.punct (.closing b))) (hn : s.nesting = n.push x) (hx : x.kind = .group b) :
    s.absorb column r = ⟨r.continuation, n, x.indented, false⟩ := by
  simp [absorb, h, hs, mapHead, follow, head, hn, Nesting.push, Nesting.mapHead, Nesting.head, Kind.closedBy,
    Context.onCode, hx, closeContext, Nesting.pop?]

end GoLayout.State
