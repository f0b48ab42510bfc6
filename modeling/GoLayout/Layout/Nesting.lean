import GoLayout.Layout.Context

/-!
# Nesting

The open contexts of a document, innermost first, with the context of the document itself beneath
them.  The root is a field of its own, so that it cannot be closed.
-/

namespace GoLayout

/-- The open contexts of a document. -/
structure Nesting where
  /-- The contexts above the root, innermost first. -/
  inner : List Context
  /-- The context of the document. -/
  root : Context
deriving DecidableEq, Repr

namespace Nesting

/-- Only the document is open. -/
def ofRoot (root : Context) : Nesting := ⟨[], root⟩

/-- The innermost context. -/
def head (n : Nesting) : Context := n.inner.headD n.root

/-- The number of open contexts, the root included. -/
def depth (n : Nesting) : Nat := n.inner.length + 1

/-- The open contexts from the root to the innermost one. -/
def toList (n : Nesting) : List Context := n.root :: n.inner.reverse

/-- Change the innermost context. -/
def mapHead (f : Context → Context) (n : Nesting) : Nesting :=
  match n.inner with
  | [] => ⟨[], f n.root⟩
  | x :: inner => ⟨f x :: inner, n.root⟩

/-- Open a context. -/
def push (x : Context) (n : Nesting) : Nesting := ⟨x :: n.inner, n.root⟩

/-- Close the innermost context, unless it is the root. -/
def pop? (n : Nesting) : Option (Context × Nesting) :=
  match n.inner with
  | [] => none
  | x :: inner => some (x, ⟨inner, n.root⟩)

@[simp] theorem head_push (x : Context) (n : Nesting) : (n.push x).head = x := rfl

@[simp] theorem depth_push (x : Context) (n : Nesting) : (n.push x).depth = n.depth + 1 := rfl

@[simp] theorem pop?_push (x : Context) (n : Nesting) : (n.push x).pop? = some (x, n) := rfl

@[simp] theorem toList_push (x : Context) (n : Nesting) : (n.push x).toList = n.toList ++ [x] := by
  simp [toList, push]

@[simp] theorem head_mapHead (f : Context → Context) (n : Nesting) :
    (n.mapHead f).head = f n.head := by
  obtain ⟨_ | ⟨x, inner⟩, root⟩ := n <;> rfl

@[simp] theorem depth_mapHead (f : Context → Context) (n : Nesting) :
    (n.mapHead f).depth = n.depth := by
  obtain ⟨_ | ⟨x, inner⟩, root⟩ := n <;> rfl

@[simp] theorem mapHead_mapHead (f g : Context → Context) (n : Nesting) :
    (n.mapHead f).mapHead g = n.mapHead fun x => g (f x) := by
  obtain ⟨_ | ⟨x, inner⟩, root⟩ := n <;> rfl

end Nesting

end GoLayout
