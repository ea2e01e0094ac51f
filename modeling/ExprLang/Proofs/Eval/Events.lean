import Mathlib.Data.List.Chain
import ExprLang.Eval.Event

/-!
# ExprLang.Proofs.Eval.Events

Words of events.

An evaluation that goes well leaves a bracketed word: a node is entered, some of the nodes directly
inside it are evaluated one level deeper, and it is left (`Node.Traced`).  One that fails leaves such
a word cut short (`Breaks`), in which the nodes that are still open lie inside one another.

`Event.openAfter` reads a word with a stack and knows nothing of trees: an exit must close the latest
open enter.
-/

namespace ExprLang

/-! ## Words -/

/-- The events of evaluations of some of the nodes at a depth, each at most once and in order. -/
inductive Visits : List Node → Nat → List Event → Prop
  | nil {depth : Nat} : Visits [] depth []
  | skip {n : Node} {ns : List Node} {depth : Nat} {es : List Event} (h : Visits ns depth es) :
    Visits (n :: ns) depth es
  | take {n : Node} {ns : List Node} {depth : Nat} {inner es : List Event} (summary : String)
    (hinner : Visits n.children (depth + 1) inner) (h : Visits ns depth es) :
    Visits (n :: ns) depth
      (.enter n.kind depth n.position :: (inner ++ .exit n.kind depth summary :: es))

/-- The same up to a failure.  The last node entered and the nodes around it, as far as they are among
those considered, are still open; `path` lists them from the outside inwards. -/
inductive Breaks : List Node → Nat → List Event → (path : List Node) → Prop
  | stop {ns : List Node} {depth : Nat} : Breaks ns depth [] []
  | skip {n : Node} {ns : List Node} {depth : Nat} {es : List Event} {path : List Node}
    (h : Breaks ns depth es path) : Breaks (n :: ns) depth es path
  | take {n : Node} {ns : List Node} {depth : Nat} {inner es : List Event} {path : List Node}
    (summary : String) (hinner : Visits n.children (depth + 1) inner)
    (h : Breaks ns depth es path) : Breaks (n :: ns) depth
      (.enter n.kind depth n.position :: (inner ++ .exit n.kind depth summary :: es)) path
  | inside {n : Node} {ns : List Node} {depth : Nat} {inner : List Event} {path : List Node}
    (h : Breaks n.children (depth + 1) inner path) :
    Breaks (n :: ns) depth (.enter n.kind depth n.position :: inner) (n :: path)

/-- The events of the evaluation of a node at a depth: it is entered, some of the nodes directly
inside are evaluated one level deeper, and it is left. -/
def Node.Traced (n : Node) (depth : Nat) (es : List Event) : Prop :=
  ∃ inner summary, Visits n.children (depth + 1) inner ∧
    es = .enter n.kind depth n.position :: (inner ++ [.exit n.kind depth summary])

/-- The events of an evaluation of a node that fails, with the nodes inside it that are open. -/
def Node.Broken (n : Node) (depth : Nat) (es : List Event) (path : List Node) : Prop :=
  ∃ inner, Breaks n.children (depth + 1) inner path ∧
    es = .enter n.kind depth n.position :: inner

namespace Visits

variable {n : Node} {ns : List Node} {depth : Nat} {es es' : List Event}

/-- None of the nodes need be evaluated. -/
theorem none : (ns : List Node) → Visits ns depth []
  | [] => .nil
  | _ :: ns => .skip (none ns)

theorem append_traced (hn : n.Traced depth es) (h : Visits ns depth es') :
    Visits (n :: ns) depth (es ++ es') := by
  obtain ⟨inner, summary, hinner, rfl⟩ := hn
  simpa using Visits.take summary hinner h

/-- A failure after the last of the evaluations leaves no node open. -/
theorem breaks (h : Visits ns depth es) : Breaks ns depth es [] := by
  induction h with
  | nil => exact .stop
  | skip _ ih => exact .skip ih
  | take summary hinner _ _ ih => exact .take summary hinner ih

end Visits

namespace Breaks

variable {n : Node} {ns path : List Node} {depth : Nat} {es es' : List Event}

theorem append_traced (hn : n.Traced depth es) (h : Breaks ns depth es' path) :
    Breaks (n :: ns) depth (es ++ es') path := by
  obtain ⟨inner, summary, hinner, rfl⟩ := hn
  simpa using Breaks.take summary hinner h

theorem of_broken (hn : n.Broken depth es path) : Breaks (n :: ns) depth es (n :: path) := by
  obtain ⟨inner, hinner, rfl⟩ := hn
  exact .inside hinner

/-- A word cut short can be completed. -/
theorem complete (h : Breaks ns depth es path) : ∃ rest, Visits ns depth (es ++ rest) := by
  induction h with
  | stop => exact ⟨[], .none _⟩
  | skip _ ih =>
    obtain ⟨rest, h⟩ := ih
    exact ⟨rest, .skip h⟩
  | take summary hinner _ ih =>
    obtain ⟨rest, h⟩ := ih
    exact ⟨rest, by simpa using Visits.take summary hinner h⟩
  | @inside n ns depth inner _ _ ih =>
    obtain ⟨rest, h⟩ := ih
    exact ⟨rest ++ [Event.exit n.kind depth ""], by simpa using Visits.take "" h (.none ns)⟩

/-- The open nodes lie inside one another, the outermost among those considered. -/
theorem isChain (h : Breaks ns depth es path) :
    path.IsChain (fun m n => n ∈ m.children) ∧ ∀ n ∈ path.head?, n ∈ ns := by
  induction h with
  | stop => exact ⟨.nil, by simp⟩
  | skip _ ih => exact ⟨ih.1, fun n hn => List.mem_cons_of_mem _ (ih.2 n hn)⟩
  | take summary hinner _ ih => exact ⟨ih.1, fun n hn => List.mem_cons_of_mem _ (ih.2 n hn)⟩
  | inside _ ih =>
    refine ⟨List.isChain_cons.mpr ⟨ih.2, ih.1⟩, fun n hn => ?_⟩
    cases hn
    exact List.mem_cons_self

end Breaks

/-! ## Brackets -/

namespace Event

/-- The enters that are open after some events, the latest first, where those of `stack` were open
before.  Each exit closes the latest one, which must be of the same kind and depth. -/
def openAfter (stack : List Event) : List Event → Option (List Event)
  | [] => some stack
  | .enter kind depth pos :: es => openAfter (.enter kind depth pos :: stack) es
  | .exit kind depth _ :: es =>
    match stack with
    | .enter kind' depth' _ :: stack =>
      if kind' = kind ∧ depth' = depth then openAfter stack es else none
    | _ => none

/-- The enters of nodes that lie inside one another, the first one at a depth. -/
def enters (depth : Nat) : List Node → List Event
  | [] => []
  | n :: path => .enter n.kind depth n.position :: enters (depth + 1) path

/-- What is entered and left again leaves nothing open. -/
theorem openAfter_visits {ns : List Node} {depth : Nat} {es : List Event} (h : Visits ns depth es)
    (stack es' : List Event) : openAfter stack (es ++ es') = openAfter stack es' := by
  induction h generalizing stack es' with
  | nil => rfl
  | skip _ ih => exact ih stack es'
  | take summary _ _ ihInner ih =>
    rw [List.cons_append, openAfter, List.append_assoc, ihInner, List.cons_append, openAfter,
      if_pos ⟨rfl, rfl⟩, ih]

/-- The enters left open are those of the open nodes. -/
theorem openAfter_breaks {ns path : List Node} {depth : Nat} {es : List Event}
    (h : Breaks ns depth es path) (stack : List Event) :
    openAfter stack es = some ((enters depth path).reverse ++ stack) := by
  induction h generalizing stack with
  | stop => rfl
  | skip _ ih => exact ih stack
  | take summary hinner _ ih =>
    rw [openAfter, openAfter_visits hinner, openAfter, if_pos ⟨rfl, rfl⟩, ih]
  | inside _ ih => rw [openAfter, ih, enters, List.reverse_cons, List.append_assoc]; rfl

theorem openAfter_traced {n : Node} {depth : Nat} {es : List Event} (h : n.Traced depth es) :
    openAfter [] es = some [] := by
  have h' : Visits [n] depth es := by simpa using Visits.append_traced h .nil
  simpa [openAfter] using openAfter_visits h' [] []

end Event

namespace Node.Broken

variable {n : Node} {depth : Nat} {es : List Event} {path : List Node}

/-- The events of a failed evaluation begin those of one that goes well. -/
theorem complete (h : n.Broken depth es path) : ∃ rest, n.Traced depth (es ++ rest) := by
  obtain ⟨inner, hinner, rfl⟩ := h
  obtain ⟨rest, h⟩ := hinner.complete
  exact ⟨rest ++ [Event.exit n.kind depth ""], _, "", h, by simp⟩

theorem isChain (h : n.Broken depth es path) :
    (n :: path).IsChain fun m n => n ∈ m.children := by
  obtain ⟨inner, hinner, rfl⟩ := h
  exact List.isChain_cons.mpr ⟨hinner.isChain.2, hinner.isChain.1⟩

theorem openAfter (h : n.Broken depth es path) :
    Event.openAfter [] es = some (Event.enters depth (n :: path)).reverse := by
  have hbreaks : Breaks [n] depth es (n :: path) := .of_broken h
  simpa using Event.openAfter_breaks hbreaks []

end Node.Broken

end ExprLang
