import ExprLang.Proofs.Tree.Phrase
import ExprLang.Tree.Precedence

/-!
# ExprLang.Proofs.Tree.Moved

Trees with other places.  `Node.moved` changes every place of a tree, and so a tree up to places is
the tree with all its places moved to one (`Node.moved_first`).
-/

namespace ExprLang

mutual

/-- The tree with its places changed. -/
def Node.moved (g : Position → Position) : Node → Node
  | .sequence p ns => .sequence (g p) (movedAll g ns)
  | .assignment p a b => .assignment (g p) (a.moved g) (b.moved g)
  | .fallback p a b => .fallback (g p) (a.moved g) (b.moved g)
  | .choice p a b c => .choice (g p) (a.moved g) (b.moved g) (c.moved g)
  | .logical p op a b => .logical (g p) op (a.moved g) (b.moved g)
  | .bitwise p op a b => .bitwise (g p) op (a.moved g) (b.moved g)
  | .relational p op a b => .relational (g p) op (a.moved g) (b.moved g)
  | .arithmetic p op a b => .arithmetic (g p) op (a.moved g) (b.moved g)
  | .unary p op a => .unary (g p) op (a.moved g)
  | .select p a steps => .select (g p) (a.moved g) (movedSteps g steps)
  | .call p a as optional => .call (g p) (a.moved g) (movedAll g as) optional
  | .identifier p w => .identifier (g p) w
  | .var p w => .var (g p) w
  | .array p ns => .array (g p) (movedAll g ns)
  | .object p ns => .object (g p) (movedAll g ns)
  | .item p a b => .item (g p) (a.moved g) (b.moved g)
  | .template p ns => .template (g p) (movedAll g ns)
  | .string p s => .string (g p) s
  | .regexp p r => .regexp (g p) r
  | .number p x => .number (g p) x
  | .literal p v => .literal (g p) v

def Node.movedAll (g : Position → Position) : List Node → List Node
  | [] => []
  | n :: ns => n.moved g :: movedAll g ns

def Node.movedSteps (g : Position → Position) : List (Step Node) → List (Step Node)
  | [] => []
  | s :: ss => movedStep g s :: movedSteps g ss

def Node.movedStep (g : Position → Position) : Step Node → Step Node
  | ⟨key, optional, p⟩ => ⟨key.moved g, optional, g p⟩

end

namespace Node

variable {g : Position → Position}

mutual

/-- Moved nowhere. -/
@[simp] theorem moved_id (n : Node) : n.moved id = n := by
  cases n <;> simp only [moved, id_eq, moved_id, movedAll_id, movedSteps_id]

@[simp] theorem movedAll_id (ns : List Node) : movedAll id ns = ns := by
  cases ns <;> simp only [movedAll, moved_id, movedAll_id]

@[simp] theorem movedSteps_id (steps : List (Step Node)) : movedSteps id steps = steps := by
  cases steps <;> simp only [movedSteps, movedStep_id, movedSteps_id]

@[simp] theorem movedStep_id (s : Step Node) : movedStep id s = s := by
  obtain ⟨key, optional, p⟩ := s
  simp only [movedStep, id_eq, moved_id]

end

@[simp] theorem kind_moved (n : Node) : (n.moved g).kind = n.kind := by
  cases n <;> rw [moved] <;> rfl

@[simp] theorem position_moved (n : Node) : (n.moved g).position = g n.position := by
  cases n <;> rw [moved] <;> rfl

@[simp] theorem position_movedStep (s : Step Node) : (movedStep g s).position = g s.position := by
  rw [movedStep]

@[simp] theorem optional_movedStep (s : Step Node) : (movedStep g s).optional = s.optional := by
  rw [movedStep]

theorem movedAll_eq_map (ns : List Node) : movedAll g ns = ns.map (moved g) := by
  induction ns with
  | nil => rw [movedAll, List.map_nil]
  | cons n ns ih => rw [movedAll, ih, List.map_cons]

theorem movedSteps_append (ss ts : List (Step Node)) :
    movedSteps g (ss ++ ts) = movedSteps g ss ++ movedSteps g ts := by
  induction ss with
  | nil => rfl
  | cons s ss ih => rw [List.cons_append, movedSteps, movedSteps, ih, List.cons_append]

mutual

/-- Moved to the first place. -/
@[simp] theorem moved_first (n : Node) : n.moved (fun _ => .first) = n.unplaced := by
  cases n <;> simp only [moved, unplaced, moved_first, movedAll_first, movedSteps_first]

@[simp] theorem movedAll_first (ns : List Node) :
    movedAll (fun _ => .first) ns = unplacedAll ns := by
  cases ns <;> simp only [movedAll, unplacedAll, moved_first, movedAll_first]

@[simp] theorem movedSteps_first (steps : List (Step Node)) :
    movedSteps (fun _ => .first) steps = unplacedSteps steps := by
  cases steps <;> simp only [movedSteps, unplacedSteps, movedStep_first, movedSteps_first]

@[simp] theorem movedStep_first (s : Step Node) :
    movedStep (fun _ => .first) s = unplacedStep s := by
  obtain ⟨key, optional, p⟩ := s
  simp only [movedStep, unplacedStep, moved_first]

end

end Node

namespace Piece

variable {g : Position → Position}

theorem moved_addStep (n : Node) (s : Step Node) :
    (addStep n s).moved g = addStep (n.moved g) (Node.movedStep g s) := by
  cases n with
  | select p base steps =>
    simp only [addStep, Node.moved, Node.movedSteps_append, Node.movedSteps]
  | _ => simp only [addStep, Node.moved, Node.movedSteps, Node.position]

theorem moved_joinOperands (p : Position) (op : InfixOp) (l r : Node) :
    (joinOperands p op l r).moved g = joinOperands (g p) op (l.moved g) (r.moved g) := by
  cases op with
  | _ => simp only [joinOperands, Node.moved]

end Piece

end ExprLang
