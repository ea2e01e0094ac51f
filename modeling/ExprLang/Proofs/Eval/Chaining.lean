import ExprLang.Proofs.Eval.Writes

/-!
# ExprLang.Proofs.Eval.Chaining

What optional chaining can change.

`Node.strict` writes every `?.` of a tree as the plain step or call.  The two trees are evaluated
alike up to the first place where a question mark matters; there the strict tree fails, and its
failure is of a kind that the question mark is meant to replace.  `Eval.Relaxes` says this of two
evaluations, with one rule for each way of putting evaluations together, and one induction over trees
shows it for a tree and its strict form (`Eval.relaxes_find`).
-/

namespace ExprLang

/-! ## Trees without question marks -/

mutual

/-- The tree with every step and call made plain. -/
def Node.strict : Node → Node
  | .sequence p ns => .sequence p (strictAll ns)
  | .assignment p a b => .assignment p a.strict b.strict
  | .fallback p a b => .fallback p a.strict b.strict
  | .choice p a b c => .choice p a.strict b.strict c.strict
  | .logical p op a b => .logical p op a.strict b.strict
  | .bitwise p op a b => .bitwise p op a.strict b.strict
  | .relational p op a b => .relational p op a.strict b.strict
  | .arithmetic p op a b => .arithmetic p op a.strict b.strict
  | .unary p op a => .unary p op a.strict
  | .select p a steps => .select p a.strict (strictSteps steps)
  | .call p a as _ => .call p a.strict (strictAll as) false
  | .identifier p w => .identifier p w
  | .var p w => .var p w
  | .array p ns => .array p (strictAll ns)
  | .object p ns => .object p (strictAll ns)
  | .item p a b => .item p a.strict b.strict
  | .template p ns => .template p (strictAll ns)
  | .string p s => .string p s
  | .regexp p r => .regexp p r
  | .number p x => .number p x
  | .literal p v => .literal p v

def Node.strictAll : List Node → List Node
  | [] => []
  | n :: ns => n.strict :: strictAll ns

def Node.strictSteps : List (Step Node) → List (Step Node)
  | [] => []
  | s :: ss => strictStep s :: strictSteps ss

def Node.strictStep : Step Node → Step Node
  | ⟨key, _, p⟩ => ⟨key.strict, false, p⟩

end

namespace Node

@[simp] theorem kind_strict (n : Node) : n.strict.kind = n.kind := by
  cases n <;> rw [strict] <;> rfl

@[simp] theorem position_strict (n : Node) : n.strict.position = n.position := by
  cases n <;> rw [strict] <;> rfl

@[simp] theorem position_strictStep (s : Step Node) : (strictStep s).position = s.position := by
  rw [strictStep]

@[simp] theorem optional_strictStep (s : Step Node) : (strictStep s).optional = false := by
  rw [strictStep]

/-- A strict step is refused as the step is. -/
@[simp] theorem refusal_strictStep (s : Step Node) (type : String) :
    (strictStep s).refusal type = s.refusal type := by
  obtain ⟨key, optional, p⟩ := s
  rw [strictStep]
  cases key <;> rw [strict] <;> rfl

end Node

/-! ## Failures that a question mark replaces -/

/-- What `?.` is there for: properties of what has none, calls of what is no function, and calls of
functions that do not exist. -/
def FailureCause.OfChain (c : FailureCause) : Prop :=
  c.kind = .propertyAccess ∨ c.kind = .notCallable ∨ c.kind = .unknownVariable ∧ c.origin = "call"

/-- Nothing has no properties. -/
theorem Value.isNullish_of_isContainer {v : Value} (h : v.isContainer = true) :
    v.isNullish = false := by
  cases v with
  | array | map => rfl
  | _ => cases h

theorem Step.ofChain_refusal (s : Step Node) (type : String) : (s.refusal type).OfChain := by
  obtain ⟨key, optional, p⟩ := s
  cases key <;> exact .inl rfl

namespace Eval

variable {σ α β : Type}

/-- The evaluation fails from the run, and the failure is one that a question mark replaces. -/
def FailsInChain (c : Eval σ α) (r : Run σ) : Prop :=
  ∃ f r', c.runFrom r = (.error f, r') ∧ f.cause.OfChain

/-- From every run, `c` comes to the same as its strict form, or else the strict form fails where a
question mark would not. -/
def Relaxes (c strict : Eval σ α) : Prop :=
  ∀ r, strict.FailsInChain r ∨ c.runFrom r = strict.runFrom r

namespace Relaxes

variable {c c' : Eval σ α} {f f' : α → Eval σ β}

theorem refl (c : Eval σ α) : c.Relaxes c := fun _ => .inr rfl

/-- Whatever may be put in the place of such a failure. -/
theorem of_ofChain {cause : FailureCause} (h : cause.OfChain) (c : Eval σ α) (pos : Position) :
    c.Relaxes (fail cause pos) :=
  fun r => .inl ⟨⟨cause, pos⟩, r, rfl, h⟩

/-- Two evaluations that agree up to the first such failure go on in the same way. -/
theorem bind (hc : c.Relaxes c') (hf : ∀ a, (f a).Relaxes (f' a)) :
    (c >>= f).Relaxes (c' >>= f') := by
  intro r
  rcases hc r with ⟨e, r', he, hchain⟩ | heq
  · refine .inl ⟨e, r', ?_, hchain⟩
    rw [runFrom_bind, he]
  · unfold FailsInChain
    rw [runFrom_bind, runFrom_bind, heq]
    split
    · exact hf _ _
    · exact .inr rfl

theorem map (hc : c.Relaxes c') (g : α → β) :
    (c >>= fun a => pure (g a)).Relaxes (c' >>= fun a => pure (g a)) :=
  hc.bind fun _ => refl _

theorem ite {p : Prop} [Decidable p] {d d' : Eval σ α} (hc : c.Relaxes c') (hd : d.Relaxes d') :
    (if p then c else d).Relaxes (if p then c' else d') := by
  split
  · exact hc
  · exact hd

/-- Recording events changes nothing. -/
theorem visit {body body' : Eval σ Found} (h : body.Relaxes body') (kind : NodeKind) (depth : Nat)
    (pos : Position) : (visit kind depth pos body).Relaxes (visit kind depth pos body') :=
  (refl _).bind fun _ => h.bind fun _ => refl _

end Relaxes

/-! ## Trees -/

section Find

variable (s : Surroundings σ)

/-- A function that does not exist is nothing where the call is optional. -/
theorem relaxes_findCallee (pos : Position) (name : String) (optional : Bool) :
    (findCallee s pos name optional).Relaxes (findCallee s pos name false) := by
  refine (Relaxes.refl _).bind fun v => ?_
  cases v.or ((s.functions.resolve name).map .function) with
  | some v => exact .refl _
  | none => exact .of_ofChain (.inr (.inr ⟨rfl, rfl⟩)) _ pos

/-- What becomes of a callee: nothing but a call that is not possible is replaced. -/
theorem relaxes_apply {args args' : Eval σ (List Value)} (h : args.Relaxes args') (pos : Position)
    (optional : Bool) (f : Found) :
    Relaxes
      (match f.value with
        | .function g => do
          let vs ← args
          return Found.plain (← call s pos g f.receiver vs)
        | v =>
          if optional && v.isNullish then return Found.plain .undefined
          else fail (.notCallable v.typeName) pos : Eval σ Found)
      (match f.value with
        | .function g => do
          let vs ← args'
          return Found.plain (← call s pos g f.receiver vs)
        | v =>
          if false && v.isNullish then return Found.plain .undefined
          else fail (.notCallable v.typeName) pos) := by
  cases f.value with
  | function g => exact h.bind fun _ => .refl _
  | _ => exact .of_ofChain (.inr (.inl rfl)) _ pos

mutual

/-- A tree is evaluated as its strict form, up to the first failure that a question mark replaces. -/
theorem relaxes_find (depth : Nat) (n : Node) :
    (find s depth n).Relaxes (find s depth n.strict) := by
  rw [find.eq_def, find.eq_def s depth n.strict, Node.kind_strict, Node.position_strict]
  refine .visit ?_ _ _ _
  cases n with
  | sequence pos ns => exact (relaxes_findLast (depth + 1) .undefined ns).map _
  | assignment pos target value =>
    rw [Node.strict]
    refine (relaxes_find (depth + 1) target).bind fun t => ?_
    cases t.value with
    | string name => exact (relaxes_find (depth + 1) value).bind fun _ => .refl _
    | _ => rw [Node.position_strict]; exact .refl _
  | fallback pos a b =>
    rw [Node.strict]
    exact (relaxes_find (depth + 1) a).bind fun _ =>
      .ite (.refl _) ((relaxes_find (depth + 1) b).map _)
  | choice pos a b c =>
    rw [Node.strict]
    exact (relaxes_find (depth + 1) a).bind fun _ =>
      .ite ((relaxes_find (depth + 1) b).map _) ((relaxes_find (depth + 1) c).map _)
  | logical pos op a b =>
    rw [Node.strict]
    cases op with
    | and =>
      exact (relaxes_find (depth + 1) a).bind fun _ =>
        .ite ((relaxes_find (depth + 1) b).map _) (.refl _)
    | or =>
      exact (relaxes_find (depth + 1) a).bind fun _ =>
        .ite (.refl _) ((relaxes_find (depth + 1) b).map _)
  | bitwise pos op a b =>
    rw [Node.strict]
    exact (relaxes_find (depth + 1) a).bind fun _ => (relaxes_find (depth + 1) b).map _
  | relational pos op a b =>
    rw [Node.strict]
    exact (relaxes_find (depth + 1) a).bind fun _ =>
      (relaxes_find (depth + 1) b).bind fun _ => .refl _
  | arithmetic pos op a b =>
    rw [Node.strict]
    exact (relaxes_find (depth + 1) a).bind fun _ => (relaxes_find (depth + 1) b).map _
  | unary pos op a =>
    rw [Node.strict]
    exact (relaxes_find (depth + 1) a).map _
  | select pos base steps =>
    rw [Node.strict]
    exact (relaxes_find (depth + 1) base).bind fun _ => relaxes_follow (depth + 1) _ steps
  | call pos callee args optional =>
    rw [Node.strict]
    cases callee with
    | var p name =>
      exact ((relaxes_findCallee s p name optional).visit _ _ _).bind fun f =>
        relaxes_apply s (relaxes_findAll (depth + 1) args) pos optional f
    | _ =>
      exact (relaxes_find (depth + 1) _).bind fun f =>
        relaxes_apply s (relaxes_findAll (depth + 1) args) pos optional f
  | array pos ns => exact (relaxes_findAll (depth + 1) ns).map _
  | object pos ns => exact (relaxes_findItems (depth + 1) [] ns).map _
  | item pos a b =>
    rw [Node.strict]
    exact (relaxes_find (depth + 1) a).bind fun _ => (relaxes_find (depth + 1) b).map _
  | template pos ns => exact (relaxes_findText (depth + 1) "" ns).map _
  | identifier | var | string | regexp | number | literal =>
    rw [Node.strict]
    exact .refl _

theorem relaxes_findLast (depth : Nat) (last : Value) (ns : List Node) :
    (findLast s depth last ns).Relaxes (findLast s depth last (Node.strictAll ns)) := by
  cases ns with
  | nil => exact .refl _
  | cons n ns =>
    exact (relaxes_find depth n).bind fun found => relaxes_findLast depth found.value ns

theorem relaxes_findAll (depth : Nat) (ns : List Node) :
    (findAll s depth ns).Relaxes (findAll s depth (Node.strictAll ns)) := by
  cases ns with
  | nil => exact .refl _
  | cons n ns => exact (relaxes_find depth n).bind fun _ => (relaxes_findAll depth ns).map _

theorem relaxes_findItems (depth : Nat) (entries : Bag) (ns : List Node) :
    (findItems s depth entries ns).Relaxes (findItems s depth entries (Node.strictAll ns)) := by
  cases ns with
  | nil => exact .refl _
  | cons n ns =>
    rw [Node.strictAll, findItems, findItems, Node.kind_strict, Node.position_strict]
    refine .ite ((relaxes_find depth n).bind fun found => ?_) (.refl _)
    cases found.value <;> exact relaxes_findItems depth _ ns

theorem relaxes_findText (depth : Nat) (text : String) (ns : List Node) :
    (findText s depth text ns).Relaxes (findText s depth text (Node.strictAll ns)) := by
  cases ns with
  | nil => exact .refl _
  | cons n ns => exact (relaxes_find depth n).bind fun _ => relaxes_findText depth _ ns

/-- A selection ends at an optional step from nothing, where the strict step is refused. -/
theorem relaxes_follow (depth : Nat) (found : Found) (steps : List (Step Node)) :
    (follow s depth found steps).Relaxes (follow s depth found (Node.strictSteps steps)) := by
  cases steps with
  | nil => exact .refl _
  | cons step steps =>
    rw [Node.strictSteps, follow, follow, Node.optional_strictStep, Node.refusal_strictStep,
      Node.position_strictStep, Bool.false_and, if_neg Bool.false_ne_true]
    cases hcontainer : found.value.isContainer with
    | false =>
      rw [if_neg Bool.false_ne_true, if_neg Bool.false_ne_true]
      exact .of_ofChain (step.ofChain_refusal _) _ _
    | true =>
      rw [Value.isNullish_of_isContainer hcontainer, Bool.and_false, if_neg Bool.false_ne_true,
        if_pos rfl, if_pos rfl]
      exact (relaxes_findKey depth step).bind fun _ => relaxes_follow depth _ steps

theorem relaxes_findKey (depth : Nat) (step : Step Node) :
    (findKey s depth step).Relaxes (findKey s depth (Node.strictStep step)) := by
  obtain ⟨key, optional, pos⟩ := step
  exact (relaxes_find depth key).map _

end

end Find

end Eval

/-- Question marks replace failures of chains and nothing else.  Where the strict form of a tree has a
value, or fails in any other way, the tree has the same value or failure and leaves the same run: the
same state, and the same state of the host, which may be a record of all calls made of it. -/
theorem evaluate_eq_strict {σ : Type} (tree : Node) (s : Surroundings σ) (r : Run σ)
    (h : ∀ f, (tree.strict.evaluate s r).1 = .error f → ¬ f.cause.OfChain) :
    tree.evaluate s r = tree.strict.evaluate s r := by
  have hrelaxes : (Found.value <$> Eval.find s 0 tree).Relaxes
      (Found.value <$> Eval.find s 0 tree.strict) := by
    rw [map_eq_pure_bind, map_eq_pure_bind]
    exact (Eval.relaxes_find s 0 tree).map _
  rcases hrelaxes r with ⟨f, r', hf, hchain⟩ | heq
  · exact absurd hchain (h f (congrArg Prod.fst hf))
  · exact heq

/-- A call of one of a host's functions. -/
structure HostCall where
  index : Nat
  receiver : Value
  args : List Value

/-- A host that also keeps a record of the calls, the first one first. -/
def Host.recorded {σ : Type} (h : Host σ) : Host (σ × List HostCall) where
  call i receiver args s :=
    let (result, t) := h.call i receiver args s.1
    (result, t, s.2 ++ [⟨i, receiver, args⟩])

/-- An optional call with an optional step in its argument, then an unknown variable. -/
theorem evaluate_eq_strict_unknown :
    let a : Node := .select ⟨1, 9⟩ (.var ⟨1, 9⟩ "a") [⟨.identifier ⟨1, 12⟩ "b", true, ⟨1, 10⟩⟩]
    let tree : Node := .array .first
      [.call ⟨1, 6⟩ (.var ⟨1, 2⟩ "note") [a] true, .var ⟨1, 16⟩ "c"]
    let s : Surroundings (Unit × List HostCall) :=
      ⟨[("a", .map [("b", .null)])], Registry.standard.define "note" (.host 0), Host.none.recorded⟩
    let r : Run (Unit × List HostCall) := ⟨[], ((), []), none⟩
    (tree.evaluate s r).1 = .error ⟨.unknownVariable "c", ⟨1, 16⟩⟩ ∧
      (tree.evaluate s r).2.host.2 = [⟨0, .undefined, [.null]⟩] ∧
      tree.evaluate s r = tree.strict.evaluate s r := by
  intro a tree s r
  have hfails : (tree.strict.evaluate s r).1 = .error ⟨.unknownVariable "c", ⟨1, 16⟩⟩ := rfl
  have hkind : ¬ (FailureCause.unknownVariable "c").OfChain := by
    rintro (h | h | ⟨-, h⟩)
    · cases h
    · cases h
    · exact absurd h (by decide)
  have heq := evaluate_eq_strict tree s r fun f hf => by
    rw [hfails] at hf
    cases hf
    exact hkind
  exact ⟨heq ▸ hfails, rfl, heq⟩

end ExprLang
