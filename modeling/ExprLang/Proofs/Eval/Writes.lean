import ExprLang.Eval.Evaluate

/-!
# ExprLang.Proofs.Eval.Writes

What an evaluation writes to the state, in order.

Two things write: an assignment, and a match that completes.  `Eval.writes` lists them for the
evaluation of a node from any run.  It follows `Eval.find` part by part: what is evaluated next, and
from which run, is asked of `Eval.find` itself.
-/

namespace ExprLang

/-! ## Running evaluations -/

namespace Eval

variable {σ α β : Type}

/-- The result of an evaluation that begins with a run, and the run it leaves. -/
def runFrom (c : Eval σ α) (r : Run σ) : Except Failure α × Run σ := (ExceptT.run c).run r

theorem runFrom_pure (a : α) (r : Run σ) : (pure a : Eval σ α).runFrom r = (.ok a, r) := rfl

theorem runFrom_bind (c : Eval σ α) (f : α → Eval σ β) (r : Run σ) :
    (c >>= f).runFrom r =
      match c.runFrom r with
      | (.ok a, r') => (f a).runFrom r'
      | (.error e, r') => (.error e, r') := by
  change (match c.runFrom r with | (x, r') => (ExceptT.bindCont f x).run r') = _
  generalize c.runFrom r = q
  obtain ⟨x, r'⟩ := q
  cases x <;> rfl

/-- An evaluation that goes well is followed by the next. -/
theorem runFrom_bind_of_ok {c : Eval σ α} {r r' : Run σ} {a : α} (h : c.runFrom r = (.ok a, r'))
    (f : α → Eval σ β) : (c >>= f).runFrom r = (f a).runFrom r' := by
  rw [runFrom_bind, h]

theorem exists_of_runFrom_bind {c : Eval σ α} {f : α → Eval σ β} {r r' : Run σ} {b : β}
    (h : (c >>= f).runFrom r = (.ok b, r')) :
    ∃ a r₁, c.runFrom r = (.ok a, r₁) ∧ (f a).runFrom r₁ = (.ok b, r') := by
  rw [runFrom_bind] at h
  generalize c.runFrom r = q at h
  obtain ⟨x, r₁⟩ := q
  cases x with
  | ok a => exact ⟨a, r₁, rfl, h⟩
  | error e => cases h

end Eval

/-- A run in which an event was recorded. -/
def Run.record {σ : Type} (r : Run σ) (e : Event) : Run σ :=
  { r with events := r.events.map fun es => es.push e }

@[simp] theorem Run.state_record {σ : Type} (r : Run σ) (e : Event) :
    (r.record e).state = r.state := rfl

theorem Eval.runFrom_record {σ : Type} (e : Unit → Event) (r : Run σ) :
    (Eval.record e).runFrom r = (.ok (), r.record (e ())) := rfl

/-- A node is entered, and left if its evaluation goes well. -/
theorem Eval.runFrom_visit {σ : Type} (kind : NodeKind) (depth : Nat) (pos : Position)
    (body : Eval σ Found) (r : Run σ) : (visit kind depth pos body).runFrom r =
      match body.runFrom (r.record (.enter kind depth pos)) with
      | (.ok found, r') => (.ok found, r'.record (.exit kind depth found.value.summary))
      | (.error e, r') => (.error e, r') := by
  rw [visit, runFrom_bind_of_ok (runFrom_record _ r), runFrom_bind]
  generalize body.runFrom _ = q
  obtain ⟨x, r'⟩ := q
  cases x <;> rfl

/-! ## Writes -/

/-- Something written to the state. -/
inductive Write
  /-- A name is given a value. -/
  | assigned (name : String) (v : Value)
  /-- A match leaves its groups, or none if it did not succeed. -/
  | matched (groups : Option (List (Option String)))

/-- The state after a write. -/
def Write.apply (state : Bag) : Write → Bag
  | .assigned name v => state.insert name v
  | .matched groups => Bag.setCaptures state groups

/-- The state after some writes. -/
def Bag.replay (state : Bag) (ws : List Write) : Bag := ws.foldl Write.apply state

@[simp] theorem Bag.replay_nil (state : Bag) : Bag.replay state [] = state := rfl

theorem Bag.replay_append (state : Bag) (ws ws' : List Write) :
    Bag.replay state (ws ++ ws') = Bag.replay (Bag.replay state ws) ws' :=
  List.foldl_append

/-- What is written from each run on. -/
abbrev Log (σ : Type) := Run σ → List Write

namespace Log

variable {σ α : Type}

/-- Nothing is written. -/
def none : Log σ := fun _ => []

/-- What `c` writes, and what is written after it, if it goes well. -/
def before (L : Log σ) (c : Eval σ α) (K : α → Log σ) : Log σ := fun r =>
  L r ++ match c.runFrom r with
    | (.ok a, r') => K a r'
    | (.error _, _) => []

/-- What is followed by no writes is all that is written. -/
@[simp] theorem before_none (L : Log σ) (c : Eval σ α) : L.before c (fun _ => .none) = L := by
  funext r
  rw [before]
  split <;> exact List.append_nil _

/-- What is written inside a node that is entered. -/
def inside (kind : NodeKind) (depth : Nat) (pos : Position) (L : Log σ) : Log σ := fun r =>
  L (r.record (.enter kind depth pos))

end Log

namespace Eval

variable {σ : Type}

/-- What a comparison or a match of two values writes: a match whose pattern is one writes its
groups. -/
def relateWrites (op : RelationalOp) (left right : Value) : Log σ :=
  match op with
  | .isMatch | .noMatch =>
    match right.toRegExp with
    | .ok r => fun _ => [.matched (r.captures left.stringify)]
    | .error _ => .none
  | _ => .none

mutual

/-- What the evaluation of a node writes, in order. -/
def writes (s : Surroundings σ) (depth : Nat) (n : Node) : Log σ :=
  .inside n.kind depth n.position <|
    match n with
    | .sequence _ ns | .array _ ns | .template _ ns => writesAll s (depth + 1) ns
    | .assignment _ target value =>
      (writes s (depth + 1) target).before (find s (depth + 1) target) fun t =>
        match t.value with
        | .string name =>
          (writes s (depth + 1) value).before (find s (depth + 1) value) fun v _ =>
            [.assigned name v.value]
        | _ => .none
    | .fallback _ value other =>
      (writes s (depth + 1) value).before (find s (depth + 1) value) fun v =>
        if v.value.truthy then .none else writes s (depth + 1) other
    | .choice _ condition yes no =>
      (writes s (depth + 1) condition).before (find s (depth + 1) condition) fun c =>
        if c.value.truthy then writes s (depth + 1) yes else writes s (depth + 1) no
    | .logical _ .and left right =>
      (writes s (depth + 1) left).before (find s (depth + 1) left) fun l =>
        if l.value.truthy then writes s (depth + 1) right else .none
    | .logical _ .or left right =>
      (writes s (depth + 1) left).before (find s (depth + 1) left) fun l =>
        if l.value.truthy then .none else writes s (depth + 1) right
    | .relational _ op left right =>
      (writes s (depth + 1) left).before (find s (depth + 1) left) fun l =>
        (writes s (depth + 1) right).before (find s (depth + 1) right) fun r =>
          relateWrites op l.value r.value
    | .bitwise _ _ left right | .arithmetic _ _ left right =>
      (writes s (depth + 1) left).before (find s (depth + 1) left) fun _ =>
        writes s (depth + 1) right
    | .unary _ _ operand => writes s (depth + 1) operand
    | .select _ base steps =>
      (writes s (depth + 1) base).before (find s (depth + 1) base) fun v =>
        writesSteps s (depth + 1) (.plain v.value) steps
    | .call _ callee args optional =>
      match callee with
      | .var p name =>
        Log.before .none (visit .var (depth + 1) p (findCallee s p name optional)) fun f =>
          match f.value with
          | .function _ => writesAll s (depth + 1) args
          | _ => .none
      | _ =>
        (writes s (depth + 1) callee).before (find s (depth + 1) callee) fun f =>
          match f.value with
          | .function _ => writesAll s (depth + 1) args
          | _ => .none
    | .object _ items => writesItems s (depth + 1) items
    | .item _ key value =>
      (writes s (depth + 1) key).before (find s (depth + 1) key) fun _ =>
        writes s (depth + 1) value
    | .identifier .. | .var .. | .string .. | .regexp .. | .number .. | .literal .. => .none

/-- What the evaluation of nodes one after the other writes. -/
def writesAll (s : Surroundings σ) (depth : Nat) : List Node → Log σ
  | [] => .none
  | n :: ns => (writes s depth n).before (find s depth n) fun _ => writesAll s depth ns

/-- What the items of an object write; anything else ends the evaluation. -/
def writesItems (s : Surroundings σ) (depth : Nat) : List Node → Log σ
  | [] => .none
  | n :: ns =>
    if n.kind = .item then
      (writes s depth n).before (find s depth n) fun _ => writesItems s depth ns
    else .none

/-- What the steps of a selection write, each with its key, as far as they are taken. -/
def writesSteps (s : Surroundings σ) (depth : Nat) (found : Found) : List (Step Node) → Log σ
  | [] => .none
  | step :: steps =>
    if step.optional && found.value.isNullish then .none
    else if found.value.isContainer then
      (writesKey s depth step).before (findKey s depth step) fun key =>
        writesSteps s depth ⟨(found.value.property? key).getD .undefined, found.value⟩ steps
    else .none

/-- What the key of a step writes. -/
def writesKey (s : Surroundings σ) (depth : Nat) : Step Node → Log σ
  | ⟨key, _, _⟩ => writes s depth key

end

end Eval

/-- What the evaluation of a tree writes, in order. -/
def Node.writes {σ : Type} (n : Node) (s : Surroundings σ) (r : Run σ) : List Write :=
  Eval.writes s 0 n r

end ExprLang
