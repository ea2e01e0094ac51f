import ExprLang.Engine.Basic
import ExprLang.Proofs.Eval.Effects
import ExprLang.Proofs.Eval.Events

/-!
# ExprLang.Proofs.Eval.Tracing

What a traced evaluation reports.

`Eval.Reports` says of an evaluation that the events kept make no difference to it, and which events
it adds to them, whether it goes well or fails.  One induction over trees shows that the evaluation of
a node reports a bracketed word, cut short where it fails (`Eval.reports_find`).
-/

namespace ExprLang

namespace Eval

variable {σ α β : Type}

/-- Whatever events are kept, from a state and a host the evaluation has one result and leaves one
state and one host; and it adds one list of events, as `P` says if it goes well and as `Q` says if it
fails. -/
def Reports (P Q : List Event → Prop) (c : Eval σ α) : Prop :=
  ∀ state host, ∃ result state' host', ∃ es : List Event,
    (∀ events, c.runFrom ⟨state, host, events⟩ =
      (result, ⟨state', host', events.map fun old => old ++ es⟩)) ∧
    match result with
    | .ok _ => P es
    | .error _ => Q es

namespace Reports

variable {P P' Q Q' R : List Event → Prop} {c : Eval σ α}

theorem mono (h : Reports P Q c) (hP : ∀ es, P es → P' es) (hQ : ∀ es, Q es → Q' es) :
    Reports P' Q' c := by
  intro state host
  obtain ⟨result, state', host', es, hrun, hes⟩ := h state host
  refine ⟨result, state', host', es, hrun, ?_⟩
  cases result with
  | ok a => exact hP es hes
  | error e => exact hQ es hes

/-- An evaluation that reports nothing. -/
theorem of_silent (h : ∀ state host, ∃ result state' host',
      ∀ events, c.runFrom ⟨state, host, events⟩ = (result, ⟨state', host', events⟩))
    (hP : P []) (hQ : Q []) : Reports P Q c := by
  intro state host
  obtain ⟨result, state', host', hrun⟩ := h state host
  refine ⟨result, state', host', [], fun events => ?_, ?_⟩
  · rw [hrun]
    cases events with
    | none => rfl
    | some old => simp
  · cases result with
    | ok a => exact hP
    | error e => exact hQ

theorem pure (a : α) (hP : P []) : Reports P Q (Pure.pure a : Eval σ α) :=
  fun state host => ⟨.ok a, state, host, [], fun events => by simp [runFrom_pure], hP⟩

theorem record (event : Unit → Event) (hP : P [event ()]) :
    Reports P Q (Eval.record event : Eval σ Unit) := by
  refine fun state host => ⟨.ok (), state, host, [event ()], fun events => ?_, hP⟩
  rw [runFrom_record, Run.record]
  simp

/-- What comes after adds to what was reported. -/
theorem bind {f : α → Eval σ β} (hc : Reports P Q c)
    (hf : ∀ a es, P es → Reports (fun es' => R (es ++ es')) (fun es' => Q' (es ++ es')) (f a))
    (hQ : ∀ es, Q es → Q' es) : Reports R Q' (c >>= f) := by
  intro state host
  obtain ⟨result, state₁, host₁, es, hrun, hes⟩ := hc state host
  cases result with
  | error e =>
    refine ⟨.error e, state₁, host₁, es, fun events => ?_, hQ es hes⟩
    rw [runFrom_bind, hrun]
  | ok a =>
    obtain ⟨result, state', host', es', hrun', hes'⟩ := hf a es hes state₁ host₁
    refine ⟨result, state', host', es ++ es', fun events => ?_, hes'⟩
    rw [runFrom_bind_of_ok (hrun events), hrun', Option.map_map]
    have hassoc : ((fun old : Array Event => old ++ es') ∘ fun old : Array Event => old ++ es) =
        fun old : Array Event => old ++ (es ++ es') :=
      funext fun old => Array.ext' (by simp)
    rw [hassoc]

end Reports

/-! ## Silent evaluations -/

/-- The evaluation reports nothing. -/
abbrev Silent (c : Eval σ α) : Prop := Reports (· = []) (· = []) c

namespace Silent

theorem pure (a : α) : Silent (Pure.pure a : Eval σ α) :=
  Reports.pure a rfl

theorem fail (cause : FailureCause) (pos : Position) : Silent (Eval.fail cause pos : Eval σ α) :=
  .of_silent (fun state host => ⟨.error ⟨cause, pos⟩, state, host, fun _ => rfl⟩) rfl rfl

theorem bind {c : Eval σ α} {f : α → Eval σ β} (hc : Silent c) (hf : ∀ a, Silent (f a)) :
    Silent (c >>= f) :=
  Reports.bind hc (fun a es hes => by simpa [hes] using hf a) fun _ => id

theorem lookup (s : Surroundings σ) (name : String) : Silent (Eval.lookup s name) :=
  .of_silent (fun state host =>
    ⟨.ok (Scope.lookup ⟨s.vars, state⟩ name), state, host, fun _ => rfl⟩) rfl rfl

theorem assign (name : String) (v : Value) : Silent (Eval.assign name v : Eval σ Unit) :=
  .of_silent (fun state host => ⟨.ok (), state.insert name v, host, fun _ => rfl⟩) rfl rfl

theorem recordCaptures (groups : Option (List (Option String))) :
    Silent (Eval.recordCaptures groups : Eval σ Unit) :=
  .of_silent (fun state host => ⟨.ok (), Bag.setCaptures state groups, host, fun _ => rfl⟩) rfl rfl

theorem call (s : Surroundings σ) (pos : Position) (f : Function) (receiver : Value)
    (args : List Value) : Silent (Eval.call s pos f receiver args) := by
  refine .of_silent (fun state host => ?_) rfl rfl
  simp only [runFrom_call]
  generalize f.call s.host receiver args host = q
  obtain ⟨x, host'⟩ := q
  cases x with
  | ok v => exact ⟨.ok v, state, host', fun _ => rfl⟩
  | error e => exact ⟨.error ⟨.function e, pos⟩, state, host', fun _ => rfl⟩

theorem relate (pos : Position) (op : RelationalOp) (left right : Value) :
    Silent (Eval.relate pos op left right : Eval σ Value) := by
  have hmatch : ∀ expected, Silent (matchRegExp pos expected left right : Eval σ Value) := by
    intro expected
    rw [matchRegExp]
    cases right.toRegExp with
    | error e => exact fail _ _
    | ok r => exact (recordCaptures _).bind fun _ => pure _
  cases op with
  | isMatch => exact hmatch true
  | noMatch => exact hmatch false
  | _ => exact pure _

theorem findCallee (s : Surroundings σ) (pos : Position) (name : String) (optional : Bool) :
    Silent (Eval.findCallee s pos name optional) := by
  refine (lookup s name).bind fun v => ?_
  cases v.or ((s.functions.resolve name).map .function) with
  | some v => exact pure _
  | none =>
    cases optional with
    | true => exact pure _
    | false => exact fail _ _

end Silent

/-! ## Evaluations of nodes -/

/-- The evaluation evaluates some of the nodes at a depth, each at most once and in order. -/
abbrev Visiting (ns : List Node) (depth : Nat) (c : Eval σ α) : Prop :=
  c.Reports (Visits ns depth) fun es => ∃ path, Breaks ns depth es path

/-- The evaluation evaluates one node, at a depth. -/
abbrev Entering (n : Node) (depth : Nat) (c : Eval σ α) : Prop :=
  c.Reports (n.Traced depth) fun es => ∃ path, n.Broken depth es path

section Rules

variable {n : Node} {ns : List Node} {depth : Nat} {c : Eval σ α} {f : α → Eval σ β}

/-- No node need be evaluated. -/
theorem Silent.visiting (h : Silent c) : Visiting ns depth c :=
  h.mono (by rintro _ rfl; exact .none ns) (by rintro _ rfl; exact ⟨[], .stop⟩)

theorem Visiting.skip (h : Visiting ns depth c) : Visiting (n :: ns) depth c :=
  h.mono (fun _ => .skip) fun _ ⟨path, h⟩ => ⟨path, .skip h⟩

/-- The value of the node is converted. -/
theorem Entering.map (h : Entering n depth c) (g : α → β) :
    Entering n depth (c >>= fun a => Pure.pure (g a)) :=
  Reports.bind h (fun _ _ hes => .pure _ (by simpa using hes)) fun _ => id

/-- A node is evaluated, and then some of those after it. -/
theorem Entering.bind (h : Entering n depth c) (hf : ∀ a, Visiting ns depth (f a)) :
    Visiting (n :: ns) depth (c >>= f) :=
  Reports.bind h
    (fun a _ hes => (hf a).mono (fun _ => .append_traced hes)
      fun _ ⟨path, h⟩ => ⟨path, h.append_traced hes⟩)
    fun _ ⟨path, h⟩ => ⟨n :: path, .of_broken h⟩

/-- The evaluation goes on in silence. -/
theorem Visiting.last (h : Visiting ns depth c) (hf : ∀ a, Silent (f a)) :
    Visiting ns depth (c >>= f) :=
  Reports.bind h
    (fun a es hes => (hf a).mono (fun _ h => by rwa [h, List.append_nil])
      fun _ h => ⟨[], by rw [h, List.append_nil]; exact hes.breaks⟩)
    fun _ => id

theorem Visiting.map (h : Visiting ns depth c) (g : α → β) :
    Visiting ns depth (c >>= fun a => Pure.pure (g a)) :=
  h.last fun _ => .pure _

theorem Visiting.ite {p : Prop} [Decidable p] {c c' : Eval σ α} (h : Visiting ns depth c)
    (h' : Visiting ns depth c') : Visiting ns depth (if p then c else c') := by
  split
  · exact h
  · exact h'

/-- A node is entered, evaluated, and left if that goes well. -/
theorem Entering.visit {body : Eval σ Found} (h : Visiting n.children (depth + 1) body) :
    Entering n depth (visit n.kind depth n.position body) := by
  refine Reports.bind (P := (· = [.enter n.kind depth n.position])) (Q := fun _ => False)
    (.record _ rfl) ?_ (fun _ => False.elim)
  rintro - _ rfl
  refine Reports.bind h (fun found inner hinner => ?_)
    fun inner ⟨path, hinner⟩ => ⟨path, inner, hinner, rfl⟩
  refine Reports.bind (P := (· = [.exit n.kind depth found.value.summary])) (Q := fun _ => False)
    (.record _ rfl) ?_ (fun _ => False.elim)
  rintro - _ rfl
  exact Reports.pure found ⟨inner, found.value.summary, hinner, by simp⟩

end Rules

section Find

variable (s : Surroundings σ)

/-- What becomes of a callee: the arguments may be evaluated. -/
theorem visiting_apply {args : Eval σ (List Value)} {ns : List Node} {depth : Nat}
    (h : Visiting ns depth args) (pos : Position) (optional : Bool) (f : Found) :
    Visiting ns depth
      (match f.value with
        | .function g => do
          let vs ← args
          return Found.plain (← call s pos g f.receiver vs)
        | v =>
          if optional && v.isNullish then return Found.plain .undefined
          else fail (.notCallable v.typeName) pos : Eval σ Found) := by
  cases f.value with
  | function g => exact h.last fun vs => (Silent.call s pos g f.receiver vs).bind fun _ => .pure _
  | _ => exact .ite (Silent.pure _).visiting (Silent.fail _ _).visiting

mutual

/-- The evaluation of a node reports a bracketed word. -/
theorem entering_find (depth : Nat) (n : Node) : Entering n depth (find s depth n) := by
  rw [find.eq_def]
  refine .visit ?_
  cases n with
  | sequence pos ns => exact (visiting_findLast (depth + 1) .undefined ns).map _
  | assignment pos target value =>
    refine (entering_find (depth + 1) target).bind fun t => ?_
    cases t.value with
    | string name =>
      exact (entering_find (depth + 1) value).bind fun v =>
        ((Silent.assign name v.value).bind fun _ => .pure _).visiting
    | _ => exact (Silent.fail _ _).visiting
  | fallback pos a b =>
    refine (entering_find (depth + 1) a).bind fun _ => .ite (Silent.pure _).visiting ?_
    exact (entering_find (depth + 1) b).bind fun _ => (Silent.pure _).visiting
  | choice pos a b c =>
    refine (entering_find (depth + 1) a).bind fun _ => .ite ?_ ?_
    · exact (entering_find (depth + 1) b).bind fun _ => (Silent.pure _).visiting
    · exact .skip ((entering_find (depth + 1) c).bind fun _ => (Silent.pure _).visiting)
  | logical pos op a b =>
    have hb : ∀ g : Found → Found, Visiting [b] (depth + 1)
        (find s (depth + 1) b >>= fun found => Pure.pure (g found)) := fun g =>
      (entering_find (depth + 1) b).bind fun _ => (Silent.pure _).visiting
    cases op with
    | and => exact (entering_find (depth + 1) a).bind fun _ => .ite (hb _) (Silent.pure _).visiting
    | or => exact (entering_find (depth + 1) a).bind fun _ => .ite (Silent.pure _).visiting (hb _)
  | bitwise pos op a b =>
    exact (entering_find (depth + 1) a).bind fun _ =>
      (entering_find (depth + 1) b).bind fun _ => (Silent.pure _).visiting
  | relational pos op a b =>
    exact (entering_find (depth + 1) a).bind fun l => (entering_find (depth + 1) b).bind fun r =>
      ((Silent.relate pos op l.value r.value).bind fun _ => .pure _).visiting
  | arithmetic pos op a b =>
    exact (entering_find (depth + 1) a).bind fun _ =>
      (entering_find (depth + 1) b).bind fun _ => (Silent.pure _).visiting
  | unary pos op a => exact (entering_find (depth + 1) a).bind fun _ => (Silent.pure _).visiting
  | select pos base steps =>
    exact (entering_find (depth + 1) base).bind fun _ => visiting_follow (depth + 1) _ steps
  | call pos callee args optional =>
    -- A name that is called is entered and left here, not by the evaluation of a node.
    cases callee with
    | var p name =>
      have hcallee : Entering (.var p name) (depth + 1)
          (visit .var (depth + 1) p (findCallee s p name optional)) :=
        .visit (n := .var p name) (Silent.findCallee s p name optional).visiting
      exact hcallee.bind fun f =>
        visiting_apply s (visiting_findAll (depth + 1) args) pos optional f
    | _ =>
      exact (entering_find (depth + 1) _).bind fun f =>
        visiting_apply s (visiting_findAll (depth + 1) args) pos optional f
  | var pos name =>
    refine Silent.visiting ((Silent.lookup s name).bind fun v => ?_)
    cases v with
    | some v => exact .pure _
    | none => exact .fail _ _
  | array pos ns => exact (visiting_findAll (depth + 1) ns).map _
  | object pos ns => exact (visiting_findItems (depth + 1) [] ns).map _
  | item pos a b =>
    exact (entering_find (depth + 1) a).bind fun _ =>
      (entering_find (depth + 1) b).bind fun _ => (Silent.pure _).visiting
  | template pos ns => exact (visiting_findText (depth + 1) "" ns).map _
  | identifier | string | regexp | number | literal => exact (Silent.pure _).visiting

theorem visiting_findLast (depth : Nat) (last : Value) (ns : List Node) :
    Visiting ns depth (findLast s depth last ns) := by
  cases ns with
  | nil => exact (Silent.pure _).visiting
  | cons n ns =>
    exact (entering_find depth n).bind fun found => visiting_findLast depth found.value ns

theorem visiting_findAll (depth : Nat) (ns : List Node) :
    Visiting ns depth (findAll s depth ns) := by
  cases ns with
  | nil => exact (Silent.pure _).visiting
  | cons n ns => exact (entering_find depth n).bind fun _ => (visiting_findAll depth ns).map _

theorem visiting_findItems (depth : Nat) (entries : Bag) (ns : List Node) :
    Visiting ns depth (findItems s depth entries ns) := by
  cases ns with
  | nil => exact (Silent.pure _).visiting
  | cons n ns =>
    rw [findItems]
    refine .ite ((entering_find depth n).bind fun found => ?_) (Silent.fail _ _).visiting
    cases found.value <;> exact visiting_findItems depth _ ns

theorem visiting_findText (depth : Nat) (text : String) (ns : List Node) :
    Visiting ns depth (findText s depth text ns) := by
  cases ns with
  | nil => exact (Silent.pure _).visiting
  | cons n ns => exact (entering_find depth n).bind fun _ => visiting_findText depth _ ns

theorem visiting_follow (depth : Nat) (found : Found) (steps : List (Step Node)) :
    Visiting (steps.map Step.key) depth (follow s depth found steps) := by
  cases steps with
  | nil => exact (Silent.pure _).visiting
  | cons step steps =>
    rw [follow]
    refine .ite (Silent.pure _).visiting (.ite ?_ (Silent.fail _ _).visiting)
    exact (entering_findKey depth step).bind fun _ => visiting_follow depth _ steps

theorem entering_findKey (depth : Nat) (step : Step Node) :
    Entering step.key depth (findKey s depth step) := by
  obtain ⟨key, optional, pos⟩ := step
  exact (entering_find depth key).map _

end

end Find

end Eval

/-! ## Executions -/

/-- What an evaluation of a tree does whether or not it is traced, and the events if it is. -/
theorem Node.exists_evaluate {σ : Type} (tree : Node) (s : Surroundings σ) (state : Bag) (host : σ) :
    ∃ result state' host', ∃ es : List Event,
      (∀ events, tree.evaluate s ⟨state, host, events⟩ =
        (result, ⟨state', host', events.map fun old => old ++ es⟩)) ∧
      match result with
      | .ok _ => tree.Traced 0 es
      | .error _ => ∃ path, tree.Broken 0 es path := by
  obtain ⟨result, state', host', es, hrun, hes⟩ :=
    (Eval.entering_find s 0 tree).map Found.value state host
  refine ⟨result, state', host', es, fun events => ?_, ?_⟩
  · rw [evaluate_eq]
    exact hrun events
  · cases result with
    | ok v => exact hes
    | error f => exact hes

/-- A trace makes no difference to an execution, and it is a bracketed word.  The word begins with the
enter of the root and ends with its exit; directly inside a node some of its children are evaluated,
in their order and each at most once, one level deeper.  An execution that fails leaves such a word
cut short, in which the nodes still open are a path from the root. -/
theorem execute_traced {σ : Type} (e : Engine) (c : Compiled) (calls : Host σ) (vars state : Bag)
    (host : σ) :
    let plain := e.execute c calls vars state host false
    let traced := e.execute c calls vars state host true
    let events := traced.events.toList
    traced.result = plain.result ∧ traced.state = plain.state ∧ traced.host = plain.host ∧
      plain.events = #[] ∧
      match traced.result with
      | .ok _ => c.tree.Traced 0 events ∧ Event.openAfter [] events = some []
      | .error _ => (∃ rest, c.tree.Traced 0 (events ++ rest)) ∧
        ∃ path, (c.tree :: path).IsChain (fun m n => n ∈ m.children) ∧
          Event.openAfter [] events = some (Event.enters 0 (c.tree :: path)).reverse := by
  intro plain traced events
  obtain ⟨result, state', host', es, hrun, hes⟩ :=
    c.tree.exists_evaluate ⟨vars, e.functions, calls⟩ state host
  have hplain : plain = ⟨result.mapError (.ofFailure c.source), state', host', #[]⟩ := by
    simp [plain, Engine.execute, Node.outcome, hrun]
  have htraced : traced = ⟨result.mapError (.ofFailure c.source), state', host', es.toArray⟩ := by
    simp [traced, Engine.execute, Node.outcome, hrun]
  have hevents : events = es := by simp [events, htraced]
  rw [htraced, hplain, hevents]
  refine ⟨rfl, rfl, rfl, rfl, ?_⟩
  cases result with
  | ok v => exact ⟨hes, Event.openAfter_traced hes⟩
  | error f =>
    obtain ⟨path, hbroken⟩ := hes
    exact ⟨hbroken.complete, path, hbroken.isChain, hbroken.openAfter⟩

end ExprLang
