import ExprLang.Eval.Event
import ExprLang.Eval.Failure
import ExprLang.Eval.Scope
import ExprLang.Function.Host

/-!
# ExprLang.Eval.Run

The effects of an evaluation.  It reads the caller's variables and functions, which stay as they
are, and changes three things: the state, what the host keeps for its functions, and the list of
events, if one is kept.  A failure ends it and leaves all three as they are at that moment.
-/

namespace ExprLang

/-- What an evaluation reads. -/
structure Surroundings (σ : Type) where
  vars : Bag
  functions : Registry
  host : Host σ

/-- What an evaluation changes. -/
structure Run (σ : Type) where
  state : Bag
  host : σ
  /-- The events so far, if the evaluation is traced. -/
  events : Option (Array Event)

/-- An evaluation. -/
abbrev Eval (σ α : Type) : Type := ExceptT Failure (StateM (Run σ)) α

namespace Eval

variable {σ α : Type}

/-- Fails at a place. -/
def fail (cause : FailureCause) (pos : Position) : Eval σ α := throw ⟨cause, pos⟩

/-- Adds an event if the evaluation is traced. -/
def record (event : Unit → Event) : Eval σ Unit :=
  modify fun r => { r with events := r.events.map fun es => es.push (event ()) }

/-- The value of a variable. -/
def lookup (s : Surroundings σ) (name : String) : Eval σ (Option Value) := do
  return Scope.lookup ⟨s.vars, (← get).state⟩ name

/-- Gives a variable of the state a value. -/
def assign (name : String) (v : Value) : Eval σ Unit :=
  modify fun r => { r with state := r.state.insert name v }

/-- Leaves the groups of a match in the capture variables. -/
def recordCaptures (groups : Option (List (Option String))) : Eval σ Unit :=
  modify fun r => { r with state := Bag.setCaptures r.state groups }

/-- Calls a function on behalf of the node at a place. -/
def call (s : Surroundings σ) (pos : Position) (f : Function) (receiver : Value)
    (args : List Value) : Eval σ Value := do
  let r ← get
  let (result, host) := f.call s.host receiver args r.host
  set { r with host := host }
  match result with
  | .ok v => return v
  | .error e => fail (.function e) pos

end Eval

end ExprLang
