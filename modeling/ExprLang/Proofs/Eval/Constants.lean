import ExprLang.Proofs.Eval.Writes
import ExprLang.Proofs.Value.Entries

/-!
# ExprLang.Proofs.Eval.Constants

Nodes whose value can be told without a run: `Node.Has` says that the evaluation of a node goes well
wherever the state is the one given, gives the value and changes neither the state nor what the host
keeps, and `Node.Gives` says it of every state.  Literals give their values, and so do arrays and
objects of such nodes.
-/

namespace ExprLang

namespace Eval

variable {σ α β : Type} {state : Bag}

/-- From any run with the state given the evaluation gives the same, and leaves the state and the host
as they are. -/
def ReturnsIn (state : Bag) (c : Eval σ α) (a : α) : Prop :=
  ∀ r, r.state = state → ∃ r', c.runFrom r = (.ok a, r') ∧ r'.state = state ∧ r'.host = r.host

namespace ReturnsIn

variable {c : Eval σ α} {a : α} {b : β}

theorem pure (a : α) : ReturnsIn state (Pure.pure a : Eval σ α) a :=
  fun r hr => ⟨r, rfl, hr, rfl⟩

theorem bind {f : α → Eval σ β} (hc : c.ReturnsIn state a) (hf : (f a).ReturnsIn state b) :
    (c >>= f).ReturnsIn state b := by
  intro r hr
  obtain ⟨r₁, hr₁, hstate₁, hhost₁⟩ := hc r hr
  obtain ⟨r', hr', hstate, hhost⟩ := hf r₁ hstate₁
  exact ⟨r', (runFrom_bind_of_ok hr₁ f).trans hr', hstate, hhost.trans hhost₁⟩

theorem map (hc : c.ReturnsIn state a) (f : α → β) :
    (do let x ← c; Pure.pure (f x) : Eval σ β).ReturnsIn state (f a) :=
  hc.bind (pure (f a))

theorem visit {body : Eval σ Found} {found : Found} (h : body.ReturnsIn state found)
    (kind : NodeKind) (depth : Nat) (pos : Position) :
    (visit kind depth pos body).ReturnsIn state found := by
  intro r hr
  obtain ⟨r', hr', hstate, hhost⟩ := h (r.record (.enter kind depth pos)) hr
  refine ⟨r'.record (.exit kind depth found.value.summary), ?_, hstate, hhost⟩
  rw [runFrom_visit, hr']

end ReturnsIn

/-- The evaluation gives the same from every run, and leaves the state and the host as they are. -/
def Returns (c : Eval σ α) (a : α) : Prop :=
  ∀ r, ∃ r', c.runFrom r = (.ok a, r') ∧ r'.state = r.state ∧ r'.host = r.host

theorem returns_iff {c : Eval σ α} {a : α} : c.Returns a ↔ ∀ state, c.ReturnsIn state a := by
  constructor
  · rintro h state r rfl
    exact h r
  · exact fun h r => h r.state r rfl

namespace Returns

variable {c : Eval σ α} {a : α} {b : β}

theorem pure (a : α) : Returns (Pure.pure a : Eval σ α) a := fun r => ⟨r, rfl, rfl, rfl⟩

theorem bind {f : α → Eval σ β} (hc : c.Returns a) (hf : (f a).Returns b) :
    (c >>= f).Returns b :=
  returns_iff.mpr fun state => (returns_iff.mp hc state).bind (returns_iff.mp hf state)

theorem map (hc : c.Returns a) (f : α → β) :
    (do let x ← c; Pure.pure (f x) : Eval σ β).Returns (f a) :=
  hc.bind (pure (f a))

theorem visit {body : Eval σ Found} {found : Found} (h : body.Returns found) (kind : NodeKind)
    (depth : Nat) (pos : Position) : (visit kind depth pos body).Returns found :=
  returns_iff.mpr fun state => (returns_iff.mp h state).visit kind depth pos

end Returns

end Eval

open Eval

/-! ## Nodes -/

/-- Over the variables in sight the node has the value, and its evaluation changes nothing. -/
def Node.Has {σ : Type} (s : Surroundings σ) (state : Bag) (n : Node) (v : Value) : Prop :=
  ∀ depth, ∃ receiver, (find s depth n).ReturnsIn state ⟨v, receiver⟩

/-- The node has the value wherever it is evaluated, and its evaluation changes nothing. -/
def Node.Gives (n : Node) (v : Value) : Prop :=
  ∀ {σ : Type} (s : Surroundings σ) (depth : Nat), (find s depth n).Returns (.plain v)

/-- The node is an item of an object, with a name and a value. -/
def Node.GivesEntry (n : Node) (e : String × Value) : Prop :=
  ∃ pos key value, n = .item pos key value ∧ key.Gives (.string e.1) ∧ value.Gives e.2

namespace Node

variable {n key value : Node} {ns : List Node} {v : Value} {vs : List Value}

theorem Gives.has {σ : Type} {s : Surroundings σ} {state : Bag} (h : n.Gives v) : n.Has s state v :=
  fun depth => ⟨.undefined, returns_iff.mp (h s depth) state⟩

/-- The value of a tree that has it, and what its evaluation leaves. -/
theorem Has.evaluate {σ : Type} {s : Surroundings σ} {r : Run σ} (h : n.Has s r.state v) :
    (n.evaluate s r).1 = .ok v ∧ (n.evaluate s r).2.state = r.state ∧
      (n.evaluate s r).2.host = r.host := by
  obtain ⟨_, hreturns⟩ := h 0
  obtain ⟨r', hr', hstate, hhost⟩ := (hreturns.map Found.value) r rfl
  have hevaluate : n.evaluate s r = (.ok v, r') := hr'
  rw [hevaluate]
  exact ⟨rfl, hstate, hhost⟩

/-- The value of a tree that gives it, and what its evaluation leaves. -/
theorem Gives.evaluate (h : n.Gives v) {σ : Type} (s : Surroundings σ) (r : Run σ) :
    (n.evaluate s r).1 = .ok v ∧ (n.evaluate s r).2.state = r.state ∧
      (n.evaluate s r).2.host = r.host :=
  h.has.evaluate

theorem gives_string (pos : Position) (text : String) : (string pos text).Gives (.string text) :=
  fun _ _ => .visit (.pure _) _ _ _

theorem gives_number (pos : Position) (x : Float) : (number pos x).Gives (.number x) :=
  fun _ _ => .visit (.pure _) _ _ _

theorem gives_regexp (pos : Position) (r : RegExp) : (regexp pos r).Gives (.regexp r) :=
  fun _ _ => .visit (.pure _) _ _ _

theorem gives_literal (pos : Position) (v : Value) : (literal pos v).Gives v :=
  fun _ _ => .visit (.pure _) _ _ _

theorem gives_arithmetic (pos : Position) (op : ArithmeticOp) {left right : Node} {w : Value}
    (hleft : left.Gives v) (hright : right.Gives w) :
    (arithmetic pos op left right).Gives (op.apply v w) :=
  fun s depth => .visit ((hleft s (depth + 1)).bind ((hright s (depth + 1)).map _)) _ _ _

theorem returns_findAll {σ : Type} (s : Surroundings σ) (depth : Nat)
    (h : List.Forall₂ Gives ns vs) : (findAll s depth ns).Returns vs := by
  induction h with
  | nil => exact .pure []
  | cons hn _ ih => exact (hn s depth).bind (ih.map _)

theorem gives_array (pos : Position) (h : List.Forall₂ Gives ns vs) :
    (array pos ns).Gives (.array vs) :=
  fun s depth => .visit ((returns_findAll s (depth + 1) h).map _) _ _ _

theorem gives_item (pos : Position) {name : String} (hkey : key.Gives (.string name))
    (hvalue : value.Gives v) : (item pos key value).Gives (.map [(name, v)]) :=
  fun s depth => .visit ((hkey s (depth + 1)).bind ((hvalue s (depth + 1)).map _)) _ _ _

theorem returns_findItems {σ : Type} (s : Surroundings σ) (depth : Nat) {es : Bag}
    (h : List.Forall₂ GivesEntry ns es) (entries : Bag) :
    (findItems s depth entries ns).Returns (entries.insertAll es) := by
  induction h generalizing entries with
  | nil => exact .pure entries
  | @cons n e ns es hn _ ih =>
    obtain ⟨pos, key, value, rfl, hkey, hvalue⟩ := hn
    have hitem := gives_item pos hkey hvalue s depth
    have hkind : (item pos key value).kind = .item := rfl
    rw [findItems, if_pos hkind]
    exact hitem.bind (ih (entries.insert e.1 e.2))

theorem gives_object (pos : Position) {ns : List Node} {es : Bag}
    (h : List.Forall₂ GivesEntry ns es) (hsorted : Entries.Sorted es) :
    (object pos ns).Gives (.map es) := by
  intro σ s depth
  have hitems := returns_findItems s (depth + 1) h []
  rw [hsorted.insertAll] at hitems
  exact .visit (hitems.map _) _ _ _

end Node

end ExprLang
