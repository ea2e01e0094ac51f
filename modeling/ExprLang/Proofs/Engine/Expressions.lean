import ExprLang.Proofs.Engine.Outcomes
import ExprLang.Proofs.Eval.Constants

/-!
# ExprLang.Proofs.Engine.Expressions

Expressions over variables.

The values of an expression's variables are what they are in sight, so its value can be told from
them without a run: `Node.Has` says that a node has a value wherever the state is the one given, and
that its evaluation leaves the state and the host as they are.  There is one rule for every kind of
node; names, operators, steps and calls of library functions go by the values of their parts.
-/

namespace ExprLang

namespace Eval

variable {σ : Type} {state : Bag}

namespace ReturnsIn

theorem lookup (s : Surroundings σ) (name : String) :
    (lookup s name).ReturnsIn state (Scope.lookup ⟨s.vars, state⟩ name) := by
  rintro r rfl
  exact ⟨r, rfl, rfl, rfl⟩

/-- A library function keeps nothing. -/
theorem call {s : Surroundings σ} {f : Function} {g : LibraryFunction} {receiver v : Value}
    {args : List Value} (hf : f.behaviour = .library g) (hv : g.call receiver args = .ok v)
    (pos : Position) : (call s pos f receiver args).ReturnsIn state v := by
  intro r hr
  refine ⟨r, ?_, hr, rfl⟩
  have hcall : f.call s.host receiver args r.host = (.ok v, r.host) := by
    rw [Function.call, hf, ← hv]
  rw [Eval.runFrom_call, hcall]

end ReturnsIn

end Eval

open Eval

variable {σ : Type} {s : Surroundings σ} {state : Bag}

namespace Node

variable {n base key left right : Node} {ns : List Node} {v w k : Value} {vs : List Value}

theorem has_var (pos : Position) {name : String}
    (h : Scope.lookup ⟨s.vars, state⟩ name = some v) : (var pos name).Has s state v := by
  refine fun depth => ⟨.undefined, .visit ?_ _ _ _⟩
  have hlookup : (lookup s name).ReturnsIn state _ := .lookup s name
  rw [h] at hlookup
  exact hlookup.bind (.pure _)

theorem has_number (pos : Position) (x : Float) : (number pos x).Has s state (.number x) :=
  Gives.has (gives_number pos x)

theorem has_identifier (pos : Position) (name : String) :
    (identifier pos name).Has s state (.string name) :=
  fun _ => ⟨.undefined, .visit (.pure _) _ _ _⟩

theorem has_string (pos : Position) (text : String) :
    (string pos text).Has s state (.string text) :=
  Gives.has (gives_string pos text)

theorem has_arithmetic (pos : Position) (op : ArithmeticOp) (hleft : left.Has s state v)
    (hright : right.Has s state w) : (arithmetic pos op left right).Has s state (op.apply v w) := by
  intro depth
  obtain ⟨_, hv⟩ := hleft (depth + 1)
  obtain ⟨_, hw⟩ := hright (depth + 1)
  exact ⟨.undefined, .visit (hv.bind (hw.map _)) _ _ _⟩

theorem has_relational (pos : Position) {op : RelationalOp} (hop : op ≠ .isMatch)
    (hop' : op ≠ .noMatch) (hleft : left.Has s state v) (hright : right.Has s state w) :
    (relational pos op left right).Has s state (.boolean (op.compare v w)) := by
  intro depth
  obtain ⟨_, hv⟩ := hleft (depth + 1)
  obtain ⟨_, hw⟩ := hright (depth + 1)
  have hrelate : (relate pos op v w : Eval σ Value) = Pure.pure (.boolean (op.compare v w)) := by
    cases op with
    | isMatch => exact absurd rfl hop
    | noMatch => exact absurd rfl hop'
    | _ => rfl
  refine ⟨.undefined, .visit (hv.bind (hw.bind ?_)) _ _ _⟩
  show ReturnsIn state (relate pos op v w >>= _) _
  rw [hrelate]
  exact .pure _

theorem returnsIn_findAll (h : List.Forall₂ (Has s state) ns vs) (depth : Nat) :
    (findAll s depth ns).ReturnsIn state vs := by
  induction h with
  | nil => exact .pure []
  | cons hn _ ih =>
    obtain ⟨_, hv⟩ := hn depth
    exact hv.bind (ih.map _)

theorem has_array (pos : Position) (h : List.Forall₂ (Has s state) ns vs) :
    (array pos ns).Has s state (.array vs) :=
  fun depth => ⟨.undefined, .visit ((returnsIn_findAll h (depth + 1)).map _) _ _ _⟩

/-- An object with one item. -/
theorem has_object (pos pos' : Position) (hkey : key.Has s state k) (hvalue : n.Has s state v) :
    (object pos [item pos' key n]).Has s state (.map [(k.stringify, v)]) := by
  intro depth
  obtain ⟨_, hk⟩ := hkey (depth + 1 + 1)
  obtain ⟨_, hv⟩ := hvalue (depth + 1 + 1)
  have hitem : (find s (depth + 1) (item pos' key n)).ReturnsIn state
      (.plain (.map [(k.stringify, v)])) := .visit (hk.bind (hv.map _)) _ _ _
  have hitems : (findItems s (depth + 1) [] [item pos' key n]).ReturnsIn state
      [(k.stringify, v)] := hitem.bind (.pure _)
  exact ⟨.undefined, .visit (hitems.map _) _ _ _⟩

/-- A container and one step into it. -/
theorem has_select (pos pos' : Position) (hbase : base.Has s state v) (hv : v.isContainer = true)
    (hkey : key.Has s state k) (hw : (v.property? k.stringify).getD .undefined = w) :
    (select pos base [⟨key, false, pos'⟩]).Has s state w := by
  intro depth
  obtain ⟨_, hbase⟩ := hbase (depth + 1)
  obtain ⟨_, hk⟩ := hkey (depth + 1)
  have hstep : (findKey s (depth + 1) ⟨key, false, pos'⟩).ReturnsIn state k.stringify :=
    hk.bind (.pure _)
  have hfollow : (follow s (depth + 1) (.plain v) [⟨key, false, pos'⟩]).ReturnsIn state ⟨w, v⟩ := by
    have hcontainer : (Found.plain v).value.isContainer = true := hv
    rw [follow, if_neg (by simp), if_pos hcontainer, ← hw]
    exact hstep.bind (.pure _)
  exact ⟨v, .visit (hbase.bind hfollow) _ _ _⟩

/-- A call of a library function by its name. -/
theorem has_call (pos pos' : Position) {name : String} {f : Function} {g : LibraryFunction}
    (hname : Scope.lookup ⟨s.vars, state⟩ name = none) (hf : s.functions.resolve name = some f)
    (hg : f.behaviour = .library g) (hargs : List.Forall₂ (Has s state) ns vs)
    (hv : g.call .undefined vs = .ok v) :
    (call pos (var pos' name) ns false).Has s state v := by
  intro depth
  have hcallee : (findCallee s pos' name false).ReturnsIn state (.plain (.function f)) := by
    have hlookup : (lookup s name).ReturnsIn state _ := .lookup s name
    rw [hname] at hlookup
    refine hlookup.bind ?_
    rw [hf]
    exact .pure _
  exact ⟨.undefined, .visit ((hcallee.visit .var (depth + 1) pos').bind
    ((returnsIn_findAll hargs (depth + 1)).bind ((ReturnsIn.call hg hv pos).map _))) _ _ _⟩

end Node

/-! ## Texts -/

/-- A text is read as a tree of some form at every limit, if it is at one. -/
theorem exists_parseWithin_of_any {text : String} {form : Node → Bool} {limit limit' : Nat}
    (h : (parseWithin limit text).toOption.any form = true) (hlimit : limit ≤ limit') :
    ∃ tree, parseWithin limit' text = .ok tree ∧ form tree = true := by
  cases htree : parseWithin limit text with
  | error e =>
    rw [htree] at h
    cases h
  | ok tree =>
    have hdeep : ¬ (parseWithin limit text).TooDeep := by
      rw [htree]
      nofun
    rw [htree] at h
    exact ⟨tree, ((deepens_parseWithin hlimit text).eq hdeep).trans htree, h⟩

/-- The value of a text whose tree has it, whatever calls came before. -/
theorem Engine.result_evaluate {text : String} {tree : Node} {o : Options} {functions : Registry}
    {calls : Host σ} {vars : Bag} {v : Value} (hparse : parseWithin o.maxDepth text = .ok tree)
    (htree : tree.Has ⟨vars, functions, calls⟩ state v) (host host' : σ) (history : List Call) :
    ((Engine.afterCalls o calls host history functions).evaluate text calls vars state
      host').1.result = .ok v := by
  rw [Engine.evaluate_afterCalls, Engine.outcomeOf, hparse]
  have hvalue := (htree.evaluate (r := ⟨state, host', none⟩)).1
  simp only [Node.outcome, if_neg Bool.false_ne_true, hvalue]
  rfl

end ExprLang
