import ExprLang.Engine.Basic
import ExprLang.Proofs.Eval.Agreement

/-!
# ExprLang.Proofs.Eval.Exchange

Nodes that may stand for one another.

Nodes whose evaluations agree are interchangeable, if they also look the same where a node is looked
at before it is evaluated: a name that is called, and a bare name in a step.  A tree then comes to the
same with either of them at any of its places (`Node.Interchangeable.replaceAt`).  At two places only
must they have more in common: an object names the kind and the place of what is no item, and an
assignment the place of a target that gives no name (`Role.Hides`).
-/

namespace ExprLang

open Eval

/-! ## Places in trees -/

namespace Node

/-- The node with the node at a place directly inside it changed. -/
def modifyChild (i : Nat) (f : Node → Node) : Node → Node
  | sequence p ns => .sequence p (ns.modify i f)
  | assignment p a b => .assignment p (if i = 0 then f a else a) (if i = 1 then f b else b)
  | fallback p a b => .fallback p (if i = 0 then f a else a) (if i = 1 then f b else b)
  | choice p a b c =>
    .choice p (if i = 0 then f a else a) (if i = 1 then f b else b) (if i = 2 then f c else c)
  | logical p op a b => .logical p op (if i = 0 then f a else a) (if i = 1 then f b else b)
  | bitwise p op a b => .bitwise p op (if i = 0 then f a else a) (if i = 1 then f b else b)
  | relational p op a b => .relational p op (if i = 0 then f a else a) (if i = 1 then f b else b)
  | arithmetic p op a b => .arithmetic p op (if i = 0 then f a else a) (if i = 1 then f b else b)
  | unary p op a => .unary p op (if i = 0 then f a else a)
  | select p a steps =>
    match i with
    | 0 => .select p (f a) steps
    | i + 1 => .select p a (steps.modify i fun s => { s with key := f s.key })
  | call p a as optional =>
    match i with
    | 0 => .call p (f a) as optional
    | i + 1 => .call p a (as.modify i f) optional
  | array p ns => .array p (ns.modify i f)
  | object p ns => .object p (ns.modify i f)
  | item p a b => .item p (if i = 0 then f a else a) (if i = 1 then f b else b)
  | template p ns => .template p (ns.modify i f)
  | identifier p name => .identifier p name
  | var p name => .var p name
  | string p text => .string p text
  | regexp p r => .regexp p r
  | number p x => .number p x
  | literal p v => .literal p v

/-- The tree with a node at the end of a path; a path out of the tree changes nothing. -/
def replaceAt (t : Node) (path : List Nat) (new : Node) : Node :=
  match path with
  | [] => new
  | i :: path => t.modifyChild i fun c => c.replaceAt path new

/-- The role of the node at the end of a path in a tree of a role, if the path stays in the tree. -/
def roleAt? (t : Node) (role : Role) : List Nat → Option Role
  | [] => some role
  | i :: path => t.parts[i]?.bind fun part => part.2.roleAt? part.1 path

/-- The places count as in `Node.children`. -/
theorem children_modifyChild (i : Nat) (f : Node → Node) (n : Node) :
    (n.modifyChild i f).children = n.children.modify i f := by
  cases n with
  | select p a steps =>
    cases i with
    | zero => rfl
    | succ i =>
      have hkeys : (steps.modify i fun s => { s with key := f s.key }).map Step.key =
          (steps.map Step.key).modify i f := by
        induction steps generalizing i with
        | nil => simp
        | cons s ss ih => cases i <;> simp_all
      simp [modifyChild, children, hkeys]
  | _ => rcases i with _ | _ | _ | i <;> simp [modifyChild, children]

@[simp] theorem kind_modifyChild (i : Nat) (f : Node → Node) (n : Node) :
    (n.modifyChild i f).kind = n.kind := by
  cases n <;> cases i <;> rfl

@[simp] theorem position_modifyChild (i : Nat) (f : Node → Node) (n : Node) :
    (n.modifyChild i f).position = n.position := by
  cases n <;> cases i <;> rfl

/-! ## Interchangeable nodes -/

/-- The name of a variable and its place: where it is called it is looked up among the functions
too. -/
def varName? : Node → Option (Position × String)
  | var p name => some (p, name)
  | _ => none

/-- A bare name, which the refusal of a step repeats. -/
def bareName? : Node → Option String
  | identifier _ name => some name
  | _ => none

/-- The evaluations of the nodes agree, and neither is a name that the other is not. -/
structure Interchangeable (m n : Node) : Prop where
  agrees : ∀ {σ : Type} (s : Surroundings σ) (depth depth' : Nat),
    (find s depth m).Agrees (find s depth' n)
  varName : n.varName? = m.varName?
  bareName : n.bareName? = m.bareName?

theorem Interchangeable.refl (n : Node) : n.Interchangeable n :=
  ⟨fun s depth depth' => agrees_find s depth depth' n, rfl, rfl⟩

/-- A change of a node, made under a condition. -/
theorem Interchangeable.ite {p : Prop} [Decidable p] {f g : Node → Node} {n : Node}
    (h : p → (f n).Interchangeable (g n)) :
    (if p then f n else n).Interchangeable (if p then g n else n) := by
  split
  · next hp => exact h hp
  · exact refl n

theorem eq_var_of_varName? {n : Node} {p : Position} {name : String}
    (h : n.varName? = some (p, name)) : n = .var p name := by
  cases n <;> cases h
  rfl

end Node

/-- The refusal of a step repeats a bare name and nothing else of the key. -/
theorem Step.refusal_eq {s t : Step Node} (h : t.key.bareName? = s.key.bareName?)
    (type : String) : t.refusal type = s.refusal type := by
  have hrefusal : ∀ s : Step Node, s.refusal type =
      s.key.bareName?.elim (.noIndex type) fun name => .noProperty name type := by
    rintro ⟨key, optional, p⟩
    cases key <;> rfl
  rw [hrefusal, hrefusal, h]

/-- The steps differ in their keys at most, and these are interchangeable. -/
def Step.Interchangeable (t u : Step Node) : Prop :=
  t.key.Interchangeable u.key ∧ u.optional = t.optional ∧ u.position = t.position

theorem Step.Interchangeable.refl (t : Step Node) : t.Interchangeable t :=
  ⟨.refl t.key, rfl, rfl⟩

/-- What the surroundings see of a node in a role without evaluating it is the same. -/
def Role.Hides (role : Role) (m n : Node) : Prop :=
  match role with
  | .entry => n.kind = m.kind ∧ n.position = m.position
  | .target => n.position = m.position
  | _ => True

theorem Role.Hides.of_eq {role : Role} {m n : Node} (hkind : n.kind = m.kind)
    (hposition : n.position = m.position) : role.Hides m n := by
  cases role with
  | entry => exact ⟨hkind, hposition⟩
  | target => exact hposition
  | _ => trivial

namespace Eval

variable {σ : Type} {s : Surroundings σ}

/-- The evaluation of what is called. -/
def findCalled (s : Surroundings σ) (depth : Nat) (optional : Bool) (callee : Node) :
    Eval σ Found :=
  match callee with
  | .var p name => visit .var depth p (findCallee s p name optional)
  | _ => find s depth callee

theorem findCalled_eq_find {n : Node} (h : n.varName? = none) (depth : Nat) (optional : Bool) :
    findCalled s depth optional n = find s depth n := by
  cases n with
  | var => cases h
  | _ => rfl

theorem agrees_findCalled {m n : Node} (h : m.Interchangeable n) (depth depth' : Nat)
    (optional : Bool) :
    (findCalled s depth optional m).Agrees (findCalled s depth' optional n) := by
  have hname := h.varName
  cases hm : m.varName? with
  | none =>
    rw [findCalled_eq_find hm, findCalled_eq_find (hname.trans hm)]
    exact h.agrees s depth depth'
  | some name =>
    obtain ⟨p, name⟩ := name
    rw [Node.eq_var_of_varName? hm, Node.eq_var_of_varName? (hname.trans hm)]
    exact ((Couples.findCallee (s.coupled_alike fun _ => True) p trivial optional).agrees.visit_left
      _ _ _).visit_right _ _ _

/-- What is done with what is called. -/
def applyFound (s : Surroundings σ) (depth : Nat) (pos : Position) (args : List Node)
    (optional : Bool) (f : Found) : Eval σ Found :=
  match f.value with
  | .function g => do
    let vs ← findAll s depth args
    return .plain (← call s pos g f.receiver vs)
  | v =>
    if optional && v.isNullish then return .plain .undefined
    else fail (.notCallable v.typeName) pos

theorem findKey_eq (depth : Nat) (step : Step Node) : findKey s depth step = do
    return (← find s depth step.key).value.stringify := by
  obtain ⟨key, optional, p⟩ := step
  rfl

theorem find_call (depth : Nat) (pos : Position) (callee : Node) (args : List Node)
    (optional : Bool) : find s depth (.call pos callee args optional) = visit .call depth pos
      (findCalled s (depth + 1) optional callee >>= applyFound s (depth + 1) pos args optional) := by
  cases callee <;> rfl

section Lists

variable {ns ms : List Node}

theorem agrees_findAll_forall₂ (h : List.Forall₂ Node.Interchangeable ns ms) (depth depth' : Nat) :
    (findAll s depth ns).Agrees (findAll s depth' ms) := by
  induction h with
  | nil => exact .pure _
  | cons hn _ ih => exact (hn.agrees s depth depth').bind fun _ => ih.map _

theorem agrees_applyFound (h : List.Forall₂ Node.Interchangeable ns ms) (depth depth' : Nat)
    (pos : Position) (optional : Bool) (found : Found) :
    (applyFound s depth pos ns optional found).Agrees
      (applyFound s depth' pos ms optional found) :=
  (Couples.apply (s.coupled_alike fun _ => True) (agrees_findAll_forall₂ h _ _) pos optional
    found).agrees

theorem agrees_call {m n : Node} (h : m.Interchangeable n)
    (hargs : List.Forall₂ Node.Interchangeable ns ms) (depth depth' : Nat) (pos : Position)
    (optional : Bool) :
    (find s depth (.call pos m ns optional)).Agrees (find s depth' (.call pos n ms optional)) := by
  rw [find_call, find_call]
  exact (((agrees_findCalled h _ _ optional).bind
    (agrees_applyFound hargs _ _ pos optional)).visit_left _ _ _).visit_right _ _ _

theorem agrees_findLast_forall₂ (h : List.Forall₂ Node.Interchangeable ns ms) (depth depth' : Nat)
    (last : Value) : (findLast s depth last ns).Agrees (findLast s depth' last ms) := by
  induction h generalizing last with
  | nil => exact .pure _
  | cons hn _ ih => exact (hn.agrees s depth depth').bind fun found => ih found.value

theorem agrees_findText_forall₂ (h : List.Forall₂ Node.Interchangeable ns ms) (depth depth' : Nat)
    (text : String) : (findText s depth text ns).Agrees (findText s depth' text ms) := by
  induction h generalizing text with
  | nil => exact .pure _
  | cons hn _ ih => exact (hn.agrees s depth depth').bind fun found => ih _

theorem agrees_findItems_forall₂
    (h : List.Forall₂ (fun n m => n.Interchangeable m ∧ Role.entry.Hides n m) ns ms)
    (depth depth' : Nat) (entries : Bag) :
    (findItems s depth entries ns).Agrees (findItems s depth' entries ms) := by
  induction h generalizing entries with
  | nil => exact .pure _
  | cons hn _ ih =>
    obtain ⟨hn, hkind, hposition⟩ := hn
    rw [findItems, findItems, hkind, hposition]
    refine .ite ((hn.agrees s depth depth').bind fun found => ?_) (.fail _ _)
    cases found.value <;> exact ih _

theorem agrees_follow_forall₂ {steps steps' : List (Step Node)}
    (h : List.Forall₂ Step.Interchangeable steps steps') (depth depth' : Nat) (found : Found) :
    (follow s depth found steps).Agrees (follow s depth' found steps') := by
  induction h generalizing found with
  | nil => exact .pure _
  | @cons t u _ _ ht _ ih =>
    obtain ⟨hkey, hoptional, hposition⟩ := ht
    have hfind : (findKey s depth t).Agrees (findKey s depth' u) := by
      rw [findKey_eq, findKey_eq]
      exact (hkey.agrees s depth depth').map _
    rw [follow, follow, hoptional, hposition, Step.refusal_eq hkey.bareName]
    exact .ite (.pure _) (.ite (hfind.bind fun _ => ih _) (.fail _ _))

end Lists

end Eval

/-! ## Exchange -/

section Lists

variable {α : Type} {R : α → α → Prop} {f g : α → α}

theorem forall₂_refl (hrefl : ∀ a, R a a) (as : List α) : List.Forall₂ R as as := by
  induction as with
  | nil => exact .nil
  | cons a as ih => exact .cons (hrefl a) ih

/-- Lists of which one part is changed in two ways. -/
theorem forall₂_modify (hrefl : ∀ a, R a a) {as : List α} {i : Nat}
    (h : ∀ a, as[i]? = some a → R (f a) (g a)) :
    List.Forall₂ R (as.modify i f) (as.modify i g) := by
  induction as generalizing i with
  | nil => simp
  | cons a as ih =>
    cases i with
    | zero => simpa using List.Forall₂.cons (h a rfl) (forall₂_refl hrefl as)
    | succ i => simpa using List.Forall₂.cons (hrefl a) (ih fun b hb => h b (by simpa using hb))

end Lists

namespace Node

variable {f g : Node → Node} {i : Nat}

theorem varName?_modifyChild (n : Node) :
    (n.modifyChild i g).varName? = (n.modifyChild i f).varName? := by
  cases n <;> cases i <;> rfl

theorem bareName?_modifyChild (n : Node) :
    (n.modifyChild i g).bareName? = (n.modifyChild i f).bareName? := by
  cases n <;> cases i <;> rfl

/-- Nodes of which one part is exchanged are interchangeable. -/
theorem Interchangeable.modifyChild {n : Node} (h : ∀ part, n.parts[i]? = some part →
    (f part.2).Interchangeable (g part.2) ∧ part.1.Hides (f part.2) (g part.2)) :
    (n.modifyChild i f).Interchangeable (n.modifyChild i g) := by
  refine ⟨fun s depth depth' => ?_, varName?_modifyChild n, bareName?_modifyChild n⟩
  have child : ∀ {role c} {k : Nat}, n.parts[k]? = some (role, c) →
      (if i = k then f c else c).Interchangeable (if i = k then g c else c) := fun hk =>
    .ite fun hi => (h _ (hi ▸ hk)).1
  by_cases hcall : n.kind = .call
  · cases n with
    | call p a args optional =>
      cases i with
      | zero =>
        exact agrees_call (h (.operand, a) rfl).1 (forall₂_refl .refl args) _ _ p optional
      | succ i =>
        have hargs : List.Forall₂ Interchangeable (args.modify i f) (args.modify i g) :=
          forall₂_modify .refl fun n hn => (h (.operand, n) (by simp [parts, hn])).1
        exact agrees_call (.refl a) hargs _ _ p optional
    | _ => cases hcall
  rw [find.eq_def, find.eq_def s depth']
  refine Agrees.visit_left (Agrees.visit_right ?_ _ _ _) _ _ _
  cases n with
  | sequence p ns =>
    exact (agrees_findLast_forall₂ (forall₂_modify .refl fun n hn =>
      (h (.statement, n) (by simp [parts, hn])).1) _ _ _).map _
  | array p ns =>
    exact (agrees_findAll_forall₂ (forall₂_modify .refl fun n hn =>
      (h (.operand, n) (by simp [parts, hn])).1) _ _).map _
  | template p ns =>
    exact (agrees_findText_forall₂ (forall₂_modify .refl fun n hn =>
      (h (.operand, n) (by simp [parts, hn])).1) _ _ _).map _
  | object p ns =>
    exact (agrees_findItems_forall₂ (forall₂_modify (fun n => ⟨.refl n, rfl, rfl⟩) fun n hn =>
      h (.entry, n) (by simp [parts, hn])) _ _ _).map _
  | assignment p a b =>
    have hplace : (if i = 0 then g a else a).position = (if i = 0 then f a else a).position := by
      split
      · next hi => exact (h (.target, a) (hi ▸ rfl)).2
      · rfl
    refine ((child rfl).agrees s _ _).bind fun t => ?_
    cases t.value with
    | string name =>
      exact ((child rfl).agrees s _ _).bind fun v =>
        (Couples.assign (s.coupled_alike fun _ => True) name v.value).agrees.map _
    | _ => rw [hplace]; exact .fail _ _
  | fallback p a b =>
    exact ((child rfl).agrees s _ _).bind fun _ =>
      .ite (.pure _) (((child rfl).agrees s _ _).map _)
  | choice p a b c =>
    exact ((child rfl).agrees s _ _).bind fun _ =>
      .ite (((child rfl).agrees s _ _).map _) (((child rfl).agrees s _ _).map _)
  | logical p op a b =>
    cases op with
    | and =>
      exact ((child rfl).agrees s _ _).bind fun _ =>
        .ite (((child rfl).agrees s _ _).map _) (.pure _)
    | or =>
      exact ((child rfl).agrees s _ _).bind fun _ =>
        .ite (.pure _) (((child rfl).agrees s _ _).map _)
  | bitwise p op a b =>
    exact ((child rfl).agrees s _ _).bind fun _ => ((child rfl).agrees s _ _).map _
  | arithmetic p op a b =>
    exact ((child rfl).agrees s _ _).bind fun _ => ((child rfl).agrees s _ _).map _
  | item p a b =>
    exact ((child rfl).agrees s _ _).bind fun _ => ((child rfl).agrees s _ _).map _
  | relational p op a b =>
    exact ((child rfl).agrees s _ _).bind fun l => ((child rfl).agrees s _ _).bind fun r =>
      (Couples.relate (s.coupled_alike fun _ => True) p op l.value r.value).agrees.map _
  | unary p op a => exact ((child rfl).agrees s _ _).map _
  | select p a steps =>
    cases i with
    | zero =>
      exact ((h (.operand, a) rfl).1.agrees s _ _).bind fun _ =>
        agrees_follow_forall₂ (forall₂_refl Step.Interchangeable.refl steps) _ _ _
    | succ i =>
      have hsteps : List.Forall₂ Step.Interchangeable
          (steps.modify i fun t => { t with key := f t.key })
          (steps.modify i fun t => { t with key := g t.key }) :=
        forall₂_modify .refl fun t ht =>
          ⟨(h (.key, t.key) (by simp [parts, ht])).1, rfl, rfl⟩
      exact (agrees_find s _ _ a).bind fun _ => agrees_follow_forall₂ hsteps _ _ _
  | call => exact absurd rfl hcall
  | var p name =>
    refine Couples.last (Couples.lookup (s.coupled_alike fun _ => True) trivial) fun v => ?_
    cases v with
    | some v => exact .pure _
    | none => exact .fail _ p
  | identifier | string | regexp | number | literal => exact .pure _

/-- What is put deep inside a node does not show from outside. -/
theorem hides_replaceAt {m n : Node} {role : Role} {path : List Nat} (t : Node)
    (h : path = [] → role.Hides m n) :
    role.Hides (t.replaceAt path m) (t.replaceAt path n) := by
  cases path with
  | nil => exact h rfl
  | cons i path => exact .of_eq (by simp [replaceAt]) (by simp [replaceAt])

/-- A tree with either of two interchangeable nodes at one of its places.  If the place is that of an
entry or a target, the two must also look the same. -/
theorem Interchangeable.replaceAt {m n : Node} (h : m.Interchangeable n) {t : Node}
    {path : List Nat} {role : Role} (hrole : ∀ r, t.roleAt? role path = some r → r.Hides m n) :
    (t.replaceAt path m).Interchangeable (t.replaceAt path n) := by
  induction path generalizing role t with
  | nil => exact h
  | cons i path ih =>
    refine .modifyChild fun part hpart => ?_
    have hinside : ∀ r, part.2.roleAt? part.1 path = some r → r.Hides m n := fun r hr =>
      hrole r (by simp [roleAt?, hpart, hr])
    exact ⟨ih hinside, hides_replaceAt part.2 fun hnil => hinside _ (by rw [hnil]; rfl)⟩

end Node

/-! ## Outcomes -/

/-- The same result, state and host; the events may differ. -/
structure Outcome.Alike {σ : Type} (o o' : Outcome σ) : Prop where
  result : o'.result = o.result
  state : o'.state = o.state
  host : o'.host = o.host

/-- Interchangeable trees have the same outcome, traced or not. -/
theorem Node.Interchangeable.outcome {m n : Node} (h : m.Interchangeable n) {σ : Type}
    (source : String) (s : Surroundings σ) (state : Bag) (host : σ) (traced traced' : Bool) :
    (m.outcome source s state host traced).Alike (n.outcome source s state host traced') := by
  have hvalue : Agrees _ _ := (h.agrees s 0 0).map Found.value
  have hr : ∀ events events' : Option (Array Event),
      Run.Alike (σ := σ) ⟨state, host, events⟩ ⟨state, host, events'⟩ := fun _ _ => ⟨rfl, rfl⟩
  simp only [Node.outcome, Node.evaluate_eq]
  exact ⟨congrArg (Except.mapError (Error.ofFailure source)) (hvalue.result_eq (hr _ _)),
    (hvalue.run (hr _ _)).state, (hvalue.run (hr _ _)).host⟩

end ExprLang
