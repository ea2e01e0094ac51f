import ExprLang.Proofs.Eval.Chaining
import ExprLang.Proofs.Eval.Exchange

/-!
# ExprLang.Proofs.Eval.Conditions

The laws of conditions.

A condition is evaluated for its truth alone, and one of two ways is taken after it (`Eval.test`).  A
negation exchanges the two ways; `&&` and `||` are a test inside a way of another test
(`Eval.proceed`).  Every node
made of conditions so agrees with tests of what it is made of, each part in its order, and a law holds
because the tests of both its sides are the same (`ConditionLaw.interchangeable`).
-/

namespace ExprLang

open Eval

/-- The operator that goes on where the other is decided. -/
def LogicalOp.dual : LogicalOp → LogicalOp
  | and => or
  | or => and

namespace Eval

variable {σ : Type} {s : Surroundings σ} {a b c : Node} {yes no yes' no' : Eval σ Found}

/-! ## Tests -/

/-- Evaluates a node and takes one of two ways, as the value counts as true or not. -/
def test (s : Surroundings σ) (n : Node) (yes no : Eval σ Found) : Eval σ Found := do
  if (← find s 0 n).value.truthy then yes else no

/-- The way that an operator takes if its first operand decides. -/
def decided (op : LogicalOp) (yes no : Eval σ Found) : Eval σ Found :=
  match op with
  | .and => no
  | .or => yes

/-- Goes on after a node unless its value decides an operator. -/
def proceed (s : Surroundings σ) (op : LogicalOp) (n : Node) (go stop : Eval σ Found) :
    Eval σ Found :=
  match op with
  | .and => test s n go stop
  | .or => test s n stop go

/-- Comes to a truth value. -/
def truth (b : Bool) : Eval σ Found := return .plain (.boolean b)

/-- The value of a node, without the container that it was read from. -/
def plainly (s : Surroundings σ) (n : Node) : Eval σ Found := do
  return .plain (← find s 0 n).value

theorem agrees_truth (b : Bool) : (truth b : Eval σ Found).Agrees (truth b) := .pure _

theorem agrees_plainly (n : Node) : (plainly s n).Agrees (plainly s n) :=
  (agrees_find s 0 0 n).map _

theorem agrees_plainly_of {n : Node} {d : Eval σ Found} (h : (find s 0 n).Agrees d) :
    (plainly s n).Agrees (do return .plain (← d).value) :=
  h.map _

/-- The value of a value is that value. -/
theorem plainly_bind (n : Node) : (do return .plain (← plainly s n).value) = plainly s n := by
  rw [plainly, bind_assoc]
  simp only [pure_bind]
  rfl

theorem Agrees.test (n : Node) (hyes : yes.Agrees yes') (hno : no.Agrees no') :
    (test s n yes no).Agrees (test s n yes' no') :=
  (agrees_find s 0 0 n).bind fun _ => .ite hyes hno

/-- Evaluates a node and goes on only if its value does not count as true. -/
def prefer (s : Surroundings σ) (n : Node) (other : Eval σ Found) : Eval σ Found := do
  let found ← find s 0 n
  if found.value.truthy then return .plain found.value else other

theorem Agrees.prefer (n : Node) (h : no.Agrees no') :
    (prefer s n no).Agrees (prefer s n no') :=
  (agrees_find s 0 0 n).bind fun _ => .ite (.pure _) h

/-- What follows goes on from the value that is preferred, or else from the other one. -/
theorem prefer_bind (n : Node) {k : Found → Eval σ Found}
    (hk : ∀ v : Value, v.truthy = true → k (.plain v) = pure (.plain v)) :
    prefer s n no >>= k = prefer s n (no >>= k) := by
  rw [Eval.prefer, Eval.prefer, bind_assoc]
  refine congrArg (find s 0 n >>= ·) (funext fun found => ?_)
  split
  · next h => exact (pure_bind _ _).trans (hk _ h)
  · rfl

/-- What follows a test follows both its ways. -/
theorem test_bind (n : Node) (k : Found → Eval σ Found) :
    test s n yes no >>= k = test s n (yes >>= k) (no >>= k) := by
  rw [test, test, bind_assoc]
  refine congrArg (find s 0 n >>= ·) (funext fun found => ?_)
  split <;> rfl

/-! ## Nodes made of conditions -/

theorem agrees_not (p : Position) (a : Node) (depth : Nat) :
    (find s depth (.unary p .not a)).Agrees (test s a (truth false) (truth true)) := by
  refine .visit_left ((agrees_find s _ 0 a).bind fun found => ?_) _ _ _
  cases h : found.value.truthy <;> simp only [UnaryOp.apply, h] <;> exact .pure _

theorem agrees_logical (p : Position) (op : LogicalOp) (a b : Node) (depth : Nat) :
    (find s depth (.logical p op a b)).Agrees
      (proceed s op a (test s b (truth true) (truth false))
        (decided op (truth true) (truth false))) := by
  have hb : (find s (depth + 1) b >>= fun found =>
      pure (Found.plain (.boolean found.value.truthy))).Agrees
        (test s b (truth true) (truth false)) := by
    refine (agrees_find s _ 0 b).bind fun found => ?_
    cases found.value.truthy <;> exact .pure _
  cases op with
  | and => exact .visit_left ((agrees_find s _ 0 a).bind fun _ => .ite hb (.pure _)) _ _ _
  | or => exact .visit_left ((agrees_find s _ 0 a).bind fun _ => .ite (.pure _) hb) _ _ _

theorem agrees_choice (p : Position) (a b c : Node) (depth : Nat) :
    (find s depth (.choice p a b c)).Agrees (test s a (plainly s b) (plainly s c)) :=
  .visit_left ((agrees_find s _ 0 a).bind fun _ =>
    .ite ((agrees_find s _ 0 b).map _) ((agrees_find s _ 0 c).map _)) _ _ _

theorem agrees_fallback (p : Position) (a b : Node) (depth : Nat) :
    (find s depth (.fallback p a b)).Agrees (prefer s a (plainly s b)) :=
  .visit_left ((agrees_find s _ 0 a).bind fun _ =>
    .ite (.pure _) ((agrees_find s _ 0 b).map _)) _ _ _

/-- A node that is preferred is what it agrees with. -/
theorem agrees_prefer_of {n : Node} {d : Eval σ Found} (h : (find s 0 n).Agrees d)
    (hno : no.Agrees no) : (prefer s n no).Agrees
      (d >>= fun found => if found.value.truthy then return .plain found.value else no) :=
  h.bind fun _ => .ite (.pure _) hno

theorem plainly_prefer (n : Node) : (do
    let found ← plainly s n
    if found.value.truthy then return .plain found.value else no) = prefer s n no := by
  rw [plainly, bind_assoc]
  simp only [pure_bind]
  rfl

/-- A test of a node is a test of what it agrees with. -/
theorem agrees_test_of {n : Node} {d : Eval σ Found} (h : (find s 0 n).Agrees d)
    (hyes : yes.Agrees yes) (hno : no.Agrees no) :
    (test s n yes no).Agrees (d >>= fun found => if found.value.truthy then yes else no) :=
  h.bind fun _ => .ite hyes hno

theorem agrees_test_not (p : Position) (a : Node) (hyes : yes.Agrees yes) (hno : no.Agrees no) :
    (test s (.unary p .not a) yes no).Agrees (test s a no yes) := by
  have h := agrees_test_of (agrees_not (s := s) p a 0) hyes hno
  rwa [test_bind] at h

theorem agrees_decided (op : LogicalOp) (hyes : yes.Agrees yes) (hno : no.Agrees no) :
    (decided op yes no).Agrees (decided op yes no) := by
  cases op
  · exact hno
  · exact hyes

theorem Agrees.proceed (op : LogicalOp) (n : Node) (hgo : yes.Agrees yes') (hstop : no.Agrees no') :
    (proceed s op n yes no).Agrees (proceed s op n yes' no') := by
  cases op
  · exact .test n hgo hstop
  · exact .test n hstop hgo

theorem agrees_test_logical (p : Position) (op : LogicalOp) (a b : Node) (hyes : yes.Agrees yes)
    (hno : no.Agrees no) : (test s (.logical p op a b) yes no).Agrees
      (proceed s op a (test s b yes no) (decided op yes no)) := by
  have h := agrees_test_of (agrees_logical (s := s) p op a b 0) hyes hno
  cases op <;> rwa [proceed, test_bind, test_bind] at h

/-- An operator inside an operator of the same kind goes on to its second operand first. -/
theorem agrees_proceed_logical (p : Position) (op : LogicalOp) (a b : Node) (hgo : yes.Agrees yes)
    (hstop : no.Agrees no) : (proceed s op (.logical p op a b) yes no).Agrees
      (proceed s op a (proceed s op b yes no) no) := by
  cases op
  · exact agrees_test_logical p .and a b hgo hstop
  · exact agrees_test_logical p .or a b hstop hgo

/-! ## Laws -/

theorem agrees_proceed_not (p : Position) (op : LogicalOp) (a : Node) (hgo : yes.Agrees yes)
    (hstop : no.Agrees no) : (proceed s op.dual (.unary p .not a) yes no).Agrees
      (proceed s op a yes no) := by
  cases op
  · exact agrees_test_not p a hstop hgo
  · exact agrees_test_not p a hgo hstop

theorem agrees_not_logical (p p' q q' q'' : Position) (op : LogicalOp) (a b : Node)
    (depth depth' : Nat) : (find s depth (.unary p .not (.logical p' op a b))).Agrees
      (find s depth' (.logical q op.dual (.unary q' .not a) (.unary q'' .not b))) := by
  have hb : (test s b (truth false) (truth true)).Agrees (test s b (truth false) (truth true)) :=
    .test b (agrees_truth _) (agrees_truth _)
  have hstop := agrees_decided op.dual (agrees_truth (σ := σ) true) (agrees_truth false)
  have left := (agrees_not (s := s) p (.logical p' op a b) depth).trans
    (agrees_test_logical p' op a b (agrees_truth _) (agrees_truth _))
  have right := (agrees_logical (s := s) q op.dual (.unary q' .not a) (.unary q'' .not b)
    depth').trans ((Agrees.proceed _ _ (agrees_test_not q'' b (agrees_truth _) (agrees_truth _))
      hstop).trans (agrees_proceed_not q' op a hb hstop))
  cases op <;> exact left.trans right.symm

theorem agrees_logical_assoc (p p' q q' : Position) (op : LogicalOp) (a b c : Node)
    (depth depth' : Nat) : (find s depth (.logical p op (.logical p' op a b) c)).Agrees
      (find s depth' (.logical q op a (.logical q' op b c))) := by
  have hc : (test s c (truth true) (truth false)).Agrees (test s c (truth true) (truth false)) :=
    .test c (agrees_truth _) (agrees_truth _)
  have hstop := agrees_decided op (agrees_truth (σ := σ) true) (agrees_truth false)
  have left := (agrees_logical (s := s) p op (.logical p' op a b) c depth).trans
    (agrees_proceed_logical p' op a b hc hstop)
  have right := (agrees_logical (s := s) q op a (.logical q' op b c) depth').trans
    (.proceed op a (agrees_test_logical q' op b c (agrees_truth _) (agrees_truth _)) hstop)
  exact left.trans right.symm

theorem agrees_choice_not (p q q' : Position) (a b c : Node) (depth depth' : Nat) :
    (find s depth (.choice p a b c)).Agrees
      (find s depth' (.choice q (.unary q' .not a) c b)) := by
  have right := (agrees_choice (s := s) q (.unary q' .not a) c b depth').trans
    (agrees_test_not q' a (agrees_plainly c) (agrees_plainly b))
  exact (agrees_choice p a b c depth).trans right.symm

theorem agrees_choice_choice (p p' q q' : Position) (a b c d : Node) (depth depth' : Nat) :
    (find s depth (.choice p a (.choice p' b c d) d)).Agrees
      (find s depth' (.choice q (.logical q' .and a b) c d)) := by
  have hinner : (plainly s (.choice p' b c d)).Agrees (test s b (plainly s c) (plainly s d)) := by
    have h := agrees_plainly_of (agrees_choice (s := s) p' b c d 0)
    rwa [test_bind, plainly_bind, plainly_bind] at h
  have left := (agrees_choice (s := s) p a (.choice p' b c d) d depth).trans
    (.test a hinner (agrees_plainly d))
  have right := (agrees_choice (s := s) q (.logical q' .and a b) c d depth').trans
    (agrees_test_logical q' .and a b (agrees_plainly c) (agrees_plainly d))
  exact left.trans right.symm

theorem agrees_fallback_assoc (p p' q q' : Position) (a b c : Node) (depth depth' : Nat) :
    (find s depth (.fallback p (.fallback p' a b) c)).Agrees
      (find s depth' (.fallback q a (.fallback q' b c))) := by
  have left : (find s depth (.fallback p (.fallback p' a b) c)).Agrees
      (prefer s a (prefer s b (plainly s c))) := by
    have h := agrees_prefer_of (agrees_fallback (s := s) p' a b 0) (agrees_plainly (s := s) c)
    rw [prefer_bind a fun v hv => if_pos hv, plainly_prefer] at h
    exact (agrees_fallback p _ c depth).trans h
  have right : (find s depth' (.fallback q a (.fallback q' b c))).Agrees
      (prefer s a (prefer s b (plainly s c))) := by
    have h := agrees_plainly_of (agrees_fallback (s := s) q' b c 0)
    rw [prefer_bind (k := fun found => return .plain found.value) b fun _ _ => rfl,
      plainly_bind] at h
    exact (agrees_fallback q a _ depth').trans (.prefer a h)
  exact left.trans right.symm

end Eval

/-- Two ways of writing a condition.  The places of the operators are free. -/
inductive ConditionLaw : Node → Node → Prop
  /-- `!(a && b)` and `!a || !b` -/
  | not_and (p p' q q' q'' : Position) (a b : Node) :
    ConditionLaw (.unary p .not (.logical p' .and a b))
      (.logical q .or (.unary q' .not a) (.unary q'' .not b))
  /-- `!(a || b)` and `!a && !b` -/
  | not_or (p p' q q' q'' : Position) (a b : Node) :
    ConditionLaw (.unary p .not (.logical p' .or a b))
      (.logical q .and (.unary q' .not a) (.unary q'' .not b))
  /-- `(a && b) && c` and `a && (b && c)`, and the same with `||` -/
  | assoc (op : LogicalOp) (p p' q q' : Position) (a b c : Node) :
    ConditionLaw (.logical p op (.logical p' op a b) c) (.logical q op a (.logical q' op b c))
  /-- `(a ?: b) ?: c` and `a ?: (b ?: c)` -/
  | fallback (p p' q q' : Position) (a b c : Node) :
    ConditionLaw (.fallback p (.fallback p' a b) c) (.fallback q a (.fallback q' b c))
  /-- `a ? b : c` and `!a ? c : b` -/
  | choice_not (p q q' : Position) (a b c : Node) :
    ConditionLaw (.choice p a b c) (.choice q (.unary q' .not a) c b)
  /-- `a ? (b ? c : d) : d` and `(a && b) ? c : d` -/
  | choice_choice (p p' q q' : Position) (a b c d : Node) :
    ConditionLaw (.choice p a (.choice p' b c d) d) (.choice q (.logical q' .and a b) c d)

namespace ConditionLaw

variable {m n : Node}

/-- The tests of both sides are the same. -/
theorem interchangeable (h : ConditionLaw m n) : m.Interchangeable n := by
  cases h with
  | not_and => exact ⟨fun _ _ _ => agrees_not_logical _ _ _ _ _ .and .., rfl, rfl⟩
  | not_or => exact ⟨fun _ _ _ => agrees_not_logical _ _ _ _ _ .or .., rfl, rfl⟩
  | assoc => exact ⟨fun _ _ _ => agrees_logical_assoc .., rfl, rfl⟩
  | fallback => exact ⟨fun _ _ _ => agrees_fallback_assoc .., rfl, rfl⟩
  | choice_not => exact ⟨fun _ _ _ => agrees_choice_not .., rfl, rfl⟩
  | choice_choice => exact ⟨fun _ _ _ => agrees_choice_choice .., rfl, rfl⟩

end ConditionLaw

/-- Whichever way a condition is written, at whatever place of a tree: the tree has the same value or
error, and leaves the same state and the same state of the host, which may be a record of all calls
made of it.  At the place of an entry of an object or of a target the two ways must look the same;
no expression stands there in a text. -/
theorem outcome_condition_law {σ : Type} {m n : Node} (h : ConditionLaw m n) (tree : Node)
    (path : List Nat) (hrole : ∀ role, tree.roleAt? .root path = some role → role.Hides m n)
    (source : String) (s : Surroundings σ) (state : Bag) (host : σ) (traced traced' : Bool) :
    ((tree.replaceAt path m).outcome source s state host traced).Alike
      ((tree.replaceAt path n).outcome source s state host traced') :=
  (h.interchangeable.replaceAt hrole).outcome source s state host traced traced'

/-- The argument of a call is the negation of an assignment and another call. -/
theorem outcome_condition_law_calls :
    let note (n : Node) : Node := .call ⟨1, 5⟩ (.var .first "note") [n] false
    let a : Node := .assignment .first (.identifier .first "x") (.literal .first (.boolean true))
    let b : Node := note (.var .first "x")
    let m : Node := .unary .first .not (.logical ⟨1, 9⟩ .and a b)
    let n : Node := .logical ⟨1, 7⟩ .or (.unary .first .not a) (.unary ⟨1, 9⟩ .not b)
    let tree : Node := .array .first [note (.literal .first .null)]
    let s : Surroundings (Unit × List HostCall) :=
      ⟨[], Registry.empty.define "note" (.host 0), Host.none.recorded⟩
    let outcome := (tree.replaceAt [0, 1] m).outcome "" s [] ((), []) false
    ConditionLaw m n ∧
      (∀ role, tree.roleAt? .root [0, 1] = some role → role.Hides m n) ∧
      outcome.host.2 = [⟨0, .undefined, [.boolean true]⟩, ⟨0, .undefined, [.boolean true]⟩] ∧
      outcome.Alike ((tree.replaceAt [0, 1] n).outcome "" s [] ((), []) true) := by
  intro note a b m n tree s outcome
  have hlaw : ConditionLaw m n := .not_and ..
  have hrole : ∀ role, tree.roleAt? .root [0, 1] = some role → role.Hides m n := by
    intro role h
    cases h
    trivial
  exact ⟨hlaw, hrole, rfl, outcome_condition_law hlaw tree [0, 1] hrole "" s [] ((), []) false true⟩

end ExprLang
