import ExprLang.Proofs.Eval.Writes
import ExprLang.Proofs.Tree.Shape

/-!
# ExprLang.Proofs.Eval.Effects

Which nodes of a tree can fail, and which can write to the state.

`Eval.Accounts` says of an evaluation that its failures and its writes are of certain kinds, and that
the state it leaves, whether it goes well or fails, is the first state with the writes replayed.  One
induction over trees shows this for `Eval.find` (`Eval.accounts_find`): every failure is one that
some node of the tree raises itself (`Node.Raises`), and every write one that some node makes
(`Node.Makes`).
-/

namespace ExprLang

/-! ## What a node does itself -/

/-- The operators of matches. -/
def RelationalOp.isMatching : RelationalOp → Bool
  | .isMatch | .noMatch => true
  | _ => false

namespace Node

/-- The failures that a node raises itself. -/
def Raises (f : Failure) : Node → Prop
  | assignment _ target _ => target.kind ≠ .identifier ∧ f = ⟨.target, target.position⟩
  | relational pos op _ _ => op.isMatching = true ∧ ∃ e, f = ⟨.pattern e, pos⟩
  | select _ _ steps => ∃ s ∈ steps, ∃ type, f = ⟨s.refusal type, s.position⟩
  | call pos _ _ _ => (∃ type, f = ⟨.notCallable type, pos⟩) ∨ ∃ e, f = ⟨.function e, pos⟩
  | var pos name => f = ⟨.unknownVariable name, pos⟩ ∨ f = ⟨.unknownFunction name, pos⟩
  | object _ items => ∃ n ∈ items, n.kind ≠ .item ∧ f = ⟨.misplaced n.kind, n.position⟩
  | _ => False

/-- The writes that a node makes itself.  An assignment writes to whatever name its target gives;
a bare name gives itself. -/
def Makes (w : Write) : Node → Prop
  | assignment _ target _ => ∃ name v, w = .assigned name v ∧
      ∀ pos name', target = .identifier pos name' → name' = name
  | relational _ op _ _ => op.isMatching = true ∧ ∃ groups, w = .matched groups
  | _ => False

/-- Some node of the tree raises the failure. -/
def CanFail (tree : Node) (f : Failure) : Prop := ∃ n : Node, n.Within tree ∧ n.Raises f

/-- Some node of the tree makes the write. -/
def CanWrite (tree : Node) (w : Write) : Prop := ∃ n : Node, n.Within tree ∧ n.Makes w

end Node

namespace Eval

variable {σ α β : Type}

/-! ## Accounting for effects -/

/-- The failures of an evaluation are such that `P`, its writes are such that `Q`, and the state it
leaves is the first with the writes of the log replayed. -/
structure Accounts (P : Failure → Prop) (Q : Write → Prop) (L : Log σ) (c : Eval σ α) : Prop where
  failure : ∀ r f, (c.runFrom r).1 = .error f → P f
  state : ∀ r, (c.runFrom r).2.state = Bag.replay r.state (L r)
  write : ∀ r, ∀ w ∈ L r, Q w

/-- A result that an evaluation can give. -/
def Gives (c : Eval σ α) (a : α) : Prop := ∃ r, (c.runFrom r).1 = .ok a

theorem runFrom_call (s : Surroundings σ) (pos : Position) (f : Function) (receiver : Value)
    (args : List Value) (r : Run σ) : (call s pos f receiver args).runFrom r =
      match f.call s.host receiver args r.host with
      | (.ok v, host) => (.ok v, { r with host := host })
      | (.error e, host) => (.error ⟨.function e, pos⟩, { r with host := host }) := by
  have hget : (get : Eval σ (Run σ)).runFrom r = (.ok r, r) := rfl
  rw [call, runFrom_bind_of_ok hget]
  generalize f.call s.host receiver args r.host = q
  obtain ⟨x, host⟩ := q
  cases x <;> rfl

namespace Accounts

variable {P : Failure → Prop} {Q : Write → Prop} {L : Log σ} {c : Eval σ α}

/-- An evaluation that always goes well and changes nothing of the state. -/
theorem of_ok (h : ∀ r, ∃ a r', c.runFrom r = (.ok a, r') ∧ r'.state = r.state) :
    Accounts P Q .none c where
  failure r f hf := by
    obtain ⟨a, r', hr, -⟩ := h r
    rw [hr] at hf
    cases hf
  state r := by
    obtain ⟨a, r', hr, hstate⟩ := h r
    rw [hr]
    exact hstate
  write r w hw := absurd hw List.not_mem_nil

theorem pure (a : α) : Accounts P Q .none (Pure.pure a : Eval σ α) :=
  of_ok fun r => ⟨a, r, rfl, rfl⟩

theorem fail {cause : FailureCause} {pos : Position} (h : P ⟨cause, pos⟩) :
    Accounts P Q .none (Eval.fail cause pos : Eval σ α) where
  failure r f hf := by
    cases hf
    exact h
  state r := rfl
  write r w hw := absurd hw List.not_mem_nil

theorem bind {f : α → Eval σ β} {K : α → Log σ} (hc : Accounts P Q L c)
    (hf : ∀ a, c.Gives a → Accounts P Q (K a) (f a)) :
    Accounts P Q (L.before c K) (c >>= f) where
  failure r e he := by
    rw [runFrom_bind] at he
    split at he
    · next a r' hr => exact (hf a ⟨r, by rw [hr]⟩).failure r' e he
    · next e' r' hr =>
      cases he
      exact hc.failure r e (by rw [hr])
  state r := by
    have hstate := hc.state r
    rw [runFrom_bind, Log.before, Bag.replay_append, ← hstate]
    split
    · next a r' hr =>
      rw [hr]
      exact (hf a ⟨r, by rw [hr]⟩).state r'
    · next e r' hr => rw [hr, Bag.replay_nil]
  write r w hw := by
    rw [Log.before, List.mem_append] at hw
    rcases hw with hw | hw
    · exact hc.write r w hw
    · split at hw
      · next a r' hr => exact (hf a ⟨r, by rw [hr]⟩).write r' w hw
      · exact absurd hw List.not_mem_nil

/-- What follows writes nothing. -/
theorem last {f : α → Eval σ β} (hc : Accounts P Q L c)
    (hf : ∀ a, c.Gives a → Accounts P Q .none (f a)) : Accounts P Q L (c >>= f) := by
  have hbind := hc.bind hf
  rwa [Log.before_none] at hbind

theorem map {g : α → β} (hc : Accounts P Q L c) :
    Accounts P Q L (c >>= fun a => Pure.pure (g a)) :=
  hc.last fun a _ => pure (g a)

/-- Recording events is no effect on the state. -/
theorem visit {kind : NodeKind} {depth : Nat} {pos : Position} {body : Eval σ Found}
    (h : Accounts P Q L body) :
    Accounts P Q (L.inside kind depth pos) (visit kind depth pos body) where
  failure r e he := by
    rw [runFrom_visit] at he
    split at he
    · cases he
    · next e' r' hr =>
      cases he
      exact h.failure _ e (by rw [hr])
  state r := by
    have hstate := h.state (r.record (.enter kind depth pos))
    rw [Run.state_record] at hstate
    rw [Log.inside, ← hstate, runFrom_visit]
    split
    · next found r' hr => rw [hr, Run.state_record]
    · next e r' hr => rw [hr]
  write r := h.write _

theorem lookup (s : Surroundings σ) (name : String) : Accounts P Q .none (lookup s name) :=
  of_ok fun r => ⟨_, r, rfl, rfl⟩

theorem assign {name : String} {v : Value} (h : Q (.assigned name v)) :
    Accounts P Q (fun _ => [.assigned name v]) (assign name v : Eval σ Unit) where
  failure r f hf := by cases hf
  state r := rfl
  write r w hw := by rwa [List.mem_singleton.mp hw]

theorem recordCaptures {groups : Option (List (Option String))} (h : Q (.matched groups)) :
    Accounts P Q (fun _ => [.matched groups]) (recordCaptures groups : Eval σ Unit) where
  failure r f hf := by cases hf
  state r := rfl
  write r w hw := by rwa [List.mem_singleton.mp hw]

theorem call {s : Surroundings σ} {pos : Position} {f : Function} {receiver : Value}
    {args : List Value} (h : ∀ e, P ⟨.function e, pos⟩) :
    Accounts P Q .none (call s pos f receiver args) where
  failure r e he := by
    rw [runFrom_call] at he
    split at he
    · cases he
    · cases he
      exact h _
  state r := by
    rw [runFrom_call]
    split <;> rfl
  write r w hw := absurd hw List.not_mem_nil

end Accounts

/-! ## What evaluations account for -/

section Find

variable {tree : Node}

theorem relateWrites_of_error {op : RelationalOp} {left right : Value}
    (hop : op.isMatching = true) {e : RegExpError} (h : right.toRegExp = .error e) :
    relateWrites op left right = (.none : Log σ) := by
  cases op with
  | isMatch | noMatch => rw [relateWrites, h]
  | _ => cases hop

theorem relateWrites_of_ok {op : RelationalOp} {left right : Value} (hop : op.isMatching = true)
    {p : RegExp} (h : right.toRegExp = .ok p) :
    (relateWrites op left right : Log σ) = fun _ => [.matched (p.captures left.stringify)] := by
  cases op with
  | isMatch | noMatch => rw [relateWrites, h]
  | _ => cases hop

theorem accounts_relate {pos : Position} {op : RelationalOp} {left right : Value}
    {P : Failure → Prop} {Q : Write → Prop}
    (hP : ∀ e, op.isMatching = true → P ⟨.pattern e, pos⟩)
    (hQ : ∀ groups, op.isMatching = true → Q (.matched groups)) :
    Accounts P Q (relateWrites op left right) (relate pos op left right : Eval σ Value) := by
  have hmatch : ∀ expected, op.isMatching = true → Accounts P Q (relateWrites op left right)
      (matchRegExp pos expected left right : Eval σ Value) := by
    intro expected hop
    rw [matchRegExp]
    cases h : right.toRegExp with
    | error e =>
      rw [relateWrites_of_error hop h]
      exact .fail (hP e hop)
    | ok r =>
      rw [relateWrites_of_ok hop h]
      exact .map (.recordCaptures (hQ _ hop))
  cases op with
  | isMatch => exact hmatch true rfl
  | noMatch => exact hmatch false rfl
  | _ => exact .pure _

theorem accounts_findCallee (s : Surroundings σ) {pos : Position} {name : String} {optional : Bool}
    {P : Failure → Prop} {Q : Write → Prop} (hP : P ⟨.unknownFunction name, pos⟩) :
    Accounts P Q .none (findCallee s pos name optional) := by
  refine .last (.lookup s name) fun v _ => ?_
  cases v.or ((s.functions.resolve name).map .function) with
  | some v => exact .pure _
  | none =>
    cases optional with
    | true => exact .pure _
    | false => exact .fail hP

/-- What becomes of a callee: the arguments are evaluated if it is a function. -/
theorem accounts_apply (s : Surroundings σ) {pos : Position} {optional : Bool} (f : Found)
    {args : Eval σ (List Value)} {L : Log σ} {P : Failure → Prop} {Q : Write → Prop}
    (hargs : Accounts P Q L args) (hfunction : ∀ e, P ⟨.function e, pos⟩)
    (hnot : ∀ type, P ⟨.notCallable type, pos⟩) :
    Accounts P Q
      (match f.value with
        | .function _ => L
        | _ => .none)
      (match f.value with
        | .function g => do
          let vs ← args
          return Found.plain (← call s pos g f.receiver vs)
        | v =>
          if optional && v.isNullish then return Found.plain .undefined
          else fail (.notCallable v.typeName) pos : Eval σ Found) := by
  cases f.value with
  | function g => exact .last hargs fun vs _ => .map (.call hfunction)
  | _ =>
    dsimp only
    split
    · exact .pure _
    · exact .fail (hnot _)

/-- A bare name gives itself. -/
theorem value_of_gives_identifier {s : Surroundings σ} {depth : Nat} {pos : Position} {name : String}
    {found : Found} (h : (find s depth (.identifier pos name)).Gives found) :
    found.value = .string name := by
  obtain ⟨r, hr⟩ := h
  rw [find, runFrom_visit, runFrom_pure] at hr
  cases hr
  rfl

mutual

/-- Every failure of the evaluation of a node in a tree is raised by a node of the tree, every write
is made by one, and the state that it leaves is what the writes make of the first. -/
theorem accounts_find (s : Surroundings σ) (depth : Nat) (n : Node) (hn : n.Within tree) :
    Accounts tree.CanFail tree.CanWrite (writes s depth n) (find s depth n) := by
  have inside : ∀ {c : Node}, c ∈ n.children → c.Within tree := fun hc =>
    (Node.Within.of_mem hc).trans hn
  have raise : ∀ {f : Failure}, n.Raises f → tree.CanFail f := fun hf => ⟨n, hn, hf⟩
  have make : ∀ {w : Write}, n.Makes w → tree.CanWrite w := fun hw => ⟨n, hn, hw⟩
  rw [find.eq_def, writes.eq_def]
  refine .visit ?_
  cases n with
  | sequence pos ns => exact .map (accounts_findLast s (depth + 1) .undefined ns fun c => inside)
  | assignment pos target value =>
    refine .bind (accounts_find s (depth + 1) target (inside (by simp [Node.children])))
      fun t ht => ?_
    cases hv : t.value with
    | string name =>
      refine .bind (accounts_find s (depth + 1) value (inside (by simp [Node.children])))
        fun v _ => .map (.assign (make ⟨name, v.value, rfl, ?_⟩))
      rintro pos' name' rfl
      rw [value_of_gives_identifier ht] at hv
      exact Value.string.inj hv
    | _ =>
      refine .fail (raise ⟨fun hkind => ?_, rfl⟩)
      cases target with
      | identifier pos' name =>
        rw [value_of_gives_identifier ht] at hv
        cases hv
      | _ => cases hkind
  | fallback pos a b =>
    refine .bind (accounts_find s (depth + 1) a (inside (by simp [Node.children]))) fun v _ => ?_
    dsimp only
    split
    · exact .pure _
    · exact .map (accounts_find s (depth + 1) b (inside (by simp [Node.children])))
  | choice pos a b c =>
    refine .bind (accounts_find s (depth + 1) a (inside (by simp [Node.children]))) fun v _ => ?_
    split
    · exact .map (accounts_find s (depth + 1) b (inside (by simp [Node.children])))
    · exact .map (accounts_find s (depth + 1) c (inside (by simp [Node.children])))
  | logical pos op a b =>
    have ha := accounts_find s (depth + 1) a (inside (by simp [Node.children]))
    have hb := accounts_find s (depth + 1) b (inside (by simp [Node.children]))
    cases op with
    | and =>
      refine .bind ha fun v _ => ?_
      split
      · exact .map hb
      · exact .pure _
    | or =>
      refine .bind ha fun v _ => ?_
      split
      · exact .pure _
      · exact .map hb
  | bitwise pos op a b =>
    exact .bind (accounts_find s (depth + 1) a (inside (by simp [Node.children]))) fun v _ =>
      .map (accounts_find s (depth + 1) b (inside (by simp [Node.children])))
  | relational pos op a b =>
    refine .bind (accounts_find s (depth + 1) a (inside (by simp [Node.children]))) fun l _ => ?_
    refine .bind (accounts_find s (depth + 1) b (inside (by simp [Node.children]))) fun r _ => ?_
    exact .map (accounts_relate (fun e hop => raise ⟨hop, e, rfl⟩) fun gs hop => make ⟨hop, gs, rfl⟩)
  | arithmetic pos op a b =>
    exact .bind (accounts_find s (depth + 1) a (inside (by simp [Node.children]))) fun v _ =>
      .map (accounts_find s (depth + 1) b (inside (by simp [Node.children])))
  | unary pos op a =>
    exact .map (accounts_find s (depth + 1) a (inside (by simp [Node.children])))
  | select pos base steps =>
    refine .bind (accounts_find s (depth + 1) base (inside (by simp [Node.children]))) fun v _ => ?_
    refine accounts_follow s (depth + 1) (.plain v.value) steps (fun step hstep => inside ?_)
      fun step hstep type => raise ⟨step, hstep, type, rfl⟩
    exact List.mem_cons_of_mem _ (List.mem_map_of_mem hstep)
  | call pos callee args optional =>
    have hargs := accounts_findAll s (depth + 1) args fun c hc => inside (List.mem_cons_of_mem _ hc)
    have hfunction : ∀ e, tree.CanFail ⟨.function e, pos⟩ := fun e => raise (.inr ⟨e, rfl⟩)
    have hnot : ∀ type, tree.CanFail ⟨.notCallable type, pos⟩ := fun t => raise (.inl ⟨t, rfl⟩)
    cases callee with
    | var p name =>
      have hcallee : (Node.var p name).Within tree := inside (by simp [Node.children])
      exact .bind (.visit (accounts_findCallee s ⟨_, hcallee, .inr rfl⟩)) fun f _ =>
        accounts_apply s f hargs hfunction hnot
    | _ =>
      exact .bind (accounts_find s (depth + 1) _ (inside (by simp [Node.children]))) fun f _ =>
        accounts_apply s f hargs hfunction hnot
  | identifier pos name => exact .pure _
  | var pos name =>
    refine .last (.lookup s name) fun v _ => ?_
    cases v with
    | some v => exact .pure _
    | none => exact .fail (raise (.inl rfl))
  | array pos ns => exact .map (accounts_findAll s (depth + 1) ns fun c => inside)
  | object pos ns =>
    exact .map (accounts_findItems s (depth + 1) [] ns (fun c => inside)
      fun c hc hkind => raise ⟨c, hc, hkind, rfl⟩)
  | item pos a b =>
    exact .bind (accounts_find s (depth + 1) a (inside (by simp [Node.children]))) fun v _ =>
      .map (accounts_find s (depth + 1) b (inside (by simp [Node.children])))
  | template pos ns => exact .map (accounts_findText s (depth + 1) "" ns fun c => inside)
  | string pos text => exact .pure _
  | regexp pos r => exact .pure _
  | number pos x => exact .pure _
  | literal pos v => exact .pure _

theorem accounts_findLast (s : Surroundings σ) (depth : Nat) (last : Value) (ns : List Node)
    (hns : ∀ n ∈ ns, n.Within tree) :
    Accounts tree.CanFail tree.CanWrite (writesAll s depth ns) (findLast s depth last ns) := by
  cases ns with
  | nil => exact .pure _
  | cons n ns =>
    obtain ⟨hn, hns⟩ := List.forall_mem_cons.mp hns
    exact .bind (accounts_find s depth n hn) fun a _ => accounts_findLast s depth a.value ns hns

theorem accounts_findAll (s : Surroundings σ) (depth : Nat) (ns : List Node)
    (hns : ∀ n ∈ ns, n.Within tree) :
    Accounts tree.CanFail tree.CanWrite (writesAll s depth ns) (findAll s depth ns) := by
  cases ns with
  | nil => exact .pure _
  | cons n ns =>
    obtain ⟨hn, hns⟩ := List.forall_mem_cons.mp hns
    exact .bind (accounts_find s depth n hn) fun a _ => .map (accounts_findAll s depth ns hns)

theorem accounts_findText (s : Surroundings σ) (depth : Nat) (text : String) (ns : List Node)
    (hns : ∀ n ∈ ns, n.Within tree) :
    Accounts tree.CanFail tree.CanWrite (writesAll s depth ns) (findText s depth text ns) := by
  cases ns with
  | nil => exact .pure _
  | cons n ns =>
    obtain ⟨hn, hns⟩ := List.forall_mem_cons.mp hns
    exact .bind (accounts_find s depth n hn) fun a _ => accounts_findText s depth _ ns hns

theorem accounts_findItems (s : Surroundings σ) (depth : Nat) (entries : Bag) (ns : List Node)
    (hns : ∀ n ∈ ns, n.Within tree)
    (hraise : ∀ n ∈ ns, n.kind ≠ .item → tree.CanFail ⟨.misplaced n.kind, n.position⟩) :
    Accounts tree.CanFail tree.CanWrite (writesItems s depth ns) (findItems s depth entries ns) := by
  cases ns with
  | nil => exact .pure _
  | cons n ns =>
    obtain ⟨hn, hns⟩ := List.forall_mem_cons.mp hns
    obtain ⟨hfirst, hraise⟩ := List.forall_mem_cons.mp hraise
    rw [findItems, writesItems]
    split
    · refine .bind (accounts_find s depth n hn) fun a _ => ?_
      split
      · exact accounts_findItems s depth _ ns hns hraise
      · exact accounts_findItems s depth _ ns hns hraise
    · next hkind => exact .fail (hfirst hkind)

theorem accounts_follow (s : Surroundings σ) (depth : Nat) (found : Found)
    (steps : List (Step Node)) (hsteps : ∀ step ∈ steps, step.key.Within tree)
    (hraise : ∀ step ∈ steps, ∀ type, tree.CanFail ⟨step.refusal type, step.position⟩) :
    Accounts tree.CanFail tree.CanWrite (writesSteps s depth found steps)
      (follow s depth found steps) := by
  cases steps with
  | nil => exact .pure _
  | cons step steps =>
    obtain ⟨hstep, hsteps⟩ := List.forall_mem_cons.mp hsteps
    obtain ⟨hfirst, hraise⟩ := List.forall_mem_cons.mp hraise
    rw [follow, writesSteps]
    split
    · exact .pure _
    · split
      · exact .bind (accounts_findKey s depth step hstep) fun key _ =>
          accounts_follow s depth _ steps hsteps hraise
      · exact .fail (hfirst _)

theorem accounts_findKey (s : Surroundings σ) (depth : Nat) (step : Step Node)
    (hstep : step.key.Within tree) :
    Accounts tree.CanFail tree.CanWrite (writesKey s depth step) (findKey s depth step) := by
  obtain ⟨key, optional, pos⟩ := step
  exact .map (accounts_find s depth key hstep)

end

end Find

end Eval

/-! ## Trees -/

namespace Node

variable {σ : Type} {tree : Node} {s : Surroundings σ} {r : Run σ}

theorem evaluate_eq (tree : Node) (s : Surroundings σ) (r : Run σ) :
    tree.evaluate s r = (Eval.find s 0 tree >>= fun found => pure found.value).runFrom r := by
  rw [evaluate, map_eq_pure_bind]
  rfl

theorem accounts_evaluate (tree : Node) (s : Surroundings σ) :
    Eval.Accounts tree.CanFail tree.CanWrite (tree.writes s)
      (Eval.find s 0 tree >>= fun found => pure found.value) :=
  .map (Eval.accounts_find s 0 tree .refl)

/-- An evaluation fails as some node of the tree does. -/
theorem canFail_of_evaluate {f : Failure} (h : (tree.evaluate s r).1 = .error f) :
    tree.CanFail f := by
  rw [evaluate_eq] at h
  exact (accounts_evaluate tree s).failure r f h

/-- An evaluation writes what some nodes of the tree do. -/
theorem canWrite_of_mem_writes {w : Write} (h : w ∈ tree.writes s r) : tree.CanWrite w :=
  (accounts_evaluate tree s).write r w h

/-- The state at the end of an evaluation, be it by a failure, is what the writes make of the
first. -/
theorem state_evaluate (tree : Node) (s : Surroundings σ) (r : Run σ) :
    (tree.evaluate s r).2.state = Bag.replay r.state (tree.writes s r) := by
  rw [evaluate_eq]
  exact (accounts_evaluate tree s).state r

end Node

end ExprLang
