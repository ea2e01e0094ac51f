import ExprLang.Proofs.Eval.Effects
import ExprLang.Proofs.Tree.Moved

/-!
# ExprLang.Proofs.Eval.Coupling

Two evaluations side by side.

The trees differ in their places at most (`Node.moved`); the surroundings and the runs may differ in
whatever the tree does not look at.  `Eval.Couples` says of two evaluations that from runs that are
alike they come to the same result, write the same, and leave runs that are alike, with one rule for
each way of putting evaluations together.  What likeness of runs has to bear is listed once
(`Surroundings.Coupled`): events, look-ups of the names of the tree, writes, and calls.  One
induction over trees then shows that a tree and itself moved are coupled (`Eval.couples_find`).
-/

namespace ExprLang

/-! ## Trees with other places -/

namespace Node

variable {g : Position → Position}

/-- A step is refused as before. -/
@[simp] theorem refusal_movedStep (s : Step Node) (type : String) :
    (movedStep g s).refusal type = s.refusal type := by
  obtain ⟨key, optional, p⟩ := s
  rw [movedStep]
  cases key <;> rw [moved] <;> rfl

/-- The variables of a tree. -/
def Names (tree : Node) (name : String) : Prop := ∃ pos, (Node.var pos name).Within tree

end Node

/-- The failure of the same cause at another place. -/
def Failure.moved (g : Position → Position) (f : Failure) : Failure := ⟨f.cause, g f.position⟩

@[simp] theorem Failure.moved_id (f : Failure) : f.moved id = f := rfl

/-! ## Coupled evaluations -/

/-- A run in which something was written. -/
def Run.write {σ : Type} (r : Run σ) (w : Write) : Run σ := { r with state := w.apply r.state }

variable {σ α β : Type} {g : Position → Position}

/-- Runs that are alike as far as a tree with these variables can see: what is done on both sides
keeps them alike, names have the same value, and calls the same result. -/
structure Surroundings.Coupled (names : String → Prop) (s s' : Surroundings σ)
    (P : Run σ → Run σ → Prop) : Prop where
  functions : s'.functions = s.functions
  record : ∀ {r r'} (e e' : Event), P r r' → P (r.record e) (r'.record e')
  lookup : ∀ {r r' name}, P r r' → names name →
    Scope.lookup ⟨s'.vars, r'.state⟩ name = Scope.lookup ⟨s.vars, r.state⟩ name
  write : ∀ {r r'} (w : Write), P r r' → P (r.write w) (r'.write w)
  call : ∀ {r r'} (f : Function) (receiver : Value) (args : List Value), P r r' →
    (f.call s'.host receiver args r'.host).1 = (f.call s.host receiver args r.host).1 ∧
      P { r with host := (f.call s.host receiver args r.host).2 }
        { r' with host := (f.call s'.host receiver args r'.host).2 }

namespace Eval

/-- From runs that are alike, the second evaluation comes to the result of the first, moved, writes
what the first writes, and leaves a run like that of the first. -/
structure Couples (P : Run σ → Run σ → Prop) (g : Position → Position) (L L' : Log σ)
    (c c' : Eval σ α) : Prop where
  result : ∀ {r r'}, P r r' → (c'.runFrom r').1 = (c.runFrom r).1.mapError (.moved g)
  run : ∀ {r r'}, P r r' → P (c.runFrom r).2 (c'.runFrom r').2
  log : ∀ {r r'}, P r r' → L' r' = L r

namespace Couples

variable {P : Run σ → Run σ → Prop} {L L' : Log σ} {c c' : Eval σ α}

theorem pure (a : α) : Couples P g .none .none (Pure.pure a) (Pure.pure a : Eval σ α) where
  result _ := rfl
  run h := h
  log _ := rfl

theorem fail (cause : FailureCause) (pos : Position) :
    Couples P g .none .none (Eval.fail cause pos) (Eval.fail cause (g pos) : Eval σ α) where
  result _ := rfl
  run h := h
  log _ := rfl

/-- Both sides come to the same, or both fail. -/
theorem cases (h : Couples P g L L' c c') {r r' : Run σ} (hr : P r r') :
    (∃ a r₁ r₁', c.runFrom r = (.ok a, r₁) ∧ c'.runFrom r' = (.ok a, r₁') ∧ P r₁ r₁') ∨
      ∃ f r₁ r₁', c.runFrom r = (.error f, r₁) ∧ c'.runFrom r' = (.error (f.moved g), r₁') ∧
        P r₁ r₁' := by
  have hresult := h.result hr
  have hrun := h.run hr
  generalize c.runFrom r = q at *
  generalize c'.runFrom r' = q' at *
  obtain ⟨x, r₁⟩ := q
  obtain ⟨x', r₁'⟩ := q'
  obtain rfl : x' = _ := hresult
  cases x with
  | ok a => exact .inl ⟨a, r₁, r₁', rfl, rfl, hrun⟩
  | error f => exact .inr ⟨f, r₁, r₁', rfl, rfl, hrun⟩

theorem bind {f f' : α → Eval σ β} {K K' : α → Log σ} (hc : Couples P g L L' c c')
    (hf : ∀ a, Couples P g (K a) (K' a) (f a) (f' a)) :
    Couples P g (L.before c K) (L'.before c' K') (c >>= f) (c' >>= f') where
  result hr := by
    rw [runFrom_bind, runFrom_bind]
    rcases hc.cases hr with ⟨a, r₁, r₁', h, h', hr₁⟩ | ⟨e, r₁, r₁', h, h', -⟩
    · rw [h, h']
      exact (hf a).result hr₁
    · rw [h, h']
      rfl
  run hr := by
    rw [runFrom_bind, runFrom_bind]
    rcases hc.cases hr with ⟨a, r₁, r₁', h, h', hr₁⟩ | ⟨e, r₁, r₁', h, h', hr₁⟩
    · rw [h, h']
      exact (hf a).run hr₁
    · rw [h, h']
      exact hr₁
  log hr := by
    rw [Log.before, Log.before, hc.log hr]
    rcases hc.cases hr with ⟨a, r₁, r₁', h, h', hr₁⟩ | ⟨e, r₁, r₁', h, h', -⟩
    · rw [h, h']
      dsimp only
      rw [(hf a).log hr₁]
    · rw [h, h']

/-- What follows writes nothing. -/
theorem last {f f' : α → Eval σ β} (hc : Couples P g L L' c c')
    (hf : ∀ a, Couples P g .none .none (f a) (f' a)) : Couples P g L L' (c >>= f) (c' >>= f') := by
  have hbind := hc.bind hf
  rwa [Log.before_none, Log.before_none] at hbind

theorem map (hc : Couples P g L L' c c') (f : α → β) :
    Couples P g L L' (c >>= fun a => Pure.pure (f a)) (c' >>= fun a => Pure.pure (f a)) :=
  hc.last fun a => pure (f a)

theorem ite {p : Prop} [Decidable p] {d d' : Eval σ α} {M M' : Log σ} (hc : Couples P g L L' c c')
    (hd : Couples P g M M' d d') : Couples P g (if p then L else M) (if p then L' else M')
      (if p then c else d) (if p then c' else d') := by
  split
  · exact hc
  · exact hd

section Coupled

variable {names : String → Prop} {s s' : Surroundings σ} (hs : s.Coupled names s' P)
include hs

theorem visit {body body' : Eval σ Found} (h : Couples P g L L' body body') (kind : NodeKind)
    (depth depth' : Nat) (pos : Position) :
    Couples P g (L.inside kind depth pos) (L'.inside kind depth' (g pos))
      (visit kind depth pos body) (visit kind depth' (g pos) body') where
  result hr := by
    rw [runFrom_visit, runFrom_visit]
    rcases h.cases (hs.record _ _ hr) with ⟨a, r₁, r₁', h, h', -⟩ | ⟨e, r₁, r₁', h, h', -⟩
    · rw [h, h']
      rfl
    · rw [h, h']
      rfl
  run hr := by
    rw [runFrom_visit, runFrom_visit]
    rcases h.cases (hs.record _ _ hr) with ⟨a, r₁, r₁', h, h', hr₁⟩ | ⟨e, r₁, r₁', h, h', hr₁⟩
    · rw [h, h']
      exact hs.record _ _ hr₁
    · rw [h, h']
      exact hr₁
  log hr := h.log (hs.record _ _ hr)

theorem lookup {name : String} (hname : names name) :
    Couples P g .none .none (lookup s name) (lookup s' name) where
  result hr := congrArg Except.ok (hs.lookup hr hname)
  run hr := hr
  log _ := rfl

theorem assign (name : String) (v : Value) :
    Couples P g (fun _ => [.assigned name v]) (fun _ => [.assigned name v])
      (assign name v) (assign name v) where
  result _ := rfl
  run hr := hs.write (.assigned name v) hr
  log _ := rfl

theorem recordCaptures (groups : Option (List (Option String))) :
    Couples P g (fun _ => [.matched groups]) (fun _ => [.matched groups])
      (recordCaptures groups) (recordCaptures groups) where
  result _ := rfl
  run hr := hs.write (.matched groups) hr
  log _ := rfl

theorem call (pos : Position) (f : Function) (receiver : Value) (args : List Value) :
    Couples P g .none .none (call s pos f receiver args) (call s' (g pos) f receiver args) where
  result {r r'} hr := by
    have hcall := (hs.call f receiver args hr).1
    rw [runFrom_call, runFrom_call]
    generalize f.call s.host receiver args r.host = q at *
    generalize f.call s'.host receiver args r'.host = q' at *
    obtain ⟨x, host⟩ := q
    obtain ⟨x', host'⟩ := q'
    obtain rfl : x' = x := hcall
    cases x' <;> rfl
  run {r r'} hr := by
    obtain ⟨hcall, hrun⟩ := hs.call f receiver args hr
    rw [runFrom_call, runFrom_call]
    generalize f.call s.host receiver args r.host = q at *
    generalize f.call s'.host receiver args r'.host = q' at *
    obtain ⟨x, host⟩ := q
    obtain ⟨x', host'⟩ := q'
    obtain rfl : x' = x := hcall
    cases x' <;> exact hrun
  log _ := rfl

theorem relate (pos : Position) (op : RelationalOp) (left right : Value) :
    Couples P g (relateWrites op left right) (relateWrites op left right)
      (relate pos op left right) (relate (g pos) op left right) := by
  have hmatch : ∀ expected, op.isMatching = true →
      Couples P g (relateWrites op left right) (relateWrites op left right)
        (matchRegExp pos expected left right) (matchRegExp (g pos) expected left right) := by
    intro expected hop
    rw [matchRegExp, matchRegExp]
    cases h : right.toRegExp with
    | error e =>
      rw [relateWrites_of_error hop h]
      exact .fail _ pos
    | ok r =>
      rw [relateWrites_of_ok hop h]
      exact .map (.recordCaptures hs _) _
  cases op with
  | isMatch => exact hmatch true rfl
  | noMatch => exact hmatch false rfl
  | _ => exact .pure _

theorem findCallee (pos : Position) {name : String} (hname : names name) (optional : Bool) :
    Couples P g .none .none (findCallee s pos name optional)
      (findCallee s' (g pos) name optional) := by
  refine .last (.lookup hs hname) fun v => ?_
  rw [hs.functions]
  cases v.or ((s.functions.resolve name).map .function) with
  | some v => exact .pure _
  | none =>
    cases optional with
    | true => exact .pure _
    | false => exact .fail _ pos

/-- What becomes of a callee. -/
theorem apply {args args' : Eval σ (List Value)} (hargs : Couples P g L L' args args')
    (pos : Position) (optional : Bool) (f : Found) :
    Couples P g
      (match f.value with
        | .function _ => L
        | _ => .none)
      (match f.value with
        | .function _ => L'
        | _ => .none)
      (match f.value with
        | .function h => do
          let vs ← args
          return Found.plain (← Eval.call s pos h f.receiver vs)
        | v =>
          if optional && v.isNullish then return Found.plain .undefined
          else Eval.fail (.notCallable v.typeName) pos : Eval σ Found)
      (match f.value with
        | .function h => do
          let vs ← args'
          return Found.plain (← Eval.call s' (g pos) h f.receiver vs)
        | v =>
          if optional && v.isNullish then return Found.plain .undefined
          else Eval.fail (.notCallable v.typeName) (g pos)) := by
  cases f.value with
  | function h => exact .last hargs fun vs => .map (.call hs pos h f.receiver vs) _
  | _ =>
    dsimp only
    split
    · exact .pure _
    · exact .fail _ pos

end Coupled

end Couples

/-! ## Trees -/

section Find

variable {tree : Node} {s s' : Surroundings σ} {P : Run σ → Run σ → Prop}

mutual

/-- A tree and itself moved are evaluated alike. -/
theorem couples_find (hs : s.Coupled tree.Names s' P) (depth depth' : Nat) (n : Node)
    (hn : n.Within tree) :
    Couples P g (writes s depth n) (writes s' depth' (n.moved g)) (find s depth n)
      (find s' depth' (n.moved g)) := by
  have inside : ∀ {c : Node}, c ∈ n.children → c.Within tree := fun hc =>
    (Node.Within.of_mem hc).trans hn
  rw [find.eq_def, find.eq_def s' depth' (n.moved g), writes.eq_def,
    writes.eq_def s' depth' (n.moved g), Node.kind_moved, Node.position_moved]
  refine .visit hs ?_ _ _ _ _
  cases n with
  | sequence pos ns =>
    rw [Node.moved]
    exact .map (couples_findLast hs _ _ .undefined ns fun c => inside) _
  | assignment pos target value =>
    rw [Node.moved]
    refine .bind (couples_find hs _ _ target (inside (by simp [Node.children]))) fun t => ?_
    cases t.value with
    | string name =>
      exact .bind (couples_find hs _ _ value (inside (by simp [Node.children]))) fun v =>
        .map (.assign hs name v.value) _
    | _ =>
      rw [Node.position_moved]
      exact .fail _ _
  | fallback pos a b =>
    rw [Node.moved]
    exact .bind (couples_find hs _ _ a (inside (by simp [Node.children]))) fun v =>
      .ite (.pure _) (.map (couples_find hs _ _ b (inside (by simp [Node.children]))) _)
  | choice pos a b c =>
    rw [Node.moved]
    exact .bind (couples_find hs _ _ a (inside (by simp [Node.children]))) fun v =>
      .ite (.map (couples_find hs _ _ b (inside (by simp [Node.children]))) _)
        (.map (couples_find hs _ _ c (inside (by simp [Node.children]))) _)
  | logical pos op a b =>
    rw [Node.moved]
    have ha : a.Within tree := inside (by simp [Node.children])
    have hb : b.Within tree := inside (by simp [Node.children])
    cases op with
    | and =>
      exact .bind (couples_find hs _ _ a ha) fun v =>
        .ite (.map (couples_find hs _ _ b hb) _) (.pure _)
    | or =>
      exact .bind (couples_find hs _ _ a ha) fun v =>
        .ite (.pure _) (.map (couples_find hs _ _ b hb) _)
  | bitwise pos op a b =>
    rw [Node.moved]
    exact .bind (couples_find hs _ _ a (inside (by simp [Node.children]))) fun v =>
      .map (couples_find hs _ _ b (inside (by simp [Node.children]))) _
  | relational pos op a b =>
    rw [Node.moved]
    refine .bind (couples_find hs _ _ a (inside (by simp [Node.children]))) fun l => ?_
    refine .bind (couples_find hs _ _ b (inside (by simp [Node.children]))) fun r => ?_
    exact .map (.relate hs pos op l.value r.value) _
  | arithmetic pos op a b =>
    rw [Node.moved]
    exact .bind (couples_find hs _ _ a (inside (by simp [Node.children]))) fun v =>
      .map (couples_find hs _ _ b (inside (by simp [Node.children]))) _
  | unary pos op a =>
    rw [Node.moved]
    exact .map (couples_find hs _ _ a (inside (by simp [Node.children]))) _
  | select pos base steps =>
    rw [Node.moved]
    refine .bind (couples_find hs _ _ base (inside (by simp [Node.children]))) fun v => ?_
    refine couples_follow hs _ _ (.plain v.value) steps fun step hstep => ?_
    exact inside (List.mem_cons_of_mem _ (List.mem_map_of_mem hstep))
  | call pos callee args optional =>
    rw [Node.moved]
    have hargs := couples_findAll hs (depth + 1) (depth' + 1) args fun c hc =>
      inside (List.mem_cons_of_mem _ hc)
    cases callee with
    | var p name =>
      rw [Node.moved]
      have hname : tree.Names name := ⟨p, inside (by simp [Node.children])⟩
      exact .bind (.visit hs (.findCallee hs p hname optional) _ _ _ _) fun f =>
        .apply hs hargs pos optional f
    | _ =>
      have hcallee := couples_find hs (depth + 1) (depth' + 1) _ (inside (List.mem_cons_self ..))
      rw [Node.moved] at hcallee ⊢
      exact .bind hcallee fun f => .apply hs hargs pos optional f
  | identifier pos name => exact .pure _
  | var pos name =>
    rw [Node.moved]
    refine .last (.lookup hs ⟨pos, hn⟩) fun v => ?_
    cases v with
    | some v => exact .pure _
    | none => exact .fail _ pos
  | array pos ns =>
    rw [Node.moved]
    exact .map (couples_findAll hs _ _ ns fun c => inside) _
  | object pos ns =>
    rw [Node.moved]
    exact .map (couples_findItems hs _ _ [] ns fun c => inside) _
  | item pos a b =>
    rw [Node.moved]
    exact .bind (couples_find hs _ _ a (inside (by simp [Node.children]))) fun v =>
      .map (couples_find hs _ _ b (inside (by simp [Node.children]))) _
  | template pos ns =>
    rw [Node.moved]
    exact .map (couples_findText hs _ _ "" ns fun c => inside) _
  | string pos text => exact .pure _
  | regexp pos r => exact .pure _
  | number pos x => exact .pure _
  | literal pos v => exact .pure _

theorem couples_findLast (hs : s.Coupled tree.Names s' P) (depth depth' : Nat) (last : Value)
    (ns : List Node) (hns : ∀ n ∈ ns, n.Within tree) :
    Couples P g (writesAll s depth ns) (writesAll s' depth' (Node.movedAll g ns))
      (findLast s depth last ns) (findLast s' depth' last (Node.movedAll g ns)) := by
  cases ns with
  | nil => exact .pure _
  | cons n ns =>
    obtain ⟨hn, hns⟩ := List.forall_mem_cons.mp hns
    exact .bind (couples_find hs _ _ n hn) fun a => couples_findLast hs _ _ a.value ns hns

theorem couples_findAll (hs : s.Coupled tree.Names s' P) (depth depth' : Nat) (ns : List Node)
    (hns : ∀ n ∈ ns, n.Within tree) :
    Couples P g (writesAll s depth ns) (writesAll s' depth' (Node.movedAll g ns))
      (findAll s depth ns) (findAll s' depth' (Node.movedAll g ns)) := by
  cases ns with
  | nil => exact .pure _
  | cons n ns =>
    obtain ⟨hn, hns⟩ := List.forall_mem_cons.mp hns
    exact .bind (couples_find hs _ _ n hn) fun a => .map (couples_findAll hs _ _ ns hns) _

theorem couples_findText (hs : s.Coupled tree.Names s' P) (depth depth' : Nat) (text : String)
    (ns : List Node) (hns : ∀ n ∈ ns, n.Within tree) :
    Couples P g (writesAll s depth ns) (writesAll s' depth' (Node.movedAll g ns))
      (findText s depth text ns) (findText s' depth' text (Node.movedAll g ns)) := by
  cases ns with
  | nil => exact .pure _
  | cons n ns =>
    obtain ⟨hn, hns⟩ := List.forall_mem_cons.mp hns
    exact .bind (couples_find hs _ _ n hn) fun a => couples_findText hs _ _ _ ns hns

theorem couples_findItems (hs : s.Coupled tree.Names s' P) (depth depth' : Nat) (entries : Bag)
    (ns : List Node) (hns : ∀ n ∈ ns, n.Within tree) :
    Couples P g (writesItems s depth ns) (writesItems s' depth' (Node.movedAll g ns))
      (findItems s depth entries ns) (findItems s' depth' entries (Node.movedAll g ns)) := by
  cases ns with
  | nil => exact .pure _
  | cons n ns =>
    obtain ⟨hn, hns⟩ := List.forall_mem_cons.mp hns
    rw [Node.movedAll, findItems, findItems, writesItems, writesItems, Node.kind_moved,
      Node.position_moved]
    refine .ite (.bind (couples_find hs _ _ n hn) fun a => ?_) (.fail _ _)
    cases a.value <;> exact couples_findItems hs _ _ _ ns hns

theorem couples_follow (hs : s.Coupled tree.Names s' P) (depth depth' : Nat) (found : Found)
    (steps : List (Step Node)) (hsteps : ∀ step ∈ steps, step.key.Within tree) :
    Couples P g (writesSteps s depth found steps)
      (writesSteps s' depth' found (Node.movedSteps g steps)) (follow s depth found steps)
      (follow s' depth' found (Node.movedSteps g steps)) := by
  cases steps with
  | nil => exact .pure _
  | cons step steps =>
    obtain ⟨hstep, hsteps⟩ := List.forall_mem_cons.mp hsteps
    rw [Node.movedSteps, follow, follow, writesSteps, writesSteps, Node.optional_movedStep,
      Node.refusal_movedStep, Node.position_movedStep]
    refine .ite (.pure _) (.ite ?_ (.fail _ _))
    exact .bind (couples_findKey hs _ _ step hstep) fun key =>
      couples_follow hs _ _ _ steps hsteps

theorem couples_findKey (hs : s.Coupled tree.Names s' P) (depth depth' : Nat) (step : Step Node)
    (hstep : step.key.Within tree) :
    Couples P g (writesKey s depth step) (writesKey s' depth' (Node.movedStep g step))
      (findKey s depth step) (findKey s' depth' (Node.movedStep g step)) := by
  obtain ⟨key, optional, pos⟩ := step
  exact .map (couples_find hs _ _ key hstep) _

end

end Find

end Eval

end ExprLang
