import ExprLang.Proofs.Eval.Chaining
import ExprLang.Proofs.Eval.Exchange

/-!
# ExprLang.Proofs.Eval.Selections

Chains of selections.

A chain can be taken apart anywhere: its last steps go on from what the first ones come to, unless an
optional step among these stops the chain (`Eval.follow_append`).  So the last step reads a property
of the value of the chain without it, and this value is what a function called through the chain
receives.  Only a chain finds a receiver; whatever else is called is called without one
(`Eval.findsPlain_find`).
-/

namespace ExprLang

open Eval

variable {σ : Type}

/-- A base and the steps from it; without steps this is the base. -/
def Node.chain (base : Node) (pos : Position) : List (Step Node) → Node
  | [] => base
  | step :: steps => .select pos base (step :: steps)

/-- Whether a node takes steps from a base. -/
def Node.isChain : Node → Bool
  | .select _ _ (_ :: _) => true
  | _ => false

/-- What a step finds: the property of a value, or undefined where it has none. -/
def Found.ofKey (v : Value) (key : String) : Found := ⟨(v.property? key).getD .undefined, v⟩

/-! ## Steps -/

namespace Eval

variable {s : Surroundings σ} {depth : Nat} {found f : Found} {xs : List (Step Node)}
  {r r' : Run σ}

/-- An optional step is met with null or undefined. -/
def Stops (s : Surroundings σ) (depth : Nat) (found : Found) (steps : List (Step Node))
    (r : Run σ) : Prop :=
  ∃ before step after, steps = before ++ step :: after ∧ step.optional = true ∧
    ∃ g r₁, (follow s depth found before).runFrom r = (.ok g, r₁) ∧ g.value.isNullish = true

theorem follow_of_stop {step : Step Node} (hstep : step.optional = true)
    (hfound : found.value.isNullish = true) (steps : List (Step Node)) :
    follow s depth found (step :: steps) = pure (.plain .undefined) := by
  rw [follow, if_pos]
  rw [hstep, hfound]
  rfl

/-- A step that is taken. -/
theorem follow_of_isContainer {step : Step Node} (hfound : found.value.isContainer = true)
    (steps : List (Step Node)) : follow s depth found (step :: steps) =
      findKey s depth step >>= fun key => follow s depth (.ofKey found.value key) steps := by
  have hnullish : (step.optional && found.value.isNullish) = false := by
    rw [Value.isNullish_of_isContainer hfound, Bool.and_false]
  rw [follow, hnullish, if_neg Bool.false_ne_true, if_pos hfound]
  rfl

/-- Where some steps come to something, the first of them stops the chain or is taken. -/
theorem follow_cons_cases {step : Step Node}
    (h : (follow s depth found (step :: xs)).runFrom r = (.ok f, r')) :
    (step.optional = true ∧ found.value.isNullish = true ∧ f = .plain .undefined ∧ r' = r) ∨
      found.value.isContainer = true ∧ ∃ key r₁, (findKey s depth step).runFrom r = (.ok key, r₁) ∧
        (follow s depth (.ofKey found.value key) xs).runFrom r₁ = (.ok f, r') := by
  by_cases hstop : step.optional = true ∧ found.value.isNullish = true
  · rw [follow_of_stop hstop.1 hstop.2, runFrom_pure] at h
    cases h
    exact .inl ⟨hstop.1, hstop.2, rfl, rfl⟩
  · by_cases hfound : found.value.isContainer = true
    · rw [follow_of_isContainer hfound] at h
      exact .inr ⟨hfound, exists_of_runFrom_bind h⟩
    · rw [follow, if_neg (by simpa using hstop), if_neg hfound] at h
      cases h

/-- Where a chain comes to something, so do its first steps. -/
theorem exists_follow_of_append {ys : List (Step Node)}
    (h : (follow s depth found (xs ++ ys)).runFrom r = (.ok f, r')) :
    ∃ g r₁, (follow s depth found xs).runFrom r = (.ok g, r₁) := by
  induction xs generalizing found r with
  | nil => exact ⟨found, r, rfl⟩
  | cons step xs ih =>
    rcases follow_cons_cases h with ⟨hstep, hfound, -, -⟩ | ⟨hfound, key, r₁, hkey, hrest⟩
    · rw [follow_of_stop hstep hfound]
      exact ⟨_, r, rfl⟩
    · rw [follow_of_isContainer hfound, runFrom_bind_of_ok hkey]
      exact ih hrest

/-- The last steps of a chain go on from what the first ones come to, unless one of these stops the
chain. -/
theorem follow_append (h : (follow s depth found xs).runFrom r = (.ok f, r')) :
    (∀ ys, (follow s depth found (xs ++ ys)).runFrom r = (follow s depth f ys).runFrom r') ∨
      Stops s depth found xs r ∧ f = .plain .undefined ∧
        ∀ ys, (follow s depth found (xs ++ ys)).runFrom r = (.ok f, r') := by
  -- By the first step: it stops the chain at once, or it is taken and the rest goes on from there.
  induction xs generalizing found r with
  | nil =>
    cases h
    exact .inl fun _ => rfl
  | cons step xs ih =>
    rcases follow_cons_cases h with ⟨hstep, hfound, rfl, rfl⟩ | ⟨hfound, key, r₁, hkey, hrest⟩
    · refine .inr ⟨⟨[], step, xs, rfl, hstep, found, r', rfl, hfound⟩, rfl, fun ys => ?_⟩
      rw [List.cons_append, follow_of_stop hstep hfound, runFrom_pure]
    · have htake : ∀ steps, (follow s depth found (step :: steps)).runFrom r =
          (follow s depth (.ofKey found.value key) steps).runFrom r₁ := fun steps => by
        rw [follow_of_isContainer hfound, runFrom_bind_of_ok hkey]
      rcases ih hrest with hgo | ⟨⟨before, t, after, hxs, ht, g, r₂, hbefore, hg⟩, hf, hstop⟩
      · exact .inl fun ys => (htake _).trans (hgo ys)
      · exact .inr ⟨⟨step :: before, t, after, by rw [hxs, List.cons_append], ht, g, r₂,
          (htake before).trans hbefore, hg⟩, hf, fun ys => (htake _).trans (hstop ys)⟩

/-- Once an optional step is met with null or undefined, what follows it does not matter. -/
theorem follow_stopped (h : (follow s depth found xs).runFrom r = (.ok f, r'))
    (hf : f.value.isNullish = true) {step : Step Node} (hstep : step.optional = true)
    (after : List (Step Node)) :
    (follow s depth found (xs ++ step :: after)).runFrom r = (.ok (.plain .undefined), r') := by
  rcases follow_append h with hgo | ⟨-, rfl, hstop⟩
  · rw [hgo, follow_of_stop hstep hf, runFrom_pure]
  · exact hstop _

/-- The last step of a chain that no step stops reads a property of what the steps before it come
to. -/
theorem follow_concat {init : List (Step Node)} {last : Step Node}
    (h : (follow s depth found (init ++ [last])).runFrom r = (.ok f, r'))
    (hgo : ¬ Stops s depth found (init ++ [last]) r) :
    ∃ g r₁ key, (follow s depth found init).runFrom r = (.ok g, r₁) ∧
      (findKey s depth last).runFrom r₁ = (.ok key, r') ∧ f = .ofKey g.value key := by
  obtain ⟨g, r₁, hinit⟩ := exists_follow_of_append h
  rcases follow_append hinit with hlast | ⟨⟨before, t, after, hxs, hstops⟩, -, -⟩
  · rw [hlast] at h
    rcases follow_cons_cases h with ⟨hstep, hg, -, -⟩ | ⟨-, key, r₂, hkey, hend⟩
    · exact absurd ⟨init, last, [], rfl, hstep, g, r₁, hinit, hg⟩ hgo
    · cases hend
      exact ⟨g, r₁, key, hinit, hkey, rfl⟩
  · exact absurd ⟨before, t, after ++ [last], by rw [hxs, List.append_assoc, List.cons_append],
      hstops⟩ hgo

/-! ## Chains -/

/-- A chain is its base, and then its steps. -/
theorem agrees_select (pos : Position) (base : Node) (steps : List (Step Node))
    (depth depth' : Nat) : (find s depth (.select pos base steps)).Agrees
      (find s depth' base >>= fun found => follow s depth' (.plain found.value) steps) :=
  .visit_left ((agrees_find s _ _ base).bind fun _ =>
    agrees_follow_forall₂ (forall₂_refl Step.Interchangeable.refl steps) _ _ _) _ _ _

/-- A base and the steps from it, which may be none. -/
theorem agrees_value_chain (pos : Position) (base : Node) (steps : List (Step Node))
    (depth : Nat) :
    (find s 0 (base.chain pos steps) >>= fun found => pure found.value).Agrees
      (find s depth base >>= fun found =>
        follow s depth (.plain found.value) steps >>= fun found => pure found.value) := by
  cases steps with
  | nil => exact (agrees_find s 0 depth base).map _
  | cons step steps =>
    have h := (agrees_select (s := s) pos base (step :: steps) 0 depth).map Found.value
    rwa [bind_assoc] at h

/-! ## Receivers -/

/-- What is found was not read from a container. -/
def FindsPlain (c : Eval σ Found) : Prop :=
  ∀ r found r', c.runFrom r = (.ok found, r') → found.receiver = .undefined

namespace FindsPlain

variable {α : Type} {c d : Eval σ Found}

theorem plain (v : Value) : FindsPlain (pure (.plain v) : Eval σ Found) := by
  intro r found r' h
  cases h
  rfl

theorem fail (cause : FailureCause) (pos : Position) :
    FindsPlain (Eval.fail cause pos : Eval σ Found) := by
  intro r found r' h
  cases h

theorem bind (a : Eval σ α) {f : α → Eval σ Found} (h : ∀ x, FindsPlain (f x)) :
    FindsPlain (a >>= f) := by
  intro r found r' hr
  obtain ⟨x, r₁, -, hx⟩ := exists_of_runFrom_bind hr
  exact h x _ _ _ hx

theorem map (a : Eval σ α) (v : α → Value) :
    FindsPlain (a >>= fun x => pure (.plain (v x))) :=
  bind a fun x => plain (v x)

theorem ite {p : Prop} [Decidable p] (hc : FindsPlain c) (hd : FindsPlain d) :
    FindsPlain (if p then c else d) := by
  split
  · exact hc
  · exact hd

theorem visit (h : FindsPlain c) (kind : NodeKind) (depth : Nat) (pos : Position) :
    FindsPlain (Eval.visit kind depth pos c) := by
  intro r found r' hr
  rw [runFrom_visit] at hr
  split at hr
  · next hc =>
    cases hr
    exact h _ _ _ hc
  · cases hr

end FindsPlain

theorem findsPlain_applyFound (pos : Position) (args : List Node) (optional : Bool)
    (found : Found) : FindsPlain (applyFound s depth pos args optional found) := by
  rw [applyFound]
  split
  · exact .bind _ fun _ => .map _ _
  · exact .ite (.plain _) (.fail _ _)

/-- Only a chain finds a receiver. -/
theorem findsPlain_find {n : Node} (h : n.isChain = false) : FindsPlain (find s depth n) := by
  by_cases hcall : n.kind = .call
  · cases n with
    | call p callee args optional =>
      rw [find_call]
      exact .visit (.bind _ fun found => findsPlain_applyFound p args optional found) _ _ _
    | _ => cases hcall
  rw [find.eq_def]
  refine .visit ?_ _ _ _
  cases n with
  | select p base steps =>
    cases steps with
    | nil => exact .map _ _
    | cons => cases h
  | call => exact absurd rfl hcall
  | sequence | array | object | template | unary => exact .map _ _
  | bitwise | arithmetic | item => exact .bind _ fun _ => .map _ _
  | relational => exact .bind _ fun _ => .bind _ fun _ => .map _ _
  | assignment p target value =>
    refine .bind _ fun found => ?_
    split
    · exact .bind _ fun _ => .map _ _
    · exact .fail _ _
  | fallback => exact .bind _ fun _ => .ite (.plain _) (.map _ _)
  | choice => exact .bind _ fun _ => .ite (.map _ _) (.map _ _)
  | logical p op a b =>
    cases op with
    | and => exact .bind _ fun _ => .ite (.map _ _) (.plain _)
    | or => exact .bind _ fun _ => .ite (.plain _) (.map _ _)
  | var p name =>
    refine .bind _ fun v => ?_
    split
    · exact .plain _
    · exact .fail _ _
  | identifier | string | regexp | number | literal => exact .plain _

/-- The same result, and runs that are alike. -/
def EndsAlike {α : Type} (q q' : Except Failure α × Run σ) : Prop := q'.1 = q.1 ∧ q.2.Alike q'.2

theorem Agrees.endsAlike {α : Type} {c c' : Eval σ α} (h : c.Agrees c') (hr : r.Alike r') :
    EndsAlike (c.runFrom r) (c'.runFrom r') :=
  ⟨h.result_eq hr, h.run hr⟩

theorem EndsAlike.trans {α : Type} {q q' q'' : Except Failure α × Run σ} (h : EndsAlike q q')
    (h' : EndsAlike q' q'') : EndsAlike q q'' :=
  ⟨h'.1.trans h.1, h.2.trans h'.2⟩

/-- Evaluates arguments and calls a function with them on behalf of the node at a place. -/
def invoke (s : Surroundings σ) (pos : Position) (f : Function) (receiver : Value)
    (args : List Node) : Eval σ Value := do
  call s pos f receiver (← findAll s 0 args)

theorem agrees_invoke (pos : Position) (f : Function) (receiver : Value) (args : List Node) :
    (invoke s pos f receiver args).Agrees (invoke s pos f receiver args) :=
  (agrees_findAll s 0 0 args).bind fun vs =>
    (Couples.call (s.coupled_alike fun _ => True) pos f receiver vs).agrees

theorem agrees_value_call (pos : Position) (callee : Node) (args : List Node) (optional : Bool) :
    (find s 0 (.call pos callee args optional) >>= fun found => pure found.value).Agrees
      (findCalled s 0 optional callee >>= fun found =>
        applyFound s 0 pos args optional found >>= fun found => pure found.value) := by
  rw [find_call]
  have h := ((agrees_findCalled (s := s) (.refl callee) 1 0 optional).bind
    (agrees_applyFound (s := s) (forall₂_refl .refl args) 1 0 pos optional)).visit_left .call 0 pos
  have hvalue := h.map Found.value
  rwa [bind_assoc] at hvalue

/-- A call of what is a function invokes it with the receiver that was found with it. -/
theorem endsAlike_call {callee : Node} {optional : Bool} {f : Function} {receiver : Value}
    (h : (findCalled s 0 optional callee).runFrom r = (.ok ⟨.function f, receiver⟩, r'))
    (pos : Position) (args : List Node) :
    EndsAlike ((invoke s pos f receiver args).runFrom r')
      ((Node.call pos callee args optional).evaluate s r) := by
  have happly : (applyFound s 0 pos args optional ⟨.function f, receiver⟩ >>= fun found =>
      pure found.value) = invoke s pos f receiver args := by
    simp [applyFound, invoke, Found.plain]
  have hcall := (agrees_value_call (s := s) pos callee args optional).symm.endsAlike (.refl r)
  rw [runFrom_bind_of_ok h, happly] at hcall
  rwa [Node.evaluate_eq]

end Eval

/-- An optional step of a chain meets null or undefined: the chain before it comes to that. -/
def Node.Short (s : Surroundings σ) (r : Run σ) (base : Node) (pos : Position)
    (steps : List (Step Node)) : Prop :=
  ∃ before step after, steps = before ++ step :: after ∧ step.optional = true ∧
    ∃ v r₁, (base.chain pos before).evaluate s r = (.ok v, r₁) ∧ v.isNullish = true

section Evaluate

variable {s : Surroundings σ} {r r' : Run σ} {base : Node} {pos : Position}

/-- A chain with an optional step that meets null or undefined comes to undefined without a receiver,
whatever the keys of this step and of those after it. -/
theorem find_stopped {before : List (Step Node)} {v : Value} {r₁ : Run σ}
    (h : (base.chain pos before).evaluate s r = (.ok v, r₁)) (hv : v.isNullish = true)
    (depth : Nat) : ∃ r₂, r₁.Alike r₂ ∧ ∀ (key : Node) (place : Position) (after : List (Step Node)),
      (find s depth (.select pos base (before ++ ⟨key, true, place⟩ :: after))).runFrom r =
        (.ok ⟨.undefined, .undefined⟩, r₂) := by
  rw [Node.evaluate_eq] at h
  obtain ⟨r₁', h', hr₁⟩ := (agrees_value_chain pos base before (depth + 1)).ok
    (.record r (.enter .select depth pos)) h
  obtain ⟨b, rb, hbase, hsteps⟩ := exists_of_runFrom_bind h'
  obtain ⟨f, _, hbefore, hf⟩ := exists_of_runFrom_bind hsteps
  cases hf
  refine ⟨_, hr₁.trans (.record r₁' (.exit .select depth Value.undefined.summary)),
    fun key place after => ?_⟩
  rw [find, runFrom_visit, Node.kind, Node.position, runFrom_bind_of_ok hbase,
    follow_stopped hbefore hv rfl after]
  rfl

/-- The last step of a chain that goes well and is not stopped reads a property of the value of the
chain without it, and this value is found with the property. -/
theorem find_concat {init : List (Step Node)} {last : Step Node} {w : Value}
    (h : (Node.select pos base (init ++ [last])).evaluate s r = (.ok w, r'))
    (hshort : ¬ base.Short s r pos (init ++ [last])) :
    ∃ v r₁ k r₂, (base.chain pos init).evaluate s r = (.ok v, r₁) ∧
      last.key.evaluate s r₁ = (.ok k, r₂) ∧ r₂.Alike r' ∧
      w = (v.property? k.stringify).getD .undefined ∧
      (find s 0 (.select pos base (init ++ [last]))).runFrom r = (.ok ⟨w, v⟩, r') := by
  rw [Node.evaluate_eq] at h
  obtain ⟨found, r'', hfind, hw⟩ := exists_of_runFrom_bind h
  cases hw
  obtain ⟨q, hq, hr'⟩ := (agrees_select pos base (init ++ [last]) 0 0).ok (.refl r) hfind
  obtain ⟨b, rb, hbase, hsteps⟩ := exists_of_runFrom_bind hq
  -- The chain of some first steps, evaluated on its own.
  have hchain : ∀ {steps g r₁}, (follow s 0 (.plain b.value) steps).runFrom rb = (.ok g, r₁) →
      ∃ r₂, (base.chain pos steps).evaluate s r = (.ok g.value, r₂) ∧ r₁.Alike r₂ := by
    intro steps g r₁ hfollow
    have hvalue := (runFrom_bind_of_ok hbase fun found =>
      follow s 0 (.plain found.value) steps >>= fun found => pure found.value).trans
        (runFrom_bind_of_ok hfollow fun found => pure found.value)
    rw [Node.evaluate_eq]
    exact (agrees_value_chain pos base steps 0).symm.ok (.refl r) hvalue
  have hgo : ¬ Stops s 0 (.plain b.value) (init ++ [last]) rb := by
    rintro ⟨before, step, after, heq, hstep, g, r₁, hbefore, hg⟩
    obtain ⟨r₂, hvalue, -⟩ := hchain hbefore
    exact hshort ⟨before, step, after, heq, hstep, g.value, r₂, hvalue, hg⟩
  obtain ⟨g, r₁, key, hinit, hkey, rfl⟩ := follow_concat hsteps hgo
  obtain ⟨r₂, hvalue, hr₂⟩ := hchain hinit
  rw [findKey_eq] at hkey
  obtain ⟨k, rk, hk, hstring⟩ := exists_of_runFrom_bind hkey
  cases hstring
  obtain ⟨r₃, hk', hr₃⟩ := (agrees_find s 0 0 last.key).ok hr₂ hk
  exact ⟨g.value, r₂, k.value, r₃, hvalue, (Node.evaluate_eq _ _ _).trans (runFrom_bind_of_ok hk' _),
    hr₃.symm.trans hr'.symm, rfl, hfind⟩

/-- What is called and is no chain and no name is evaluated, and found without a receiver. -/
theorem findCalled_plain {callee : Node} {v : Value} (h : callee.evaluate s r = (.ok v, r'))
    (hchain : callee.isChain = false) (hvar : callee.kind ≠ .var) (optional : Bool) :
    (findCalled s 0 optional callee).runFrom r = (.ok (.plain v), r') := by
  have hname : callee.varName? = none := by
    cases callee with
    | var => exact absurd rfl hvar
    | _ => rfl
  rw [Node.evaluate_eq] at h
  obtain ⟨⟨u, receiver⟩, r₁, hfind, hv⟩ := exists_of_runFrom_bind h
  cases hv
  have hreceiver : receiver = .undefined := findsPlain_find hchain _ _ _ hfind
  rw [findCalled_eq_find hname, hfind, hreceiver]
  rfl

/-- A name that is called is looked up, and found without a receiver. -/
theorem exists_findCalled_var {name : String} {v : Value}
    (h : (Scope.lookup ⟨s.vars, r.state⟩ name).or ((s.functions.resolve name).map .function) =
      some v) (place : Position) (optional : Bool) :
    ∃ r', (findCalled s 0 optional (.var place name)).runFrom r = (.ok (.plain v), r') ∧
      r.Alike r' := by
  have hfind : (findCallee s place name optional).runFrom r = (.ok (.plain v), r) := by
    have hlookup : (lookup s name).runFrom r = (.ok (Scope.lookup ⟨s.vars, r.state⟩ name), r) := rfl
    rw [findCallee, runFrom_bind_of_ok hlookup, h]
    rfl
  have hagrees := ((Couples.findCallee (s.coupled_alike fun _ => True) place trivial
    optional).agrees (c := findCallee s place name optional)).visit_right .var 0 place
  exact hagrees.ok (.refl r) hfind

end Evaluate

/-- A chain that goes well and is not stopped by an optional step: its value is the property, under
the text of the last key, of the value of the chain without its last step, after that chain and that
key were evaluated; and a function called through the chain is invoked with that value as receiver.
A function called by its name, or found by anything that is no chain, is invoked without a receiver.
Once an optional step meets null or undefined, the chain comes to undefined without a receiver, in
one and the same way whatever the key of the step and the steps after it are. -/
theorem evaluate_chain (s : Surroundings σ) (r : Run σ) :
    (∀ (base : Node) (pos : Position) (init : List (Step Node)) (last : Step Node) (w : Value)
      (r' : Run σ), (Node.select pos base (init ++ [last])).evaluate s r = (.ok w, r') →
      ¬ base.Short s r pos (init ++ [last]) →
      ∃ v r₁ k r₂, (base.chain pos init).evaluate s r = (.ok v, r₁) ∧
        last.key.evaluate s r₁ = (.ok k, r₂) ∧ r₂.Alike r' ∧
        w = (v.property? k.stringify).getD .undefined ∧
        ∀ f, w = .function f → ∀ place args optional,
          EndsAlike ((invoke s place f v args).runFrom r')
            ((Node.call place (.select pos base (init ++ [last])) args optional).evaluate s r)) ∧
    (∀ (name : String) (f : Function), (Scope.lookup ⟨s.vars, r.state⟩ name).or
        ((s.functions.resolve name).map .function) = some (.function f) →
      ∀ p place args optional, EndsAlike ((invoke s place f .undefined args).runFrom r)
        ((Node.call place (.var p name) args optional).evaluate s r)) ∧
    (∀ (callee : Node) (f : Function) (r' : Run σ), callee.isChain = false → callee.kind ≠ .var →
      callee.evaluate s r = (.ok (.function f), r') →
      ∀ place args optional, EndsAlike ((invoke s place f .undefined args).runFrom r')
        ((Node.call place callee args optional).evaluate s r)) ∧
    ∀ (base : Node) (pos : Position) (before : List (Step Node)) (v : Value) (r₁ : Run σ),
      (base.chain pos before).evaluate s r = (.ok v, r₁) → v.isNullish = true →
      ∀ depth, ∃ r₂, r₁.Alike r₂ ∧ ∀ key place after,
        (find s depth (.select pos base (before ++ ⟨key, true, place⟩ :: after))).runFrom r =
          (.ok ⟨.undefined, .undefined⟩, r₂) := by
  refine ⟨?chain, ?name, ?other, ?short⟩
  case chain =>
    intro base pos init last w r' h hshort
    obtain ⟨v, r₁, k, r₂, hv, hk, hr₂, hw, hfind⟩ := find_concat h hshort
    refine ⟨v, r₁, k, r₂, hv, hk, hr₂, hw, fun f hf place args optional => ?_⟩
    rw [hf, ← findCalled_eq_find rfl 0 optional] at hfind
    exact endsAlike_call hfind place args
  case name =>
    intro name f h p place args optional
    obtain ⟨r', hfind, hr'⟩ := exists_findCalled_var h p optional
    exact ((agrees_invoke place f .undefined args).endsAlike hr').trans
      (endsAlike_call hfind place args)
  case other =>
    intro callee f r' hchain hvar h place args optional
    exact endsAlike_call (findCalled_plain h hchain hvar optional) place args
  case short =>
    intro base pos before v r₁ h hv
    exact find_stopped h hv

/-- A call through `a?.m[k = 'f']`, whose last key assigns a variable; calls of the same function by a
name and as a literal; and a chain from null. -/
theorem evaluate_chain_assigned :
    let f : Function := ⟨"f", .host 0, 0⟩
    let m : Value := .map [("f", .function f)]
    let a : Node := .var .first "a"
    let steps : List (Step Node) := [⟨.identifier .first "m", true, .first⟩,
      ⟨.assignment .first (.identifier .first "k") (.string .first "f"), false, .first⟩]
    let chain : Node := .select .first a steps
    let call (callee : Node) : Node := .call .first callee [.literal .first .null] false
    let s : Surroundings (Unit × List HostCall) :=
      ⟨[("a", .map [("m", m)]), ("f", .function f)], .empty, Host.none.recorded⟩
    let r : Run (Unit × List HostCall) := ⟨[], ((), []), none⟩
    chain.evaluate s r = (.ok (.function f), ⟨[("k", .string "f")], ((), []), none⟩) ∧
      ¬ a.Short s r .first steps ∧
      ((call chain).evaluate s r).2.host.2 = [⟨0, m, [.null]⟩] ∧
      ((call (.var .first "f")).evaluate s r).2.host.2 = [⟨0, .undefined, [.null]⟩] ∧
      ((call (.literal .first (.function f))).evaluate s r).2.host.2 =
        [⟨0, .undefined, [.null]⟩] ∧
      ∃ r₂, r.Alike r₂ ∧ ∀ key place after,
        (find s 0 (.select .first (.literal .first .null) (⟨key, true, place⟩ :: after))).runFrom r =
          (.ok ⟨.undefined, .undefined⟩, r₂) := by
  intro f m a steps chain call s r
  have hchain : chain.evaluate s r = (.ok (.function f), ⟨[("k", .string "f")], ((), []), none⟩) := rfl
  have hshort : ¬ a.Short s r .first steps := by
    have ha : a.evaluate s r = (.ok (.map [("m", m)]), r) := rfl
    rintro ⟨_ | ⟨t, _ | ⟨u, before⟩⟩, step, after, heq, hstep, v, r₁, hv, hnull⟩
    · cases ha.symm.trans hv
      cases hnull
    · cases (show [_, _] = [t] ++ step :: after from heq)
      cases hstep
    · have hlength := congrArg List.length heq
      simp [steps] at hlength
  obtain ⟨hsteps, hname, hother, hstop⟩ := evaluate_chain s r
  obtain ⟨v, r₁, k, r₂, hv, -, -, -, hcall⟩ := hsteps a .first [⟨.identifier .first "m", true, .first⟩]
    _ _ _ hchain hshort
  have hm : (a.chain .first [⟨.identifier .first "m", true, .first⟩]).evaluate s r = (.ok m, r) := rfl
  cases hm.symm.trans hv
  exact ⟨hchain, hshort, congrArg Prod.snd (hcall f rfl .first _ false).2.host,
    congrArg Prod.snd (hname "f" f rfl .first .first _ false).2.host,
    congrArg Prod.snd (hother (.literal .first (.function f)) f r rfl (by decide) rfl .first _
      false).2.host,
    hstop (.literal .first .null) .first [] .null r rfl rfl 0⟩

end ExprLang
