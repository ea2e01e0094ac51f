import ExprLang.Proofs.Engine.Outcomes
import ExprLang.Proofs.Eval.Reads
import ExprLang.Proofs.Tree.Joined

/-!
# ExprLang.Proofs.Engine.Sequencing

One evaluation after the other.

Two texts that are evaluated one after the other, the second over the state that the first one leaves,
come to what the two texts come to with a semicolon between them (`evaluate_joined`).  The tree of the
joined text has the statements of both; those of the second text stand at other places, and one level
deeper, neither of which an evaluation that is not traced can tell (`Eval.runFrom_eq_of_couples`).
-/

namespace ExprLang

open Eval

variable {σ : Type}

/-! ## Evaluations that are not traced -/

/-- The same run, of which no events are kept. -/
def Run.Untraced (r r' : Run σ) : Prop := r' = r ∧ r.events = none

theorem Run.Untraced.record {r r' : Run σ} (h : r.Untraced r') (e e' : Event) :
    (r.record e).Untraced (r'.record e') := by
  obtain ⟨rfl, hevents⟩ := h
  have hrecord : ∀ e, r'.record e = r' := by
    intro e
    rw [Run.record, hevents, Option.map_none, ← hevents]
  rw [hrecord, hrecord]
  exact ⟨rfl, hevents⟩

/-- A run that is not traced looks the same from every place and every level. -/
theorem Surroundings.coupled_untraced (s : Surroundings σ) (names : String → Prop) :
    s.Coupled names s Run.Untraced where
  functions := rfl
  record e e' h := h.record e e'
  lookup h _ := by rw [h.1]
  write w h := ⟨congrArg (Run.write · w) h.1, h.2⟩
  call f receiver args h := by
    obtain ⟨rfl, hevents⟩ := h
    exact ⟨rfl, rfl, hevents⟩

namespace Eval

variable {s : Surroundings σ} {g : Position → Position} {r : Run σ}

theorem findLast_append (depth : Nat) (last : Value) (ns ms : List Node) :
    findLast s depth last (ns ++ ms) =
      findLast s depth last ns >>= fun v => findLast s depth v ms := by
  induction ns generalizing last with
  | nil => rw [List.nil_append, findLast, pure_bind]
  | cons n ns ih =>
    rw [List.cons_append, findLast, findLast, bind_assoc]
    simp only [ih]

/-- Statements that differ in their places at most come to the same at every level, but for the place
of a failure. -/
theorem runFrom_findLast_eq {ms ms' : List Node} (h : Node.movedAll g ms' = Node.movedAll g ms)
    (hr : r.events = none) (depth depth' : Nat) (last : Value) :
    ((findLast s depth' last ms').runFrom r).2 = ((findLast s depth last ms).runFrom r).2 ∧
      ((findLast s depth' last ms').runFrom r).1.mapError (Failure.moved g) =
        ((findLast s depth last ms).runFrom r).1.mapError (Failure.moved g) ∧
      ((findLast s depth last ms).runFrom r).2.events = none := by
  have hmoved : ∀ depth (ns : List Node),
      ((findLast s depth' last (Node.movedAll g ns)).runFrom r).1 =
          ((findLast s depth last ns).runFrom r).1.mapError (Failure.moved g) ∧
        ((findLast s depth last ns).runFrom r).2.Untraced
          ((findLast s depth' last (Node.movedAll g ns)).runFrom r).2 := by
    intro depth ns
    have hcouples := couples_findLast (g := g)
      (s.coupled_untraced (Node.Names (.sequence .first ns))) depth depth' last ns
      fun n hn => .of_mem hn
    exact ⟨hcouples.result ⟨rfl, hr⟩, hcouples.run ⟨rfl, hr⟩⟩
  obtain ⟨hresult, hrun, hevents⟩ := hmoved depth ms
  obtain ⟨hresult', hrun', -⟩ := hmoved depth' ms'
  rw [h] at hresult' hrun'
  exact ⟨hrun'.symm.trans hrun, hresult'.symm.trans hresult, hevents⟩

theorem runFrom_findLast_level (hr : r.events = none) (depth depth' : Nat) (last : Value)
    (ns : List Node) :
    (findLast s depth' last ns).runFrom r = (findLast s depth last ns).runFrom r := by
  have hmoved : Node.movedAll id ns = Node.movedAll id ns := rfl
  obtain ⟨hrun, hresult, -⟩ := runFrom_findLast_eq (s := s) hmoved hr depth depth' last
  refine Prod.ext ?_ hrun
  have hid : ∀ x : Except Failure Value, x.mapError (Failure.moved id) = x := by
    intro x
    cases x <;> rfl
  rwa [hid, hid] at hresult

/-- The value before the first statement is of no account. -/
theorem findLast_of_ne_nil {ns : List Node} (h : ns ≠ []) (depth : Nat) (v w : Value) :
    findLast s depth v ns = findLast s depth w ns := by
  cases ns with
  | nil => exact absurd rfl h
  | cons n ns => rw [findLast, findLast]

end Eval

/-- Without a trace it makes no difference whether a single statement stands for itself. -/
theorem Node.evaluate_ofStatements {s : Surroundings σ} {r : Run σ} (hr : r.events = none)
    (pos : Position) (ns : List Node) :
    (Node.ofStatements pos ns).evaluate s r = (Eval.findLast s 0 .undefined ns).runFrom r := by
  have hsequence : (Node.sequence pos ns).evaluate s r =
      (Eval.findLast s 0 .undefined ns).runFrom r := by
    have hrecord : ∀ (r : Run σ) e, r.events = none → r.record e = r := by
      intro r e hr
      rw [Run.record, hr, Option.map_none, ← hr]
    have hmoved : movedAll id ns = movedAll id ns := rfl
    have hevents := (runFrom_findLast_eq (s := s) hmoved hr 0 0 .undefined).2.2
    rw [evaluate_eq, find, runFrom_bind, kind, position, runFrom_visit, hrecord _ _ hr,
      runFrom_bind, runFrom_findLast_level hr 0 (0 + 1)]
    generalize (findLast s 0 .undefined ns).runFrom r = q at *
    obtain ⟨x, r'⟩ := q
    cases x with
    | error f => rfl
    | ok v => exact congrArg (Prod.mk _) (hrecord r' _ hevents)
  cases ns with
  | nil => exact hsequence
  | cons n ns =>
    cases ns with
    | nil =>
      rw [evaluate_eq, findLast]
      rfl
    | cons m ns => exact hsequence

/-- The statements of two trees, one after the other: those of the second are evaluated on what the
first leave, if they go well. -/
theorem Node.evaluate_ofStatements_append {s : Surroundings σ} {r : Run σ} (hr : r.events = none)
    {ms ms' : List Node} (hms : ms ≠ []) (hsame : unplacedAll ms' = unplacedAll ms)
    (a b c : Position) (ns : List Node) :
    match (Node.ofStatements a ns).evaluate s r with
    | (.error f, r') => (Node.ofStatements c (ns ++ ms')).evaluate s r = (.error f, r')
    | (.ok _, r') => r'.events = none ∧
      ((Node.ofStatements c (ns ++ ms')).evaluate s r).2 =
        ((Node.ofStatements b ms).evaluate s r').2 ∧
      ((Node.ofStatements c (ns ++ ms')).evaluate s r).1.mapError (Failure.moved fun _ => .first) =
        ((Node.ofStatements b ms).evaluate s r').1.mapError (Failure.moved fun _ => .first) := by
  have hmoved : movedAll id ns = movedAll id ns := rfl
  have hevents := (runFrom_findLast_eq (s := s) hmoved hr 0 0 .undefined).2.2
  rw [evaluate_ofStatements hr, evaluate_ofStatements hr, findLast_append, runFrom_bind]
  generalize (findLast s 0 .undefined ns).runFrom r = q at *
  obtain ⟨x, r'⟩ := q
  cases x with
  | error f => rfl
  | ok v =>
    have hfirst : movedAll (fun _ => .first) ms' = movedAll (fun _ => .first) ms := by
      rw [movedAll_first, movedAll_first, hsame]
    obtain ⟨hrun, hresult, -⟩ := runFrom_findLast_eq (s := s) hfirst hevents 0 0 v
    rw [findLast_of_ne_nil hms 0 v .undefined] at hrun hresult
    refine ⟨hevents, ?_⟩
    rw [evaluate_ofStatements hevents]
    exact ⟨hrun, hresult⟩

/-! ## Texts -/

/-- What the whole comes to is what its two parts come to one after the other, if the second one is
left out when the first one fails.  An error of the second part stands at another place in the
whole. -/
structure Outcome.Joins (whole first second : Outcome σ) : Prop where
  of_error : ∀ e, first.result = .error e →
    (∃ e', whole.result = .error e' ∧ e'.kind = e.kind ∧ e'.message = e.message ∧
      e'.position = e.position) ∧ whole.state = first.state ∧ whole.host = first.host
  of_ok : ∀ v, first.result = .ok v →
    (∀ w, second.result = .ok w → whole.result = .ok w) ∧
      (∀ e, second.result = .error e →
        ∃ e', whole.result = .error e' ∧ e'.kind = e.kind ∧ e'.message = e.message) ∧
      whole.state = second.state ∧ whole.host = second.host

/-- Texts whose statements come one after the other in the whole have joining outcomes. -/
theorem Node.outcome_joins {ms ms' : List Node} (hms : ms ≠ [])
    (hsame : unplacedAll ms' = unplacedAll ms) (a b c : Position) (ns : List Node)
    (s : Surroundings σ) (state : Bag) (host : σ) (p q whole : String) :
    let first := (Node.ofStatements a ns).outcome p s state host false
    ((Node.ofStatements c (ns ++ ms')).outcome whole s state host false).Joins first
      ((Node.ofStatements b ms).outcome q s first.state first.host false) := by
  intro first
  have happend := evaluate_ofStatements_append (s := s) (r := ⟨state, host, none⟩) rfl hms hsame
    a b c ns
  dsimp only [outcome, first]
  simp only [Bool.false_eq_true, if_false]
  generalize (Node.ofStatements a ns).evaluate s ⟨state, host, none⟩ = x at *
  obtain ⟨x, r'⟩ := x
  cases x with
  | error f =>
    rw [happend]
    refine ⟨fun e he => ?_, fun v hv => by cases hv⟩
    cases he
    exact ⟨⟨_, rfl, rfl, rfl, rfl⟩, rfl, rfl⟩
  | ok v =>
    obtain ⟨state', host', events'⟩ := r'
    obtain ⟨rfl, hrun, hresult⟩ := happend
    generalize (Node.ofStatements b ms).evaluate s _ = y at *
    generalize (Node.ofStatements c (ns ++ ms')).evaluate s _ = z at *
    obtain ⟨y, r₁⟩ := y
    obtain ⟨z, r₂⟩ := z
    obtain rfl : r₂ = r₁ := hrun
    refine ⟨fun e he => (by cases he), fun v _ => ⟨fun w hw => ?_, fun e he => ?_, rfl, rfl⟩⟩
    · cases y with
      | error f => cases hw
      | ok v =>
        cases hw
        cases z with
        | error f => cases hresult
        | ok v =>
          cases hresult
          rfl
    · cases y with
      | ok v => cases he
      | error f =>
        cases he
        cases z with
        | ok v => cases hresult
        | error f' =>
          have hmoved : f'.moved (fun _ => .first) = f.moved fun _ => .first :=
            Except.error.inj hresult
          have hcause : f'.cause = f.cause := (congrArg Failure.cause hmoved :)
          exact ⟨_, rfl, congrArg FailureCause.kind hcause, congrArg FailureCause.message hcause⟩

namespace Engine

theorem Coherent.evaluate {e : Engine} (h : e.Coherent) (text : String) (calls : Host σ)
    (vars state : Bag) (host : σ) : (e.evaluate text calls vars state host).2.Coherent := by
  rw [evaluate_snd]
  exact h.compile text

end Engine

/-- Two texts evaluated one after the other, the second on the state that the first leaves, come to
what the two with a semicolon between them come to, whatever the engines were used for before.  The
first text must not end in a semicolon of its own, and the brackets of the whole not nest too deeply. -/
theorem evaluate_joined (o : Options) (calls : Host σ) (start start' : σ × List HostCall)
    (history history' : List Call) (functions : Registry) {p q : String} {tree tree' : Node}
    (hp : parseWithin o.maxDepth p = .ok tree) (hq : parseWithin o.maxDepth q = .ok tree')
    (hend : endsInSemicolon p.toList = false)
    (hdeep : ¬ (parseWithin o.maxDepth (joined p q)).TooDeep)
    (vars state : Bag) (host : σ × List HostCall) :
    let engine := Engine.afterCalls o calls.recorded start history functions
    let first := engine.evaluate p calls.recorded vars state host
    let second := first.2.evaluate q calls.recorded vars first.1.state first.1.host
    let whole := (Engine.afterCalls o calls.recorded start' history' functions).evaluate (joined p q)
      calls.recorded vars state host
    whole.1.Joins first.1 second.1 := by
  intro engine first second whole
  obtain ⟨a, b, c, ns, ms, ms', rfl, rfl, hms, hsame, hjoined⟩ :=
    parseWithin_joined hp hq hend hdeep
  have hcoherent : first.2.Coherent :=
    (Engine.coherent_afterCalls o calls.recorded start history functions).evaluate _ _ _ _ _
  have hkept : first.2.functions = functions ∧ first.2.options.maxDepth = o.maxDepth := by
    rw [Engine.evaluate_snd, Engine.functions_compile, Engine.options_compile]
    exact ⟨rfl, Engine.maxDepth_afterCalls o calls.recorded start history functions⟩
  have hfirst : first.1 = (Node.ofStatements a ns).outcome p ⟨vars, functions, calls.recorded⟩
      state host false := by
    rw [Engine.evaluate_afterCalls, Engine.outcomeOf, hp]
  have hsecond : second.1 = (Node.ofStatements b ms).outcome q ⟨vars, functions, calls.recorded⟩
      first.1.state first.1.host false := by
    rw [hcoherent.evaluate_eq, hkept.1, hkept.2, Engine.outcomeOf, hq]
  rw [hsecond, hfirst, Engine.evaluate_afterCalls, Engine.outcomeOf, hjoined]
  exact Node.outcome_joins hms hsame a b c ns _ state host p q (joined p q)

/-- A comment without an end, a call in either part, and a failure in the second one. -/
theorem evaluate_joined_comment :
    let functions := Registry.standard.define "note" (.host 0)
    let engine := Engine.afterCalls .standard Host.none.recorded ((), []) [] functions
    let p := "x = a; note?.(x) // ends here;"
    let q := "y = x;\nb"
    let first := engine.evaluate p Host.none.recorded [("a", .null)] [] ((), [])
    let second := first.2.evaluate q Host.none.recorded [("a", .null)] first.1.state first.1.host
    let whole := engine.evaluate (joined p q) Host.none.recorded [("a", .null)] [] ((), [])
    (parseWithin 64 p).isOk = true ∧ (parseWithin 64 q).isOk = true ∧
      endsInSemicolon p.toList = false ∧ ¬ (parseWithin 64 (joined p q)).TooDeep ∧
      whole.1.Joins first.1 second.1 := by
  intro functions engine p q first second whole
  have hp : (parseWithin 64 p).isOk = true := by decide +kernel
  have hq : (parseWithin 64 q).isOk = true := by decide +kernel
  have hend : endsInSemicolon p.toList = false := by decide +kernel
  have hdeep : ¬ (parseWithin 64 (joined p q)).TooDeep := by decide +kernel
  obtain ⟨tree, htree⟩ := exists_ok_of_isOk hp
  obtain ⟨tree', htree'⟩ := exists_ok_of_isOk hq
  exact ⟨hp, hq, hend, hdeep,
    evaluate_joined .standard .none ((), []) ((), []) [] [] functions htree htree' hend hdeep _ _ _⟩

/-- It is not enough that the first text has another last character than a semicolon: with a blank
behind the semicolon the whole is no expression. -/
theorem not_evaluate_joined_of_blank :
    ¬ ∀ (p q : String) (vars state : Bag), (parseWithin 64 p).isOk = true →
      (parseWithin 64 q).isOk = true → p.toList.getLast? ≠ some ';' →
      ¬ (parseWithin 64 (joined p q)).TooDeep →
      let engine := Engine.afterCalls .standard .none () [] .standard
      let first := engine.evaluate p .none vars state ()
      let second := first.2.evaluate q .none vars first.1.state first.1.host
      (engine.evaluate (joined p q) .none vars state ()).1.Joins first.1 second.1 := by
  intro h
  let engine := Engine.afterCalls .standard .none () [] .standard
  let first := engine.evaluate "1; " .none [] [] ()
  let second := first.2.evaluate "2" .none [] first.1.state first.1.host
  have hfirst : first.1.result.isOk = true := by decide +kernel
  have hsecond : second.1.result.isOk = true := by decide +kernel
  have hwhole : (engine.evaluate (joined "1; " "2") .none [] [] ()).1.result.isOk = false := by
    decide +kernel
  have hjoins : (engine.evaluate (joined "1; " "2") .none [] [] ()).1.Joins first.1 second.1 :=
    h "1; " "2" [] [] (by decide +kernel) (by decide +kernel) (by decide +kernel)
      (by decide +kernel)
  clear_value second first
  obtain ⟨v, hv⟩ := exists_ok_of_isOk hfirst
  obtain ⟨w, hw⟩ := exists_ok_of_isOk hsecond
  rw [(hjoins.of_ok v hv).1 w hw] at hwhole
  cases hwhole

end ExprLang
