import ExprLang.Proofs.Engine.Coherence
import ExprLang.Proofs.Eval.Captures
import ExprLang.Proofs.Eval.Origins
import ExprLang.Proofs.Tree.Built
import ExprLang.Proofs.Tree.Limits

/-!
# ExprLang.Proofs.Engine.Outcomes

What the evaluation of a text can come to.

An engine is taken as any calls have left it, and with any functions (`Engine.afterCalls`).  What it
makes of a text is known from the tree of the text alone, so that the three results of this module
join what is known of trees read from texts with what is known of evaluations: trees are well formed
and no failure is internal; errors lie in the text, at the token to blame; and only what the text
assigns or matches changes in the state.
-/

namespace ExprLang

variable {σ : Type}

/-! ## Outcomes -/

namespace Engine

/-- An engine that some calls have left, with these functions. -/
def afterCalls (o : Options) (calls : Host σ) (host : σ) (history : List Call)
    (functions : Registry) : Engine :=
  { ((Session.start o host).play calls history).engine with functions := functions }

theorem coherent_afterCalls (o : Options) (calls : Host σ) (host : σ) (history : List Call)
    (functions : Registry) : (afterCalls o calls host history functions).Coherent :=
  ((Session.sound_start o host).play calls history).coherent

theorem maxDepth_afterCalls (o : Options) (calls : Host σ) (host : σ) (history : List Call)
    (functions : Registry) :
    (afterCalls o calls host history functions).options.maxDepth = o.maxDepth :=
  ((Session.sound_start o host).play calls history).maxDepth_eq

/-- What it gives for a text does not depend on the calls before. -/
theorem evaluate_afterCalls (o : Options) (calls : Host σ) (host : σ) (history : List Call)
    (functions : Registry) (text : String) (vars state : Bag) (host' : σ) :
    ((afterCalls o calls host history functions).evaluate text calls vars state host').1 =
      outcomeOf functions o.maxDepth text calls vars state host' := by
  rw [(coherent_afterCalls o calls host history functions).evaluate_eq, maxDepth_afterCalls]
  rfl

variable {functions : Registry} {maxDepth : Nat} {text : String} {calls : Host σ}
  {vars state : Bag} {host : σ}

/-- An error is that of the text, or that of an evaluation that some node of its tree makes fail. -/
theorem error_of_outcomeOf {err : Error}
    (h : (outcomeOf functions maxDepth text calls vars state host).result = .error err) :
    (∃ e, parseWithin maxDepth text = .error e ∧ err = .ofParse text e) ∨
      ∃ tree f, parseWithin maxDepth text = .ok tree ∧ tree.CanFail f ∧
        err = .ofFailure text f := by
  rw [outcomeOf] at h
  cases ht : parseWithin maxDepth text with
  | error e =>
    rw [ht] at h
    cases h
    exact .inl ⟨e, rfl, rfl⟩
  | ok tree =>
    rw [ht] at h
    dsimp only [Node.outcome] at h
    cases hf : (tree.evaluate ⟨vars, functions, calls⟩ ⟨state, host, none⟩).1 with
    | ok v =>
      rw [if_neg Bool.false_ne_true, hf] at h
      cases h
    | error f =>
      rw [if_neg Bool.false_ne_true, hf] at h
      cases h
      exact .inr ⟨tree, f, rfl, Node.canFail_of_evaluate hf, rfl⟩

/-- A text without a tree leaves the state as it is. -/
theorem state_outcomeOf_of_error {e : ParseError} (ht : parseWithin maxDepth text = .error e) :
    (outcomeOf functions maxDepth text calls vars state host).state = state := by
  rw [outcomeOf, ht]

/-- A text with a tree leaves the state that the writes of its evaluation make. -/
theorem state_outcomeOf_of_ok {tree : Node} (ht : parseWithin maxDepth text = .ok tree) :
    (outcomeOf functions maxDepth text calls vars state host).state =
      Bag.replay state (tree.writes ⟨vars, functions, calls⟩ ⟨state, host, none⟩) := by
  rw [outcomeOf, ht]
  exact Node.state_evaluate tree _ _

end Engine

/-! ## Failures -/

/-- A failure that a token is to blame for is not internal. -/
theorem Failure.Blames.kind_ne {f : Failure} {text : List Char} (h : f.Blames text) :
    f.cause.kind ≠ .internal := by
  obtain ⟨cause, pos⟩ := f
  cases cause with
  | target | misplaced => exact h.elim
  | _ =>
    intro hkind
    cases hkind

/-- A tree read from a text is well formed, and its bare keys of steps are fields in the text: the
sign and the name stand at the step.  So whatever the variables, the state and the functions are, no
evaluation of a text fails with an internal error. -/
theorem wellFormed_and_evaluate_ne_internal :
    (∀ limit text tree, parseWithin limit text = .ok tree → tree.WellFormed ∧
      ∀ pos base steps, (Node.select pos base steps).Within tree →
        ∀ s ∈ steps, ∀ p name, s.key = .identifier p name → s.position.In text.toList ∧
          BeginsField (if s.optional then ['?', '.'] else ['.']) name.toList
            (textAt text.toList s.position)) ∧
    ∀ (o : Options) (calls : Host σ) (host : σ) (history : List Call) (functions : Registry)
      (text : String) (vars state : Bag) (host' : σ) (err : Error),
      ((Engine.afterCalls o calls host history functions).evaluate text calls vars state
        host').1.result = .error err → err.kind ≠ .internal := by
  constructor
  · intro limit text tree ht
    have hsound := each_sound_of_parse ht
    refine ⟨hsound.wellFormed, fun pos base steps hwithin s hs p name hkey => ?_⟩
    obtain ⟨role, hselect⟩ := hsound.of_within hwithin
    obtain ⟨hstands, hfield⟩ := hselect.here.placed.2 s hs
    have hsign : s.sign = if s.optional then ['?', '.'] else ['.'] := by
      rw [Step.sign, hkey]
      rfl
    exact ⟨hstands.1, hsign ▸ hfield p name hkey⟩
  · intro o calls host history functions text vars state host' err herr
    rw [Engine.evaluate_afterCalls] at herr
    rcases Engine.error_of_outcomeOf herr with ⟨e, -, rfl⟩ | ⟨tree, f, ht, hf, rfl⟩
    · intro hkind
      cases hkind
    · exact ((each_sound_of_parse ht).blames hf).2.kind_ne

/-- An assignment, an object and two selections, the second of which fails. -/
theorem wellFormed_and_evaluate_ne_internal_chain :
    let text := "x = \x7b k: a ?. b \x7d; x.k.c"
    let outcome := ((Engine.afterCalls .standard .none () [] .standard).evaluate text .none
      [("a", .null)] [] ()).1
    ∃ tree err, parseWithin 64 text = .ok tree ∧ tree.WellFormed ∧
      outcome.result = .error err ∧ err.kind ≠ .internal := by
  intro text outcome
  have hread : (parseWithin 64 text).isOk = true := by decide +kernel
  have hfails : outcome.result.isOk = false := by decide +kernel
  obtain ⟨tree, ht⟩ := exists_ok_of_isOk hread
  obtain ⟨err, hr⟩ := exists_error_of_isOk hfails
  obtain ⟨hwell, hinternal⟩ := wellFormed_and_evaluate_ne_internal (σ := Unit)
  exact ⟨tree, err, ht, (hwell 64 text tree ht).1, hr,
    hinternal _ _ _ _ _ text _ _ _ err hr⟩

/-! ## Errors -/

/-- The text begins with the token that the error blames: the name that its message quotes, or a
sign that its kind allows.  A text that is no expression has nothing to blame. -/
def Error.Blames (e : Error) (text : List Char) : Prop :=
  match e.kind with
  | .parse => True
  | .unknownVariable => ∃ name : String, name.toList <+: text ∧
      (e.message = "unknown variable \"" ++ name ++ "\"" ∨
        e.message = "unknown function \"" ++ name ++ "\"")
  | .propertyAccess => ['.'] <+: text ∨ ['?', '.'] <+: text ∨ ['['] <+: text
  | .notCallable | .function => ['('] <+: text ∨ ['?', '.'] <+: text
  | .coercion => ['=', '~'] <+: text ∨ ['!', '~'] <+: text
  | .internal => False

/-- The error of a failure blames what the failure blames. -/
theorem Failure.Blames.ofFailure {f : Failure} {text : List Char} (h : f.Blames text)
    (source : String) : (Error.ofFailure source f).Blames text := by
  obtain ⟨cause, pos⟩ := f
  cases cause with
  | unknownVariable name => exact ⟨name, h, .inl rfl⟩
  | unknownFunction name => exact ⟨name, h, .inr rfl⟩
  | _ => exact h

/-- An error of the evaluation of a text holds the text and a place in it, and the token that the
error blames stands there. -/
theorem evaluate_error_blames (o : Options) (calls : Host σ) (host : σ) (history : List Call)
    (functions : Registry) (text : String) (vars state : Bag) (host' : σ) {err : Error}
    (h : ((Engine.afterCalls o calls host history functions).evaluate text calls vars state
      host').1.result = .error err) :
    err.source = some text ∧ ∃ p, err.position = some p ∧ p.In text.toList ∧
      err.Blames (textAt text.toList p) := by
  rw [Engine.evaluate_afterCalls] at h
  rcases Engine.error_of_outcomeOf h with ⟨e, he, rfl⟩ | ⟨tree, f, ht, hf, rfl⟩
  · exact ⟨rfl, e.position, rfl, position_in_of_parse he, trivial⟩
  · obtain ⟨hin, hblames⟩ := (each_sound_of_parse ht).blames hf
    exact ⟨rfl, f.position, rfl, hin, hblames.ofFailure text⟩

/-- The second point of a selection on the second line. -/
theorem evaluate_error_blames_point :
    let text := "a = b;\na.b .c"
    let outcome := ((Engine.afterCalls .standard .none () [] .standard).evaluate text .none
      [("b", .map [("b", .null)])] [] ()).1
    ∃ err, outcome.result = .error err ∧ err.kind = .propertyAccess ∧
      err.position = some ⟨2, 5⟩ ∧ err.source = some text ∧
      ∃ p, err.position = some p ∧ p.In text.toList ∧ err.Blames (textAt text.toList p) := by
  intro text outcome
  have hfails : (match outcome.result with
      | .error err => decide (err.kind = .propertyAccess ∧ err.position = some ⟨2, 5⟩)
      | .ok _ => false) = true := by decide +kernel
  cases hr : outcome.result with
  | ok v =>
    rw [hr] at hfails
    cases hfails
  | error err =>
    rw [hr] at hfails
    obtain ⟨hkind, hplace⟩ := of_decide_eq_true hfails
    exact ⟨err, rfl, hkind, hplace, evaluate_error_blames _ _ _ _ _ text _ _ _ hr⟩

/-! ## Changes -/

/-- A key of the state whose presence or value an evaluation changes, be it one that fails, is a plain
name that an assignment of the text has as its target, or a capture variable, and then the text has
an operator that matches.  A text with neither leaves the state as it was, and so does one that is no
expression. -/
theorem evaluate_state_frame (o : Options) (calls : Host σ) (host : σ) (history : List Call)
    (functions : Registry) (text : String) (vars state : Bag) (host' : σ) :
    let after := ((Engine.afterCalls o calls host history functions).evaluate text calls vars state
      host').1.state
    match parseWithin o.maxDepth text with
    | .error _ => after = state
    | .ok tree =>
      (∀ key, after.get? key ≠ state.get? key →
        (key.toList.head? ≠ some '$' ∧ IsPlain key.toList ∧ ∃ pos p value,
          (Node.assignment pos (.identifier p key) value).Within tree ∧ p.In text.toList ∧
            BeginsAssignment key.toList (textAt text.toList p)) ∨
        ∃ slot < captureSlots, key = captureKey slot ∧ ∃ pos op left right,
          op.isMatching = true ∧ (Node.relational pos op left right).Within tree ∧
            pos.Stands text.toList op.symbol.toList) ∧
      ((∀ n : Node, n.Within tree → n.kind ≠ .assignment) →
        (∀ pos op left right, (Node.relational pos op left right).Within tree →
          op.isMatching = false) → after = state) := by
  intro after
  have hafter : after = (Engine.outcomeOf functions o.maxDepth text calls vars state host').state :=
    congrArg Outcome.state (Engine.evaluate_afterCalls o calls host history functions text vars
      state host')
  cases ht : parseWithin o.maxDepth text with
  | error e => exact hafter.trans (Engine.state_outcomeOf_of_error ht)
  | ok tree =>
    rw [Engine.state_outcomeOf_of_ok ht] at hafter
    have hsound := each_sound_of_parse ht
    constructor
    · intro key hkey
      rw [hafter] at hkey
      rcases Bag.exists_write_of_get?_replay_ne hkey with ⟨v, hv⟩ | ⟨slot, hslot, rfl, groups, hg⟩
      · obtain ⟨pos, p, value, hwithin, hplain, hin, hbegins⟩ :=
          hsound.assigned (Node.canWrite_of_mem_writes hv)
        exact .inl ⟨hplain.head?_ne, hplain, pos, p, value, hwithin, hin, hbegins⟩
      · exact .inr ⟨slot, hslot, rfl, hsound.matched (Node.canWrite_of_mem_writes hg)⟩
    · intro hassign hmatch
      rw [hafter]
      generalize hws : tree.writes _ _ = ws
      cases ws with
      | nil => rfl
      | cons w ws =>
        exfalso
        have hw : tree.CanWrite w := Node.canWrite_of_mem_writes (hws ▸ List.mem_cons_self)
        cases w with
        | assigned name v =>
          obtain ⟨pos, p, value, hwithin, -⟩ := hsound.assigned hw
          exact hassign _ hwithin rfl
        | matched groups =>
          obtain ⟨pos, op, left, right, hop, hwithin, -⟩ := hsound.matched hw
          exact Bool.false_ne_true ((hmatch pos op left right hwithin).symm.trans hop)

/-- An assignment before a failure. -/
theorem evaluate_state_frame_failing :
    let text := "x = a; y"
    let after := ((Engine.afterCalls .standard .none () [] .standard).evaluate text .none
      [("a", .null)] [] ()).1.state
    ∃ tree, parseWithin 64 text = .ok tree ∧ (after.get? "x").isSome = true ∧
      ∃ pos p value, (Node.assignment pos (.identifier p "x") value).Within tree := by
  intro text after
  have hread : (parseWithin 64 text).isOk = true := by decide +kernel
  have hx : (after.get? "x").isSome = true := by decide +kernel
  have hslots : ∀ slot < captureSlots, "x" ≠ captureKey slot := by decide
  have hframe := evaluate_state_frame .standard .none () [] .standard text [("a", .null)] [] ()
  obtain ⟨tree, ht⟩ := exists_ok_of_isOk hread
  rw [show parseWithin Options.standard.maxDepth text = .ok tree from ht] at hframe
  have hkey : after.get? "x" ≠ Entries.get? "x" [] := fun h => by
    rw [h] at hx
    cases hx
  rcases hframe.1 "x" hkey with ⟨-, -, pos, p, value, hwithin, -⟩ | ⟨slot, hslot, hname, -⟩
  · exact ⟨tree, ht, hx, pos, p, value, hwithin⟩
  · exact absurd hname (hslots slot hslot)

end ExprLang
