import ExprLang.Proofs.Engine.Outcomes
import ExprLang.Proofs.Eval.Chaining
import ExprLang.Proofs.Eval.Coupling
import ExprLang.Proofs.Eval.Matches

/-!
# ExprLang.Proofs.Eval.Reads

What an evaluation reads.

Of the variables and the state an evaluation sees the names of its tree and nothing else.  Two runs
that agree on these names go the same way: they write the same, which keeps them in agreement
(`Run.AgreeOn.write`), and so they come to the same result, make the same calls, and agree on
whatever they wrote, capture variables that were cleared included.
-/

namespace ExprLang

variable {σ : Type}

/-! ## Writes to different states -/

/-- The keys that a write sets or removes: a match does so to all capture variables. -/
def Write.Touches (w : Write) (key : String) : Prop :=
  match w with
  | .assigned name _ => key = name
  | .matched _ => ∃ slot < captureSlots, key = captureKey slot

namespace Bag

variable {state state' : Bag} {key : String}

theorem sorted_apply (h : Entries.Sorted state) (w : Write) : Entries.Sorted (w.apply state) :=
  sorted_replay h [w]

/-- After a write two states agree on the keys that they agreed on, and on those written. -/
theorem get?_apply_eq (h : Entries.Sorted state) (h' : Entries.Sorted state') (w : Write)
    (hkey : state.get? key = state'.get? key ∨ w.Touches key) :
    (w.apply state).get? key = (w.apply state').get? key := by
  cases w with
  | assigned name v =>
    by_cases hname : key = name
    · subst hname
      exact (Entries.get?_insert_self state key v).trans (Entries.get?_insert_self state' key v).symm
    · have hsame := hkey.resolve_right hname
      exact (Entries.get?_insert_of_ne hname state v).trans
        (hsame.trans (Entries.get?_insert_of_ne hname state' v).symm)
  | matched groups =>
    by_cases hslot : ∃ slot < captureSlots, key = captureKey slot
    · obtain ⟨slot, hlt, rfl⟩ := hslot
      exact (get?_setCaptures h hlt).trans (get?_setCaptures h' hlt).symm
    · have hne : ∀ slot < captureSlots, key ≠ captureKey slot := fun slot hlt heq =>
        hslot ⟨slot, hlt, heq⟩
      exact (get?_setCaptures_of_ne hne).trans
        ((hkey.resolve_right hslot).trans (get?_setCaptures_of_ne hne).symm)

/-- After the same writes two states agree on whatever was written. -/
theorem get?_replay_eq (h : Entries.Sorted state) (h' : Entries.Sorted state') {ws : List Write}
    (hkey : state.get? key = state'.get? key ∨ ∃ w ∈ ws, w.Touches key) :
    (replay state ws).get? key = (replay state' ws).get? key := by
  induction ws generalizing state state' with
  | nil => exact hkey.resolve_right fun ⟨_, hw, _⟩ => absurd hw List.not_mem_nil
  | cons w ws ih =>
    refine ih (sorted_apply h w) (sorted_apply h' w) ?_
    rcases hkey with hkey | ⟨u, hu, htouch⟩
    · exact .inl (get?_apply_eq h h' w (.inl hkey))
    · rcases List.mem_cons.mp hu with rfl | hu
      · exact .inl (get?_apply_eq h h' u (.inr htouch))
      · exact .inr ⟨u, hu, htouch⟩

end Bag

/-! ## Runs that agree -/

/-- The results of a host's functions depend on the receiver and the arguments alone. -/
def Host.Pure (h : Host σ) : Prop :=
  ∀ i receiver args t u, (h.call i receiver args t).1 = (h.call i receiver args u).1

/-- The states of two runs agree on some names, and the same calls were made. -/
structure Run.AgreeOn (names : String → Prop) (r r' : Run (σ × List HostCall)) : Prop where
  sorted : Entries.Sorted r.state
  sorted' : Entries.Sorted r'.state
  state : ∀ name, names name → r.state.get? name = r'.state.get? name
  calls : r.host.2 = r'.host.2

variable {names : String → Prop} {h : Host σ} {r r' : Run (σ × List HostCall)}

/-- A write keeps runs in agreement. -/
theorem Run.AgreeOn.write (hr : r.AgreeOn names r') (w : Write) :
    (r.write w).AgreeOn names (r'.write w) where
  sorted := Bag.sorted_apply hr.sorted w
  sorted' := Bag.sorted_apply hr.sorted' w
  state name hname := Bag.get?_apply_eq hr.sorted hr.sorted' w (.inl (hr.state name hname))
  calls := hr.calls

/-- So does a call of a function of a recording host, and its result is the same. -/
theorem Run.AgreeOn.call (hpure : h.Pure) (hr : r.AgreeOn names r') (f : Function)
    (receiver : Value) (args : List Value) :
    (f.call h.recorded receiver args r'.host).1 = (f.call h.recorded receiver args r.host).1 ∧
      AgreeOn names { r with host := (f.call h.recorded receiver args r.host).2 }
        { r' with host := (f.call h.recorded receiver args r'.host).2 } := by
  obtain ⟨name, behaviour, serial⟩ := f
  cases behaviour with
  | library g => exact ⟨rfl, hr⟩
  | host i =>
    refine ⟨hpure i receiver args _ _, hr.sorted, hr.sorted', hr.state, ?_⟩
    show r.host.2 ++ _ = r'.host.2 ++ _
    rw [hr.calls]

/-- Surroundings that agree on the names of a tree keep runs of it in agreement. -/
theorem Surroundings.coupled_agreeOn (hpure : h.Pure) (functions : Registry) {vars vars' : Bag}
    (hvars : ∀ name, names name → vars.get? name = vars'.get? name) :
    Surroundings.Coupled names ⟨vars, functions, h.recorded⟩ ⟨vars', functions, h.recorded⟩
      (Run.AgreeOn names) where
  functions := rfl
  record _ _ hr := ⟨hr.sorted, hr.sorted', hr.state, hr.calls⟩
  lookup {r r' name} hr hname := by
    show (r'.state.get? name).or (vars'.get? name) = (r.state.get? name).or (vars.get? name)
    rw [hr.state name hname, hvars name hname]
  write w hr := hr.write w
  call f receiver args hr := hr.call hpure f receiver args

/-! ## Evaluations -/

namespace Node

variable {tree : Node} {s s' : Surroundings σ} {P : Run σ → Run σ → Prop} {r r' : Run σ}

theorem couples_evaluate (hs : s.Coupled tree.Names s' P) :
    Eval.Couples P id (tree.writes s) (tree.writes s')
      (Eval.find s 0 tree >>= fun found => pure found.value)
      (Eval.find s' 0 tree >>= fun found => pure found.value) := by
  have hfind := Eval.couples_find (g := id) hs 0 0 tree .refl
  rw [moved_id] at hfind
  exact .map hfind _

/-- Runs that are alike as far as the tree can see have the same result. -/
theorem evaluate_fst_eq (hs : s.Coupled tree.Names s' P) (hr : P r r') :
    (tree.evaluate s' r').1 = (tree.evaluate s r).1 := by
  rw [evaluate_eq, evaluate_eq, (couples_evaluate hs).result hr]
  cases ((Eval.find s 0 tree >>= fun found => pure found.value).runFrom r).1 <;> rfl

theorem evaluate_snd (hs : s.Coupled tree.Names s' P) (hr : P r r') :
    P (tree.evaluate s r).2 (tree.evaluate s' r').2 := by
  rw [evaluate_eq, evaluate_eq]
  exact (couples_evaluate hs).run hr

end Node

/-- Two runs of a text whose variables and states agree on the names of its tree give the same value
or error, make the same calls with the same receivers and arguments, write the same, and leave the
same under every key that was written or cleared.  The functions of the host are taken to depend on
their receiver and arguments only; the engines may have any calls behind them. -/
theorem evaluate_eq_of_agree (o : Options) (calls : Host σ) (hpure : calls.Pure)
    (history history' : List Call) (start start' : σ × List HostCall) (functions : Registry)
    {text : String} {tree : Node} (htree : parseWithin o.maxDepth text = .ok tree)
    {vars vars' state state' : Bag} (hstate : Entries.Sorted state)
    (hstate' : Entries.Sorted state')
    (hvars : ∀ name, tree.Names name → vars.get? name = vars'.get? name)
    (hagree : ∀ name, tree.Names name → state.get? name = state'.get? name) (host host' : σ) :
    let outcome := ((Engine.afterCalls o calls.recorded start history functions).evaluate text
      calls.recorded vars state (host, [])).1
    let outcome' := ((Engine.afterCalls o calls.recorded start' history' functions).evaluate text
      calls.recorded vars' state' (host', [])).1
    let writes := tree.writes ⟨vars, functions, calls.recorded⟩ ⟨state, (host, []), none⟩
    let writes' := tree.writes ⟨vars', functions, calls.recorded⟩ ⟨state', (host', []), none⟩
    outcome.result = outcome'.result ∧ outcome.host.2 = outcome'.host.2 ∧ writes = writes' ∧
      ∀ w ∈ writes, ∀ key, w.Touches key → outcome.state.get? key = outcome'.state.get? key := by
  intro outcome outcome' writes writes'
  have hcoupled := Surroundings.coupled_agreeOn hpure functions hvars
  have hr : Run.AgreeOn tree.Names ⟨state, (host, []), none⟩ ⟨state', (host', []), none⟩ :=
    ⟨hstate, hstate', hagree, rfl⟩
  have houtcome : outcome = Engine.outcomeOf functions o.maxDepth text calls.recorded vars state
      (host, []) := Engine.evaluate_afterCalls ..
  have houtcome' : outcome' = Engine.outcomeOf functions o.maxDepth text calls.recorded vars'
      state' (host', []) := Engine.evaluate_afterCalls ..
  have hwrites : writes = writes' := ((Node.couples_evaluate hcoupled).log hr).symm
  refine ⟨?_, ?_, hwrites, fun w hw key htouch => ?_⟩
  · rw [houtcome, houtcome', Engine.outcomeOf, Engine.outcomeOf, htree]
    exact congrArg (Except.mapError (Error.ofFailure text)) (Node.evaluate_fst_eq hcoupled hr).symm
  · rw [houtcome, houtcome', Engine.outcomeOf, Engine.outcomeOf, htree]
    exact (Node.evaluate_snd hcoupled hr).calls
  · rw [houtcome, houtcome', Engine.state_outcomeOf_of_ok htree, Engine.state_outcomeOf_of_ok htree]
    show (Bag.replay state writes).get? key = (Bag.replay state' writes').get? key
    rw [← hwrites]
    exact Bag.get?_replay_eq hstate hstate' (.inr ⟨w, hw, htouch⟩)

/-- The names of a tree stand in its text. -/
theorem Node.Names.isInfix {limit : Nat} {text : String} {tree : Node}
    (h : parseWithin limit text = .ok tree) {name : String} (hname : tree.Names name) :
    name.toList <:+: text.toList := by
  obtain ⟨pos, hwithin⟩ := hname
  obtain ⟨role, hvar⟩ := (each_sound_of_parse h).of_within hwithin
  exact hvar.here.placed.1.2.isInfix.trans (List.drop_suffix _ _).isInfix

/-- A call, then a match that clears a capture variable; the runs differ in a name that the text does
not have. -/
theorem evaluate_eq_of_agree_cleared :
    let text := "x = note(a); a =~ b; $0"
    let functions := Registry.standard.define "note" (.host 0)
    let e := Engine.afterCalls .standard Host.none.recorded ((), []) [] functions
    let vars : Bag := [("a", .string "ab"), ("b", .regexp .ofLetter)]
    let outcome := (e.evaluate text Host.none.recorded vars
      [("$5", .null), ("z", .null)] ((), [])).1
    let outcome' := (e.evaluate text Host.none.recorded (vars ++ [("z", .null)])
      [("$5", .undefined)] ((), [])).1
    outcome.result = outcome'.result ∧ outcome.host.2 = outcome'.host.2 ∧
      outcome.state.get? "$5" = outcome'.state.get? "$5" := by
  intro text functions e vars outcome outcome'
  have hread : (parseWithin 64 text).isOk = true := by decide +kernel
  have hmatched : (parseWithin 64 text).toOption.map (fun tree =>
      (tree.writes ⟨vars, functions, Host.none.recorded⟩
        ⟨[("$5", .null), ("z", .null)], ((), []), none⟩).any fun w => w.groups?.isSome) =
      some true := by decide +kernel
  have hz : ¬ "z".toList <:+: text.toList := by decide +kernel
  have hfive : ¬ "$5".toList <:+: text.toList := by decide +kernel
  obtain ⟨tree, htree⟩ := exists_ok_of_isOk hread
  rw [htree] at hmatched
  obtain ⟨w, hw, hgroups⟩ := List.any_eq_true.mp (Option.some.inj hmatched)
  have htouch : w.Touches "$5" := by
    cases w with
    | assigned => cases hgroups
    | matched groups => exact ⟨5, by decide, rfl⟩
  have hvars : ∀ name, tree.Names name →
      Entries.get? name vars = Entries.get? name (vars ++ [("z", .null)]) := by
    intro name hname
    have hne : name ≠ "z" := fun h => hz (h ▸ hname.isInfix htree)
    simp [vars, Entries.get?, hne.symm]
  have hstate : ∀ name, tree.Names name →
      Entries.get? name [("$5", Value.null), ("z", .null)] =
        Entries.get? name [("$5", .undefined)] := by
    intro name hname
    have hne : name ≠ "z" := fun h => hz (h ▸ hname.isInfix htree)
    have hne' : name ≠ "$5" := fun h => hfive (h ▸ hname.isInfix htree)
    simp [Entries.get?, hne.symm, hne'.symm]
  have hlt : "$5" < "z" := by decide +kernel
  have hsorted : Entries.Sorted [("$5", Value.null), ("z", .null)] :=
    List.pairwise_pair.mpr hlt
  obtain ⟨hresult, hcalls, -, hwritten⟩ := evaluate_eq_of_agree .standard Host.none
    (fun _ _ _ _ _ => rfl) [] [] ((), []) ((), []) functions htree hsorted
    (List.pairwise_singleton _ _) hvars hstate () ()
  exact ⟨hresult, hcalls, hwritten w hw "$5" htouch⟩

end ExprLang
