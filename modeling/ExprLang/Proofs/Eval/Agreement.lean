import ExprLang.Proofs.Eval.Coupling

/-!
# ExprLang.Proofs.Eval.Agreement

Evaluations that come to the same.

Two evaluations agree if from runs with the same state and host they come to the same result and leave
runs with the same state and host.  Their events may differ, and so may the depth of a node and
whether it is entered at all (`Eval.agrees_find`, `Eval.Agrees.visit_left`): the evaluation of a node
agrees with what it does itself, with its parts evaluated at any depth.

A host may keep a record of the calls made of it.  Where evaluations agree for every host, the same
functions are called with the same arguments in the same order.
-/

namespace ExprLang

variable {σ α β : Type}

/-! ## Runs -/

/-- Runs with the same state and the same host; their events may differ. -/
structure Run.Alike (r r' : Run σ) : Prop where
  state : r'.state = r.state
  host : r'.host = r.host

namespace Run.Alike

variable {r r' r'' : Run σ}

theorem refl (r : Run σ) : r.Alike r := ⟨rfl, rfl⟩

theorem symm (h : r.Alike r') : r'.Alike r := ⟨h.state.symm, h.host.symm⟩

theorem trans (h : r.Alike r') (h' : r'.Alike r'') : r.Alike r'' :=
  ⟨h'.state.trans h.state, h'.host.trans h.host⟩

/-- An event is no matter. -/
theorem record (r : Run σ) (e : Event) : r.Alike (r.record e) := ⟨rfl, rfl⟩

end Run.Alike

/-- Every evaluation keeps runs alike. -/
theorem Surroundings.coupled_alike (s : Surroundings σ) (names : String → Prop) :
    s.Coupled names s Run.Alike where
  functions := rfl
  record _ _ h := ⟨h.state, h.host⟩
  lookup h _ := by rw [h.state]
  write w h := ⟨congrArg (Write.apply · w) h.state, h.host⟩
  call f receiver args h := by
    rw [h.host]
    exact ⟨rfl, h.state, rfl⟩

/-! ## Evaluations -/

namespace Eval

/-- From runs that are alike, both evaluations come to the same result and leave runs that are
alike. -/
abbrev Agrees (c c' : Eval σ α) : Prop := Couples Run.Alike id .none .none c c'

/-- What is written is no matter where the state that it makes is the same. -/
theorem Couples.agrees {L L' : Log σ} {c c' : Eval σ α} (h : Couples Run.Alike id L L' c c') :
    c.Agrees c' :=
  ⟨h.result, h.run, fun _ => rfl⟩

namespace Agrees

variable {c c' c'' : Eval σ α} {r r' : Run σ}

theorem result_eq (h : c.Agrees c') (hr : r.Alike r') : (c'.runFrom r').1 = (c.runFrom r).1 := by
  rw [h.result hr]
  cases (c.runFrom r).1 <;> rfl

/-- Where the one comes to something, so does the other. -/
theorem ok (h : c.Agrees c') (hr : r.Alike r') {a : α} {q : Run σ}
    (hc : c.runFrom r = (.ok a, q)) : ∃ q', c'.runFrom r' = (.ok a, q') ∧ q.Alike q' := by
  have hresult := h.result_eq hr
  have hrun := h.run hr
  rw [hc] at hresult hrun
  exact ⟨(c'.runFrom r').2, Prod.ext hresult rfl, hrun⟩

theorem of_eq (hresult : ∀ {r r' : Run σ}, r.Alike r' → (c'.runFrom r').1 = (c.runFrom r).1)
    (hrun : ∀ {r r' : Run σ}, r.Alike r' → (c.runFrom r).2.Alike (c'.runFrom r').2) :
    c.Agrees c' where
  result {r r'} hr := by
    rw [hresult hr]
    cases (c.runFrom r).1 <;> rfl
  run := hrun
  log _ := rfl

theorem symm (h : c.Agrees c') : c'.Agrees c :=
  .of_eq (fun hr => (h.result_eq hr.symm).symm) fun hr => (h.run hr.symm).symm

theorem trans (h : c.Agrees c') (h' : c'.Agrees c'') : c.Agrees c'' :=
  .of_eq (fun hr => (h'.result_eq hr).trans (h.result_eq (.refl _))) fun hr =>
    (h.run (.refl _)).trans (h'.run hr)

/-- One evaluation after the other. -/
theorem bind {f f' : α → Eval σ β} (hc : c.Agrees c') (hf : ∀ a, (f a).Agrees (f' a)) :
    (c >>= f).Agrees (c' >>= f') :=
  Couples.last hc hf

theorem ite {p : Prop} [Decidable p] {d d' : Eval σ α} (hc : c.Agrees c') (hd : d.Agrees d') :
    (if p then c else d).Agrees (if p then c' else d') := by
  split
  · exact hc
  · exact hd

/-- It makes no difference that a node is entered and left. -/
theorem visit_left {body c : Eval σ Found} (h : body.Agrees c) (kind : NodeKind) (depth : Nat)
    (pos : Position) : (visit kind depth pos body).Agrees c := by
  have hvisit : ∀ r : Run σ, ((visit kind depth pos body).runFrom r).1 =
        (body.runFrom (r.record (.enter kind depth pos))).1 ∧
      (body.runFrom (r.record (.enter kind depth pos))).2.Alike
        ((visit kind depth pos body).runFrom r).2 := by
    intro r
    rw [runFrom_visit]
    generalize body.runFrom _ = q
    obtain ⟨x, r'⟩ := q
    cases x with
    | ok found => exact ⟨rfl, .record r' _⟩
    | error e => exact ⟨rfl, .refl r'⟩
  exact .of_eq
    (fun {r _} hr => (h.result_eq ((Run.Alike.record r _).symm.trans hr)).trans (hvisit r).1.symm)
    fun {r _} hr => (hvisit r).2.symm.trans (h.run ((Run.Alike.record r _).symm.trans hr))

theorem visit_right {body c : Eval σ Found} (h : c.Agrees body) (kind : NodeKind) (depth : Nat)
    (pos : Position) : c.Agrees (visit kind depth pos body) :=
  (visit_left h.symm kind depth pos).symm

end Agrees

section Find

variable (s : Surroundings σ)

/-- A node is evaluated alike at every depth. -/
theorem agrees_find (depth depth' : Nat) (n : Node) :
    (find s depth n).Agrees (find s depth' n) := by
  have h := couples_find (g := id) (s.coupled_alike n.Names) depth depth' n .refl
  rw [Node.moved_id] at h
  exact h.agrees

theorem agrees_findAll (depth depth' : Nat) (ns : List Node) :
    (findAll s depth ns).Agrees (findAll s depth' ns) := by
  have h := couples_findAll (g := id) (s.coupled_alike (Node.Names (.array .first ns))) depth depth'
    ns fun _ hn => .of_mem hn
  rw [Node.movedAll_id] at h
  exact h.agrees

end Find

end Eval

end ExprLang
