import ExprLang.Proofs.Tree.Tokens

/-!
# ExprLang.Proofs.Tree.Provenance

Where the tokens of a text come from.

Every token that a pattern leaves is left by one of the rules in it, or by one that was read where
the pattern contains itself.  So behind each token of a text there is a rule of the grammar whose body
was accepted there and left the tokens inside (`descends_of_tokenOf`).
-/

namespace ExprLang

open ExprLang.Language Pattern

/-- A rule with its kind and its body. -/
structure Production where
  rule : Rule
  kind : RuleKind
  body : Pattern

namespace Pattern

/-- The rules that a pattern can leave tokens of. -/
def productions : Pattern → List Production
  | .text _ | .one _ | .stop | .unless _ | .recurse => []
  | .seq x y | .either x y => x.productions ++ y.productions
  | .maybe x | .many x => x.productions
  | .rule r kind x => ⟨r, kind, x⟩ :: x.productions

end Pattern

/-- A token that was left by a rule of the grammar, with everything inside it. -/
inductive Token.Descends (ps : List Production) : Token → Prop
  | mk {p : Production} {depth : Nat} {sp : Spacing} {k k' : Cursor} {ts : List Token} :
      p ∈ ps → p.body.Accepts (readExpression depth) ⟨p.kind.body sp, false⟩ k ts k' →
      (∀ t ∈ ts, Descends ps t) →
      Descends ps (.mk p.rule k (k'.offset - k.offset) ts.reverse)

namespace Pattern

variable {n : Reader} {x : Pattern} {m : Mode} {k : Cursor} {post : List Token → Cursor → Prop}

/-- What is known of a successful reading holds of what is accepted. -/
theorem Leads.accepts (hn : n.Settled) (hx : x.Leads n n m k post) :
    x.Leads n n m k fun ts k' => x.Accepts n m k ts k' ∧ post ts k' := by
  intro a us
  refine ⟨rfl, fun a' q hq => ?_⟩
  obtain ⟨ts, hts, hpost⟩ := (hx a us).2 a' q hq
  obtain ⟨vs, hacc, hvs⟩ := (accepts_or_rejects hn x).accepts_of_read hq
  obtain rfl : ts = vs := List.append_cancel_right (hts.symm.trans hvs)
  exact ⟨ts, hts, hacc, hpost⟩

/-- Every token left descends from the rules in the pattern, if every token that is left where the
pattern contains itself does. -/
theorem leads_descends {depth : Nat} {ps : List Production}
    (hrecurse : ∀ sp k, recurse.Leads (readExpression depth) (readExpression depth) ⟨sp, false⟩ k
      fun ts _ => ∀ t ∈ ts, t.Descends ps) (hx : ∀ p ∈ x.productions, p ∈ ps) (sp : Spacing)
    (k : Cursor) : x.Leads (readExpression depth) (readExpression depth) ⟨sp, false⟩ k
      fun ts _ => ∀ t ∈ ts, t.Descends ps := by
  induction x generalizing sp k with
  | text w => exact .text fun _ _ => by simp
  | one f => exact .one fun _ _ _ _ => by simp
  | stop => exact .stop fun _ => by simp
  | seq x y ihx ihy =>
    rw [productions, List.forall_mem_append] at hx
    refine .seq (ihx hx.1 sp k) fun ts k₁ hts => (ihy hx.2 sp _).mono fun us _ hus => ?_
    exact List.forall_mem_append.mpr ⟨hus, hts⟩
  | either x y ihx ihy =>
    rw [productions, List.forall_mem_append] at hx
    exact .either (ihx hx.1 sp k) (ihy hx.2 sp k)
  | maybe x ih => exact .maybe (ih hx sp k) (by simp)
  | many x ih =>
    refine .many (by simp) (ih hx sp k) fun ts k₁ hts => (ih hx sp _).mono fun us _ hus => ?_
    exact List.forall_mem_append.mpr ⟨hus, hts⟩
  | «unless» x => exact .unless fun _ => by simp
  | rule r kind x ih =>
    rw [productions, List.forall_mem_cons] at hx
    refine .rule (((ih hx.2 (kind.body sp) k).accepts (settled_readExpression depth)).mono ?_)
    rintro ts k' ⟨hacc, hts⟩ t ht
    split at ht
    · rw [List.mem_singleton.mp ht]
      exact .mk hx.1 hacc hts
    · cases ht
  | recurse => exact hrecurse sp k

end Pattern

/-- The rules of the grammar. -/
def productions : List Production := program.productions ++ expression.productions

theorem leads_descends_recurse (depth : Nat) (sp : Spacing) (k : Cursor) :
    recurse.Leads (readExpression depth) (readExpression depth) ⟨sp, false⟩ k
      fun ts _ => ∀ t ∈ ts, t.Descends productions := by
  induction depth generalizing sp k with
  | zero =>
    intro a ts
    exact ⟨rfl, fun a' q hq => by cases hq⟩
  | succ depth ih =>
    rw [readExpression_succ]
    exact .recurse (leads_descends ih (fun p hp => List.mem_append_right _ hp) sp k)

/-- Every token of a text descends from the grammar. -/
theorem descends_of_tokenOf {source : List Char} {t : Token} (h : tokenOf source = .ok t) :
    t.Descends productions := by
  have hread : ∀ a q, readProgram source = ⟨a, some q⟩ →
      ∀ t ∈ q.tokens, t.Descends productions := by
    intro a q hq
    obtain ⟨ts, hts, hdescends⟩ := (leads_descends (leads_descends_recurse _)
      (fun p hp => List.mem_append_left _ hp) _ _ .empty []).2 a q hq
    rw [hts, List.append_nil]
    exact hdescends
  unfold tokenOf at h
  split at h
  · next heq =>
    cases h
    exact hread _ _ heq t List.mem_cons_self
  · cases h

end ExprLang
