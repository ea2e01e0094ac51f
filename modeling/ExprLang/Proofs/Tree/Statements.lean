import ExprLang.Proofs.Grammar.OwnLines
import ExprLang.Proofs.Tree.Around
import ExprLang.Proofs.Tree.Tokens

/-!
# ExprLang.Proofs.Tree.Statements

Statements are read alike in two texts that have a joint.

What has to be shown is that an expression of the first text does not turn into an assignment in the
second.  If the expression begins with a name, a step, an operator or its end stands behind the name;
so in both texts no equals sign does, or it is a part of `==` or `=~` (`barred_assignment`).
-/

namespace ExprLang

open ExprLang.Language Pattern

/-! ## Names at the beginning -/

section Names

variable {n : Reader} {k k' : Cursor} {us : List Token}

theorem exists_plainName_of_accepts (h : identifier.Accepts n .open k us k') : ∃ (w : PlainName) (l : List Char),
    k.rest = w.chars ++ l ∧ l.head?.any isNamePart = false ∧ k' = k.advance w.chars.length := by
  obtain ⟨w, l, hk, ⟨hname, hplain⟩, hl, rfl, -⟩ := leads_identifier.of_accepts h
  exact ⟨⟨⟨w, hname⟩, hplain⟩, l, hk, hl, rfl⟩

end Names

namespace Matched

variable {s : Joint} {n : Reader} {G : GapReader} {k k' : Cursor} {ts : List Token}
  (h : Matched s n G)
include h

/-- Behind a name at the beginning of an expression, blanks are skipped up to a step, an operator or
the end. -/
theorem behind_plainName (w : PlainName) {l : List Char} (hk : k.rest = w.chars ++ l)
    (hl : l.head?.any isNamePart = false) (hacc : Language.expression.Crosses s n G .free k ts k')
    (hend : s.Behind .free AtEnd k') :
    s.Behind .free (fun k => Before s n G .free Language.steps Anywhere k ∨ BehindSteps s n G k)
      (k.advance w.chars.length) := by
  have hfresh : k.skip .free = k :=
    skip_eq_self (by rw [hk]; exact blankLength_name w.toName l) .free
  obtain ⟨_, hbody, -⟩ := Crosses.rule h.regular rfl hacc
  obtain ⟨_, _, k₁, hunary, -, hrest, -⟩ := Crosses.seq h.regular hbody
  obtain rfl : k₁ = k := by
    cases Crosses.many h.regular rfl hfresh hunary with
    | done => rfl
    | next _ hop =>
      rw [hfresh] at hop
      exact absurd (misses_unaryOps w.toName l false k hk) hop.accepts.not_rejects
  change Crosses s n G .free _ (k₁.skip .free) _ k' at hrest
  rw [hfresh] at hrest
  obtain ⟨_, _, k₂, hoperand, hclear, hrest', -⟩ := Crosses.seq h.regular hrest
  obtain ⟨-, rfl⟩ := hoperand.accepts.unique (accepts_operand_plainName w hk hl)
  obtain ⟨_, _, k₃, hsteps, hclear', hops, -⟩ := Crosses.seq h.regular hrest'
  have hskip := Cursor.skip_idem .free k₃
  have hnext := h.behindSteps_of_before hskip (h.many_operatorRun.before hskip hops hend)
  have hskip' := Cursor.skip_idem .free (k₁.advance w.chars.length)
  have hbehind := Carries.behind_of_repeated h.steps
    (Crosses.many h.regular rfl hskip' hsteps) ⟨hclear', hnext⟩
  exact ⟨hclear, (Joint.behind_of_skip hskip').mp hbehind⟩

/-- What an assignment goes on with behind the name. -/
abbrev assigned : Pattern :=
  all [word "=", .unless (.either (word "=") (word "~")), .recurse]

omit h in
/-- Of the operators, only `==` and `=~` begin with an equals sign. -/
theorem head?_operators : ∀ op ∈ operators, op.symbol.toList.head? ≠ some '=' ∨
    op.symbol.toList = ['=', '='] ∨ op.symbol.toList = ['=', '~'] := by
  decide

omit h in
/-- An equals sign that begins `==` or `=~` assigns nothing. -/
theorem misses_assigned {c : Char} (hc : c = '=' ∨ c = '~') (l : List Char) :
    assigned.Misses n ('=' :: c :: l) := by
  have hsolid : isSolid c = true := by rcases hc with rfl | rfl <;> decide
  have hwords : "=".toList <+: c :: l ∨ "~".toList <+: c :: l := by
    rcases hc with rfl | rfl
    · exact .inl ⟨l, rfl⟩
    · exact .inr ⟨l, rfl⟩
  refine .text_seq (w := ['=']) (.seq ?_)
  rw [pastBlanks_cons hsolid]
  exact .unless_words hwords

/-- An operator that begins with an equals sign is no equals sign. -/
theorem barred_assigned_of_infixOp {n' : Reader} {op : InfixOp} (hop : op ∈ operators)
    (hother : ∀ {c : Char}, k.rest.head? = some c → c ≠ '=' → assigned.Barred s n' .free k)
    (hacc : (Language.infixOp op op.symbol).Crosses s n G .free k ts k') :
    assigned.Barred s n' .free k := by
  obtain ⟨c, hc, -⟩ := head?_symbol hop
  have hhead : op.symbol.toList.head? = some c := hc
  obtain ⟨_, hbody, -⟩ := Crosses.rule h.regular rfl hacc
  have hk := (Crosses.heads_of_text h.regular hhead hbody).1
  rcases head?_operators op hop with hne | hdouble
  · refine hother hk ?_
    rintro rfl
    exact hne hhead
  · obtain ⟨d, hd, hsymbol⟩ : ∃ d, (d = '=' ∨ d = '~') ∧ op.symbol.toList = ['=', d] := by
      rcases hdouble with hsymbol | hsymbol
      · exact ⟨'=', .inl rfl, hsymbol⟩
      · exact ⟨'~', .inr rfl, hsymbol⟩
    have hacross := Crosses.across_text hbody
    intro k₂ hk₂
    have hrest := hk₂.meets.rest_eq (.inl (rest_ne_nil_of_head? hk))
    rw [hacross, hsymbol] at hrest
    exact misses_assigned hd _ false k₂ hrest

/-- Where a step, an operator or the end of an expression stands, no value is assigned. -/
theorem barred_assigned {n' : Reader} (hk : k.skip .free = k)
    (hnext : Before s n G .free Language.steps Anywhere k ∨ BehindSteps s n G k) :
    assigned.Barred s n' .free k := by
  have hother : ∀ {c : Char}, k.rest.head? = some c → c ≠ '=' → assigned.Barred s n' .free k :=
    fun hc hne => .seq (.of_headed rfl (Joint.heads_of_skip hk hc) (by simpa [heads, word] using hne))
  rcases hnext with ⟨-, _, _, hsteps, -⟩ | ⟨-, _, _, hops, -⟩ | hend
  · obtain ⟨c, l, hl, heats⟩ := exists_head_of_accepts h.regular.proceeds
      (blankLength_eq_zero_of_skip hk) hsteps.accepts rfl
    refine hother (c := c) (by rw [hl]; rfl) ?_
    rintro rfl
    exact absurd heats (by decide)
  · rw [infixOps_eq] at hops
    obtain ⟨x, hx, hxacc⟩ := Crosses.choice h.regular hops
    simp only [List.mem_append, List.mem_cons, List.not_mem_nil, or_false] at hx
    rcases hx with (rfl | rfl) | hx
    · obtain ⟨_, hbody, -⟩ := Crosses.rule h.regular rfl hxacc
      exact hother (Crosses.heads_of_text h.regular (c := '?') rfl hbody).1 (by decide)
    · obtain ⟨_, hbody, -⟩ := Crosses.rule h.regular rfl hxacc
      exact hother (Crosses.heads_of_text_seq h.regular (c := '?') rfl hbody).1 (by decide)
    · obtain ⟨op, hop, rfl⟩ := List.mem_map.mp hx
      exact h.barred_assigned_of_infixOp hop hother hxacc
  · exact .of_ends hend (by decide)

/-- A name at the beginning of an expression is assigned nothing. -/
theorem barred_assignment {n' : Reader} {G' : GapReader} (hn' : n'.Regular G')
    (hacc : Language.expression.Crosses s n G .free k ts k') (hend : s.Behind .free AtEnd k') :
    assignment.Barred s n' .free k := by
  have hne := rest_ne_nil_of_accepts h.regular.proceeds hacc.accepts rfl
  rcases accepts_or_rejects hn'.settled identifier .open k with ⟨us, k₁, hname⟩ | hnone
  · obtain ⟨w, l, hrest, hl, rfl⟩ := exists_plainName_of_accepts hname
    have hbehind := h.behind_plainName w hrest hl hacc hend
    have hquiet : s.Quiet ((k.advance w.chars.length).skip .free) :=
      hbehind.2.elim (fun hsteps => hsteps.quiet rfl) BehindSteps.quiet
    intro k₂ hk₂
    obtain ⟨us', k₂', hname', hrest', -⟩ :=
      follows_of_inline hn' (m := .open) rfl (hk₂.meets.rest_eq (.inl hne)) hname
    have hbegins := Cursor.Meets.skip (.inl hrest') hbehind.1 fun _ => hquiet
    have hassigned : assigned.Barred s n' .free ((k.advance w.chars.length).skip .free) :=
      h.barred_assigned (Cursor.skip_idem .free _) hbehind.2
    exact rejects_rule (rejects_seq_right hname' (hassigned _ hbegins))
  · exact .rule (.seq (.of_inline hn' rfl hne hnone))

theorem assignment : Carries s n G .free false assignment (s.Behind .free AtEnd) :=
  h.rule rfl rfl (.seq h.regular (h.atomic rfl) (.seq h.regular (h.atomic rfl)
    (.seq h.regular (h.unless_before rfl rfl) h.carries)))

end Matched

/-! ## Statements -/

section Statements

variable (s : Joint) (d : Nat)

/-- A statement, up to where an expression ends. -/
theorem carries_statement : Carries s (readExpression (d + 1)) (expressionGaps (d + 1)) .free false
    statement (s.Behind .free AtEnd) := by
  have hmatched := matched_readExpression s (d + 1)
  refine .either_of hmatched.regular hmatched.assignment hmatched.carries ?_
  intro k ts k' _ hacc hend _
  exact (matched_readExpression s d).barred_assignment hmatched.regular hacc.recurse hend

variable {s d} in
/-- No statement begins where an expression ends. -/
theorem barred_statement {k : Cursor} (hk : AtEnd k) :
    statement.Barred s (readExpression d) .free k :=
  .either (.of_ends hk (by decide)) (barred_recurse d hk)

/-- Statements up to the end of the text, if it is not at the joint. -/
theorem carries_statements (hleft : s.left ≠ []) : Carries s (readExpression (d + 1))
    (expressionGaps (d + 1)) .free false statements (s.Behind .free fun k => k.rest = []) := by
  have hmatched := matched_readExpression s (d + 1)
  refine hmatched.rule rfl rfl (hmatched.separated (c := ';') rfl rfl (by decide) ?_ ?_
    (carries_statement s d) fun _ => barred_statement)
  · intro k hk
    rw [AtEnd, hk]
    decide
  · intro k hk _ k₂ hk₂
    refine rejects_text_iff.mpr ?_
    rcases hk₂.meets with hrest | ⟨-, hnil, -, -⟩
    · rw [hrest, hk, Joint.across_nil_of_ne hleft]
      decide
    · exact absurd hnil hleft

end Statements

end ExprLang
