import ExprLang.Proofs.Tree.Joined

/-!
# ExprLang.Proofs.Tree.Layout

Layout carries no meaning.

Where the grammar skips blanks and comments between two tokens, any other blanks and comments may
stand, if they begin with a blank: the text is read as the same tree, but for places
(`parseWithin_relaid`).  The two texts have a joint where the blanks begin (`Joint.ofLayout`), and the
program that is read in the first one is carried over to the second (`exists_tokenOf_across`).
-/

namespace ExprLang

open ExprLang.Language Pattern
open Token (Alike)

variable {c : Char} {l body before run behind other : List Char}

/-! ## Blanks and comments -/

/-- Blanks, block comments and line comments, each with its end. -/
inductive IsLayout : List Char → Prop
  | nil : IsLayout []
  | blank {c : Char} {l : List Char} : isBlank c = true → IsLayout l → IsLayout (c :: l)
  | line {c : Char} {body l : List Char} : '\n' ∉ body → '\r' ∉ body → c = '\n' ∨ c = '\r' →
      IsLayout l → IsLayout ('/' :: '/' :: (body ++ c :: l))
  | block {body l : List Char} : ¬ ['*', '/'] <:+: body →
      IsLayout l → IsLayout ('/' :: '*' :: (body ++ '*' :: '/' :: l))

/-- A pass over blanks reads a line comment up to the end of the line. -/
theorem blankRun_line (hline : '\n' ∉ body) (hreturn : '\r' ∉ body) (hc : c = '\n' ∨ c = '\r')
    (seen sure : Nat) : blankRun .line seen sure (body ++ c :: l) =
      blankRun .outside (seen + body.length + 1) (seen + body.length + 1) l := by
  induction body generalizing seen sure with
  | nil => simp only [List.nil_append, blankRun, if_pos hc, List.length_nil, Nat.add_zero]
  | cons d body ih =>
    rw [List.mem_cons, not_or] at hline hreturn
    have hd : ¬ (d = '\n' ∨ d = '\r') := not_or.mpr ⟨Ne.symm hline.1, Ne.symm hreturn.1⟩
    rw [List.cons_append, blankRun]
    simp only [if_neg hd]
    rw [ih hline.2 hreturn.2, List.length_cons, Nat.add_right_comm seen 1, Nat.add_assoc seen]

/-- A pass over blanks reads a block comment up to its end. -/
theorem blankRun_block {star : Bool} (hbody : ¬ ['*', '/'] <:+: body)
    (hstar : star = true → body.head? ≠ some '/') (seen sure : Nat) :
    blankRun (.block star) seen sure (body ++ '*' :: '/' :: l) =
      blankRun .outside (seen + body.length + 2) (seen + body.length + 2) l := by
  induction body generalizing star seen sure with
  | nil => simp [blankRun]
  | cons d body ih =>
    have hd : ¬ (star = true ∧ d = '/') := fun h => hstar h.1 (by rw [h.2]; rfl)
    have hnext : (d == '*') = true → body.head? ≠ some '/' := by
      intro hd hslash
      obtain ⟨rest, rfl⟩ := List.head?_eq_some_iff.mp hslash
      obtain rfl : d = '*' := eq_of_beq hd
      exact hbody ⟨[], rest, rfl⟩
    rw [List.cons_append, blankRun]
    simp only [if_neg hd]
    rw [ih (fun h => hbody (h.trans (List.infix_cons List.infix_rfl))) hnext, List.length_cons,
      Nat.add_right_comm seen 1, Nat.add_assoc seen]

/-- A pass that is between blanks again has skipped what it has read. -/
theorem pastBlanks_of_blankRun {text : List Char} {n : Nat} (hdrop : text.drop n = l)
    (h : blankRun .outside 0 0 text = blankRun .outside n n l) : pastBlanks text = pastBlanks l := by
  have hadd := blankRun_add .outside 0 0 n l
  rw [Nat.zero_add, ← h] at hadd
  have hlength : blankLength text = n + blankLength l := hadd.trans (Nat.add_comm _ _)
  rw [pastBlanks, hlength, ← List.drop_drop, hdrop, pastBlanks]

theorem pastBlanks_line (hline : '\n' ∉ body) (hreturn : '\r' ∉ body) (hc : c = '\n' ∨ c = '\r') :
    pastBlanks ('/' :: '/' :: (body ++ c :: l)) = pastBlanks l := by
  have hrun : blankRun .outside 0 0 ('/' :: '/' :: (body ++ c :: l)) =
      blankRun .line 2 2 (body ++ c :: l) := by
    cases body <;> rfl
  refine pastBlanks_of_blankRun ?_ (hrun.trans (blankRun_line hline hreturn hc 2 2))
  simp [Nat.add_assoc, Nat.add_comm 2]

theorem pastBlanks_block (hbody : ¬ ['*', '/'] <:+: body) :
    pastBlanks ('/' :: '*' :: (body ++ '*' :: '/' :: l)) = pastBlanks l := by
  have hrun : blankRun .outside 0 0 ('/' :: '*' :: (body ++ '*' :: '/' :: l)) =
      blankRun (.block false) 2 0 (body ++ '*' :: '/' :: l) := by
    cases body <;> rfl
  have hopen : false = true → body.head? ≠ some '/' := fun h => absurd h Bool.false_ne_true
  refine pastBlanks_of_blankRun ?_ (hrun.trans (blankRun_block hbody hopen 2 0))
  simp [Nat.add_assoc, Nat.add_comm 2]

/-- Layout is skipped, whatever stands behind it. -/
theorem IsLayout.pastBlanks_append (h : IsLayout l) (l' : List Char) :
    pastBlanks (l ++ l') = pastBlanks l' := by
  induction h with
  | nil => rfl
  | blank hc _ ih => rw [List.cons_append, pastBlanks_of_isBlank hc, ih]
  | line hline hreturn hc _ ih =>
    rw [List.cons_append, List.cons_append, List.append_assoc, List.cons_append,
      pastBlanks_line hline hreturn hc, ih]
  | block hbody _ ih =>
    rw [List.cons_append, List.cons_append, List.append_assoc, List.cons_append, List.cons_append,
      pastBlanks_block hbody, ih]

/-! ## The joint -/

/-- In the text `before ++ run ++ behind`, the grammar skips `run` between two tokens. -/
structure Skipped (before run behind : List Char) : Prop where
  gap : ∃ k ∈ programGaps (before ++ run ++ behind), k.rest = run ++ behind
  past : pastBlanks (run ++ behind) = behind

/-- Other layout where blanks are skipped. -/
def Joint.ofLayout (hskip : Skipped before run behind) (hrun : run ≠ []) (hother : IsLayout other)
    (hblank : other.head?.any isBlank = true) : Joint where
  left := run ++ behind
  right := other ++ behind
  blank := by
    cases other with
    | nil => cases hblank
    | cons c l => exact ⟨c, l ++ behind, rfl, by simpa using hblank⟩
  ended hnil := absurd (List.append_eq_nil_iff.mp hnil).1 hrun
  past _ := by
    have hfresh : blankLength behind = 0 := by
      rw [← hskip.past]
      exact blankLength_pastBlanks (run ++ behind)
    refine ⟨Nat.pos_of_ne_zero fun hzero => hrun ?_, ?_⟩
    · have hpast := hskip.past
      rw [pastBlanks_of_blankLength_eq_zero hzero] at hpast
      exact List.append_left_eq_self.mp hpast
    · rw [hother.pastBlanks_append, hskip.past, pastBlanks_of_blankLength_eq_zero hfresh]

/-! ## Programs -/

/-- A text that is read is read alike across a joint at one of its gaps: its statements are carried
over. -/
theorem exists_tokenOf_across {s : Joint} {t : Token} (hleft : s.left ≠ []) (ht : tokenOf l = .ok t)
    (hstarred : t.starred = false) (hgap : ∃ k ∈ programGaps l, k.rest = s.left) :
    ∃ t' u u' v v', tokenOf (s.across l) = .ok t' ∧ t.rule = .program ∧ t.inner = [u, v] ∧
      t'.rule = .program ∧ t'.inner = [u', v'] ∧ Alike s.across false [u] [u'] := by
  obtain ⟨d, hd, hd'⟩ : ∃ d, l.length < d + 1 ∧ (s.across l).length < d + 1 :=
    ⟨max l.length (s.across l).length, by omega, by omega⟩
  have hn := regular_readExpression (d + 1)
  obtain ⟨ts, k, hread⟩ := exists_accepts_of_tokenOf ht
  have hacc := hread.readExpression_of_lt (Nat.lt_succ_self l.length) hd
  obtain ⟨c, hc, hcleft⟩ := hgap
  rw [programGaps, gaps_readExpression_eq (Nat.lt_succ_self l.length) hd] at hc
  obtain ⟨_, -, htoken⟩ := (accepts_rule_iff hn.settled).mp hacc
  obtain rfl : ts = [] := (List.cons.inj htoken).2
  have hcrosses : program.Crosses s (readExpression (d + 1)) (expressionGaps (d + 1)) .free
      (.ofText l) [t] k :=
    ⟨hacc, .inr (by simp [Token.anyStarred, hstarred]), fun _ => .inr ⟨c, hc, hcleft⟩⟩
  -- the statements behind the first blanks, and the end behind the last ones
  obtain ⟨_, hbody, htoken⟩ := Crosses.rule hn rfl hcrosses
  obtain ⟨_, _, k₀, hnothing, hclear, hrest, rfl⟩ := Crosses.seq hn hbody
  obtain ⟨rfl, rfl⟩ := hnothing.accepts.unique (accepts_nothing _)
  obtain ⟨us, vs, k₁, hstatements, hclear', hend, rfl⟩ := Crosses.seq hn hrest
  obtain ⟨_, hstop, rfl⟩ := Crosses.rule hn rfl hend
  have hnil : (k₁.skip .free).rest = [] := (accepts_stop_iff.mp hstop.accepts).1
  have hbehind : s.Behind .free (fun k => k.rest = []) k₁ := ⟨hclear', hnil⟩
  have hcarries := carries_statements s d hleft
  have hquiet := hcarries.quiet rfl (Cursor.skip_idem .free (.ofText l)) hstatements hbehind
  have hmeets : (Cursor.ofText l).Meets s .free (.ofText (s.across l)) := .inl rfl
  obtain ⟨us', k₁', hstatements', hmeets', halike⟩ :=
    hcarries.carry (hmeets.skip hclear fun _ => hquiet) hstatements hbehind
  have hbegins := hmeets'.skip hclear' fun _ => .of_head? (by simp [hnil])
  have hnil' : (k₁'.skip .free).rest = [] := by
    rcases hbegins.meets with hrest | ⟨-, hempty, -⟩
    · rw [hrest, hnil, Joint.across_nil_of_ne hleft]
    · exact absurd hempty hleft
  obtain ⟨_, -, rfl⟩ := (accepts_rule_iff hn.settled).mp hstatements.accepts
  obtain ⟨_, -, rfl⟩ := (accepts_rule_iff hn.settled).mp hstatements'
  have hlt : ((Cursor.ofText (s.across l)).skip .free).rest.length ≤ (s.across l).length :=
    (Cursor.ofText (s.across l)).length_rest_skip
  obtain ⟨t', v', ht', hrule', hinner'⟩ :=
    exists_tokenOf_of_statements
      (hstatements'.readExpression_of_lt (by omega) (by omega)) hnil'
  obtain rfl := List.singleton_inj.mp htoken
  exact ⟨t', _, _, _, v', ht', rfl, rfl, hrule', hinner', halike⟩

/-- The tree of a program is that of its statements. -/
theorem Token.build_program_eq {t u v : Token} (hr : t.rule = .program) (ht : t.inner = [u, v])
    (limit depth : Nat) : t.build limit depth = u.build limit depth := by
  obtain ⟨r, start, length, inner⟩ := t
  obtain rfl : r = .program := hr
  obtain rfl : inner = [u, v] := ht
  rw [build, buildFirst]

/-- Blanks and comments that the grammar skips between two tokens may be replaced by any others that
begin with a blank: under every limit that is high enough the text is read as the same tree, but for
places. -/
theorem parseWithin_relaid {limit : Nat} {tree : Node}
    (h : parseWithin limit (String.ofList (before ++ run ++ behind)) = .ok tree)
    (hskip : Skipped before run behind) (hrun : run ≠ []) (hother : IsLayout other)
    (hblank : other.head?.any isBlank = true) :
    ∃ d, ∀ limit', d ≤ limit' → ∃ tree',
      parseWithin limit' (String.ofList (before ++ other ++ behind)) = .ok tree' ∧
        tree'.unplaced = tree.unplaced := by
  obtain ⟨t, htoken, hbuild⟩ := exists_token_of_parseWithin h
  rw [String.toList_ofList] at htoken
  have hstarred := Token.starred_of_formed (formed_of_tokenOf htoken).1 hbuild
  let s := Joint.ofLayout hskip hrun hother hblank
  have hleft : s.left ≠ [] := List.append_ne_nil_of_left_ne_nil hrun behind
  obtain ⟨t', u, u', v, v', htoken', hr, hinner, hr', hinner', halike⟩ :=
    exists_tokenOf_across hleft htoken hstarred hskip.gap
  have hacross : s.across (before ++ run ++ behind) = before ++ other ++ behind := by
    rw [List.append_assoc, List.append_assoc]
    exact s.across_append before
  rw [hacross] at htoken'
  have hshape : u.shape (fun _ => Position.first) = u'.shape fun _ => Position.first := by
    have hshapes := Token.shapes_comp_eq (fun _ => Position.first) _ _ halike.shapes
    exact (List.cons.inj hshapes).1
  refine ⟨max limit (before ++ other ++ behind).length, fun limit' hlimit => ?_⟩
  rw [Token.build_program_eq hr hinner] at hbuild
  obtain ⟨tree', hbuild', hmoved⟩ := Token.agrees_build (g := fun _ => .first) hshape
    (show limit + 0 ≤ limit' + 0 by omega) tree hbuild
  rw [← Token.build_program_eq hr' hinner'] at hbuild'
  rw [Node.moved_first, Node.moved_first] at hmoved
  refine ⟨tree', ?_, hmoved⟩
  have hopener : deepOpener? limit' (before ++ other ++ behind) = none :=
    deepOpener?_of_length_le (by omega)
  simp only [parseWithin, String.toList_ofList, hopener, htoken']
  exact hbuild'

/-- A block comment in the hole of a template gives way to a line comment with brackets and quotes. -/
theorem parseWithin_relaid_comment :
    let before := "`$\x7ba".toList
    let run := "/* ? */ ".toList
    let behind := "+ b\x7d`".toList
    let other := "\n// \x7b'[/*\n".toList
    (parseWithin 64 (String.ofList (before ++ run ++ behind))).isOk = true ∧
      Skipped before run behind ∧ run ≠ [] ∧ IsLayout other ∧ other.head?.any isBlank = true ∧
      ∃ tree d, parseWithin 64 (String.ofList (before ++ run ++ behind)) = .ok tree ∧
        ∀ limit', d ≤ limit' → ∃ tree',
          parseWithin limit' (String.ofList (before ++ other ++ behind)) = .ok tree' ∧
            tree'.unplaced = tree.unplaced := by
  intro before run behind other
  have hread : (parseWithin 64 (String.ofList (before ++ run ++ behind))).isOk = true := by
    decide +kernel
  have hgap : (programGaps (before ++ run ++ behind)).any (fun k => k.rest == run ++ behind) = true := by
    decide +kernel
  have hskip : Skipped before run behind := by
    refine ⟨?_, by decide +kernel⟩
    obtain ⟨k, hk, hrest⟩ := List.any_eq_true.mp hgap
    exact ⟨k, hk, eq_of_beq hrest⟩
  have hother : IsLayout other :=
    .blank rfl (@IsLayout.line '\n' " \x7b'[/*".toList [] (by decide) (by decide) (.inl rfl) .nil)
  have hrun : run ≠ [] := by decide
  have hblank : other.head?.any isBlank = true := by decide
  obtain ⟨tree, htree⟩ := exists_ok_of_isOk hread
  obtain ⟨d, hd⟩ := parseWithin_relaid htree hskip hrun hother hblank
  exact ⟨hread, hskip, hrun, hother, hblank, tree, d, htree, hd⟩

end ExprLang
