import ExprLang.Proofs.Tree.Limits
import ExprLang.Proofs.Tree.Single
import ExprLang.Proofs.Tree.Starred
import ExprLang.Proofs.Tree.Statements

/-!
# ExprLang.Proofs.Tree.Joined

Two texts with a semicolon between them.

The semicolon stands on a line of its own, so that whatever the first text ends with, its statements
are read in the joined text as they are read alone (`Series.carry`); and behind the semicolon those of
the second text are read (`Series.follow`).  So the tree of the joined text has the statements of both
(`parseWithin_joined`), those of the first text with their places.  There is an exception: if a
semicolon stands behind the statements of the first text already, there is nothing between it and the
next one, and the joined text is no program.
-/

namespace ExprLang

open ExprLang.Language Pattern
open Token (Alike)

/-! ## Series one after the other -/

section Series

variable {s : Joint} {n : Reader} {G : GapReader} {d : Nat} {k k₁ k₂ k' : Cursor}
  {ts us : List Token}

/-- A semicolon and a statement. -/
abbrev nextStatement : Pattern := .seq (word ";") statement

theorem Pattern.Repeated.of_left_eq_nil {x : Pattern} {sp : Spacing} (hleft : s.left = [])
    (h : Repeats n x ⟨sp, false⟩ k ts k') (hts : s.Admits ts) : Repeated s n G sp x k ts k' := by
  induction h with
  | done hrej => exact .done hrej
  | next hacc _ _ ih =>
    obtain ⟨hvs, hus⟩ := Joint.admits_append_iff.mp hts
    refine .next (fun _ => .inl ?_) (.of_left_eq_nil hleft hacc hus) (ih hvs)
    rw [Joint.Ahead, hleft]
    exact List.nil_suffix

/-- A semicolon with a statement behind it stands where an expression ends. -/
theorem atEnd_of_nextStatement (hn : n.Regular G)
    (h : Before s n G .free nextStatement Anywhere k ∨ AtEnd k) : AtEnd k := by
  rcases h with ⟨-, _, _, hacc, -⟩ | hend
  · exact .of_heads (Crosses.heads_of_text_seq hn (c := ';') rfl hacc) (by decide)
  · exact hend

theorem carries_nextStatement (s : Joint) (d : Nat) : Carries s (readExpression (d + 1))
    (expressionGaps (d + 1)) .free false nextStatement
    (s.Behind .free fun k => Before s (readExpression (d + 1)) (expressionGaps (d + 1)) .free
      nextStatement Anywhere k ∨ AtEnd k) := by
  have hmatched := matched_readExpression s (d + 1)
  exact .seq hmatched.regular (hmatched.atomic rfl) ((carries_statement s d).mono fun _ hk =>
    hk.mono fun _ _ => atEnd_of_nextStatement hmatched.regular)

/-- The statements of a text that is over are carried over, whatever statements follow. -/
theorem Series.carry {t : Tail} (h : Series (readExpression (d + 1)) (k₁.skip .free) ts k)
    (hts : t.joint.Admits ts) (hk : (k.skip .free).rest = []) (hk₁ : k₁.Meets t.joint .free k₂) :
    ∃ ts' k', k.Meets t.joint .free k' ∧ Alike t.joint.across false ts ts' ∧
      ∀ us k'', Repeats (readExpression (d + 1)) nextStatement .open k' us k'' →
        Series (readExpression (d + 1)) (k₂.skip .free) (us ++ ts') k'' := by
  obtain ⟨us, vs, k₀, hacc, hrep, rfl⟩ := h
  obtain ⟨hvs, hus⟩ := Joint.admits_append_iff.mp hts
  have hregular := regular_readExpression (d + 1)
  have hnext := carries_nextStatement t.joint d
  have hend : AtEnd (k.skip .free) := by
    rw [AtEnd, hk]
    decide
  have hrepeated := Repeated.of_left_eq_nil (G := expressionGaps (d + 1)) rfl hrep hvs
  have hbehind := Carries.behind_of_repeated hnext hrepeated (t.behind_joint hend)
  have hend₀ := atEnd_of_nextStatement hregular
    ((Joint.behind_of_skip (Cursor.skip_idem .free k₀)).mp hbehind)
  have hcrosses := Crosses.of_left_eq_nil (G := expressionGaps (d + 1)) (s := t.joint) rfl hacc hus
  have hquiet := (carries_statement t.joint d).quiet rfl (Cursor.skip_idem .free k₁) hcrosses
    (t.behind_joint hend₀)
  obtain ⟨us', k₀', hacc', hmeets, halike⟩ := (carries_statement t.joint d).carry
    (hk₁.skip (fun _ => .inl (t.ahead_joint _)) fun _ => hquiet) hcrosses (t.behind_joint hend₀)
  have hbegins := hmeets.skip (t.behind_joint hend₀).1 fun _ => hend₀.quiet
  obtain ⟨vs', k', hmeets', halike', happend⟩ := Carries.repeats_append hregular.proceeds rfl hnext
    (fun _ _ _ hk => hk.quiet) hbegins.meets hrepeated (t.behind_joint hend)
  refine ⟨vs' ++ us', k', hmeets', halike.append halike', fun ws k'' hrep' => ?_⟩
  exact ⟨us', ws ++ vs', k₀', hacc', happend ws k'' hrep', (List.append_assoc ws vs' us').symm⟩

/-- The statements of a text are read behind a semicolon in another. -/
theorem Series.follow (hn : n.Regular G) (h : Series n k₁ us k) {l : List Char}
    (hk₂ : (k₂.skip .free).rest = ';' :: l) (hl : pastBlanks l = k₁.rest) :
    ∃ us' k', Repeats n nextStatement .open k₂ us' k' ∧
      (k'.skip .free).rest = (k.skip .free).rest ∧ Alike id true us us' := by
  obtain ⟨as, bs, k₀, hacc, hrep, rfl⟩ := h
  have hword : (word ";").Accepts n .open (k₂.skip .free) [] ((k₂.skip .free).advance 1) :=
    accepts_text (w := [';']) hk₂
  have hrest : (((k₂.skip .free).advance 1).skip .free).rest = k₁.rest := by
    rw [Cursor.rest_skip, Cursor.rest_advance, hk₂]
    exact hl
  obtain ⟨as', k₀', hacc', hrest', has⟩ := (placeless hn.placeless statement).accepts
    (accepts_or_rejects hn.settled statement) (f := id) (fun _ _ => rfl) hrest hacc
  have hskip : (k₀'.skip .free).rest = (k₀.skip .free).rest := by
    rw [Cursor.rest_skip, Cursor.rest_skip, hrest']
  obtain ⟨bs', k₃, hmany, hrest₃, hbs⟩ := (placeless hn.placeless (.many nextStatement)).accepts
    (accepts_or_rejects hn.settled (.many nextStatement)) (f := id) (fun _ _ => rfl) hskip
    (accepts_many hrep k₀.skip_skip)
  obtain ⟨k', hrep', hend⟩ :=
    ((accepts_many_iff hn.settled hn.proceeds rfl k₀'.skip_skip).mp hmany).of_skip
  have hnext := accepts_seq hword hacc'
  have hlt : k₀'.rest.length < k₂.rest.length :=
    Nat.lt_of_lt_of_le (hnext.length_lt hn.proceeds rfl) k₂.length_rest_skip
  refine ⟨_, k', .next hnext hlt hrep', ?_, ?_⟩
  · rw [hend, Cursor.rest_skip, Cursor.rest_skip, hrest₃]
  · rw [List.append_nil]
    exact has.append hbs

/-- What follows a text that a semicolon on a line of its own joins to another. -/
def Tail.ofSemicolon (q : List Char) : Tail where
  chars := ';' :: '\n' :: q
  fresh := blankLength_cons (by decide) _
  ends := by simp [endings]

/-- The statements of two texts are the statements of the two texts joined. -/
theorem Series.join {p q : List Char} {k' : Cursor}
    (hp : Series (readExpression (d + 1)) ((Cursor.ofText p).skip .free) ts k)
    (hts : (Tail.ofSemicolon q).joint.Admits ts) (hk : (k.skip .free).rest = [])
    (hq : Series (readExpression (d + 1)) ((Cursor.ofText q).skip .free) us k') :
    ∃ ts' us' k'', Series (readExpression (d + 1))
        ((Cursor.ofText (p ++ '\n' :: ';' :: '\n' :: q)).skip .free) (us' ++ ts') k'' ∧
      (k''.skip .free).rest = (k'.skip .free).rest ∧
      Alike (Tail.ofSemicolon q).joint.across false ts ts' ∧ Alike id true us us' := by
  have hmeets : (Cursor.ofText p).Meets (Tail.ofSemicolon q).joint .free
      (.ofText (p ++ '\n' :: ';' :: '\n' :: q)) :=
    .inl ((Tail.ofSemicolon q).across_joint p).symm
  obtain ⟨ts', k₂, hmeets', halike, hseries⟩ := hp.carry hts hk hmeets
  have hend : AtEnd (k.skip .free) := by
    rw [AtEnd, hk]
    decide
  have hrest : (k₂.skip .free).rest = ';' :: '\n' :: q := by
    rw [(hmeets'.skip ((Tail.ofSemicolon q).behind_joint hend).1
      fun _ => hend.quiet).rest_eq_of_ended rfl hk, Tail.pastBlanks_joint]
    rfl
  have hpast : pastBlanks ('\n' :: q) = ((Cursor.ofText q).skip .free).rest := by
    rw [pastBlanks_of_isBlank rfl, Cursor.rest_skip]
    rfl
  obtain ⟨us', k'', hrep, hrest', halike'⟩ :=
    hq.follow (regular_readExpression (d + 1)) hrest hpast
  exact ⟨ts', us', k'', hseries us' k'' hrep, hrest', halike, halike'⟩

end Series

/-! ## Places -/

/-- The place in a text where `rest` is left. -/
def positionBefore (text rest : List Char) : Position :=
  Position.first.after (text.take (text.length - rest.length))

theorem Position.Marks.eq_positionBefore {text rest : List Char} {p : Position}
    (h : p.Marks text rest) : p = positionBefore text rest := by
  obtain ⟨read, rfl, rfl⟩ := h
  rw [positionBefore, List.length_append, Nat.add_sub_cancel, List.take_left]

theorem Position.Marks.append {text rest : List Char} {p : Position} (h : p.Marks text rest)
    (l : List Char) : p.Marks (text ++ l) (rest ++ l) := by
  obtain ⟨read, rfl, rfl⟩ := h
  exact ⟨read, List.append_assoc read rest l, rfl⟩

namespace Token

variable {α : Type} {f g : Cursor → α} {source : List Char} {t : Token} {ts us : List Token}

theorem Formed.inside (ht : t.Formed source) : ∀ u ∈ t.inner, u.Formed source := by
  cases ht with
  | mk place fits inside => exact inside

/-- The shape of a token of a text marks places of the text. -/
theorem Formed.shape_congr (h : ∀ k : Cursor, k.In source → f k = g k) (ht : t.Formed source) :
    t.shape f = t.shape g := by
  induction ht with
  | @mk r k len inner place fits inside ih =>
    have hinner : shapes f inner = shapes g inner := by
      rw [shapes_eq_map, shapes_eq_map]
      exact List.map_congr_left ih
    rw [shape, shape, h k place, hinner]

theorem shapes_congr (h : ∀ k : Cursor, k.In source → f k = g k)
    (hts : ∀ t ∈ ts, t.Formed source) : shapes f ts = shapes g ts := by
  rw [shapes_eq_map, shapes_eq_map]
  exact List.map_congr_left fun t ht => (hts t ht).shape_congr h

/-- Tokens before a joint stand at the same places in both texts. -/
theorem Alike.shapes_position {t : Tail} (h : Alike t.joint.across false ts us)
    (hts : ∀ t ∈ ts, t.Formed source) (hus : ∀ u ∈ us, u.Formed (source ++ '\n' :: t.chars)) :
    Token.shapes Cursor.position ts = Token.shapes Cursor.position us := by
  have hfirst := shapes_congr (f := Cursor.position)
    (g := positionBefore (source ++ '\n' :: t.chars) ∘ fun k => t.joint.across k.rest)
    (fun k hk => by
      rw [Function.comp_apply, t.across_joint]
      exact (Position.Marks.append hk _).eq_positionBefore) hts
  have hsecond := shapes_congr (f := Cursor.position)
    (g := positionBefore (source ++ '\n' :: t.chars) ∘ Cursor.rest)
    (fun k hk => Position.Marks.eq_positionBefore hk) hus
  rw [hfirst, hsecond]
  exact shapes_comp_eq _ ts us h.shapes

theorem buildAll_append (limit depth : Nat) (ts us : List Token) :
    buildAll limit depth (ts ++ us) = do
      let ns ← buildAll limit depth ts
      return ns ++ (← buildAll limit depth us) := by
  induction ts with
  | nil =>
    rw [List.nil_append, buildAll]
    cases buildAll limit depth us <;> rfl
  | cons t ts ih =>
    rw [List.cons_append, buildAll, buildAll, ih]
    cases t.build limit depth <;> cases buildAll limit depth ts <;>
      cases buildAll limit depth us <;> rfl

theorem buildAll_ne_nil {limit depth : Nat} {ns : List Node}
    (h : buildAll limit depth ts = .ok ns) (hts : ts ≠ []) : ns ≠ [] := by
  cases ts with
  | nil => exact absurd rfl hts
  | cons t ts =>
    rw [buildAll] at h
    cases ht : t.build limit depth with
    | error e =>
      rw [ht] at h
      cases h
    | ok n =>
      cases hall : buildAll limit depth ts with
      | error e =>
        rw [ht, hall] at h
        cases h
      | ok ms =>
        rw [ht, hall] at h
        cases h
        exact List.cons_ne_nil n ms

end Token

/-! ## Trees of several statements -/

/-- The tree of some statements: a single one stands for itself. -/
def Node.ofStatements (pos : Position) : List Node → Node
  | [n] => n
  | ns => .sequence pos ns

theorem Token.build_program_eq_map {t s v : Token} (hr : t.rule = .program) (ht : t.inner = [s, v])
    (hr' : s.rule = .statements) (limit depth : Nat) : t.build limit depth =
      (buildAll limit depth s.inner).map (Node.ofStatements s.position) := by
  obtain ⟨r, start, length, inner⟩ := t
  obtain ⟨r', start', length', inner'⟩ := s
  obtain rfl : r = .program := hr
  obtain rfl : r' = .statements := hr'
  obtain rfl : inner = [_, v] := ht
  rw [build, buildFirst, build]
  simp only [Token.inner]
  cases buildAll limit depth inner' with
  | error e => rfl
  | ok ns =>
    cases ns with
    | nil => rfl
    | cons n ns =>
      cases ns with
      | nil => rfl
      | cons m ms => rfl

/-- Two texts, with a semicolon on a line of its own between them. -/
def joined (p q : String) : String := p ++ "\n;\n" ++ q

theorem toList_joined (p q : String) :
    (joined p q).toList = p.toList ++ '\n' :: (Tail.ofSemicolon q.toList).chars := by
  simp [joined, Tail.ofSemicolon]

/-- Whether a semicolon stands behind the last statement of a text. -/
def endsInSemicolon (text : List Char) : Bool :=
  match (all [.text [], statement, .many (.seq (word ";") statement)]).read
    (readExpression (text.length + 1)) .open .empty ⟨.ofText text, []⟩ with
  | ⟨_, some ⟨k, _⟩⟩ => (k.skip .free).rest.head? == some ';'
  | _ => false

section Texts

variable {text : List Char} {t : Token} {limit : Nat} {ts : List Token} {k : Cursor} {n : Reader}

theorem endsInSemicolon_eq (h : (all [.text [], statement, .many nextStatement]).Accepts
    (readExpression (text.length + 1)) .open (.ofText text) ts k) :
    endsInSemicolon text = ((k.skip .free).rest.head? == some ';') := by
  obtain ⟨a, ha⟩ := h .empty []
  have hread : (all [.text [], statement, .many nextStatement]).read
      (readExpression (text.length + 1)) .open .empty ⟨.ofText text, []⟩ =
        ⟨a, some ⟨k, ts ++ []⟩⟩ := ha
  unfold endsInSemicolon
  rw [hread]

/-- A text that is read is a series, whatever the depth if it is enough. -/
theorem exists_series_of_tokenOf (h : tokenOf text = .ok t) {d : Nat} (hd : text.length < d) :
    ∃ s v ts k, t.rule = .program ∧ t.inner = [s, v] ∧ s.rule = .statements ∧
      s.inner = ts.reverse ∧
      Series (readExpression d) ((Cursor.ofText text).skip .free) ts k ∧ k.Closes ∧
      endsInSemicolon text = ((k.skip .free).rest.head? == some ';') := by
  obtain ⟨s, v, k₀, hr, ht, hacc, hrest⟩ := exists_statements_of_tokenOf h
  have hlength : ((Cursor.ofText text).skip .free).rest.length ≤ text.length :=
    (Cursor.ofText text).length_rest_skip
  have hdeep : statements.Accepts (readExpression d) .open ((Cursor.ofText text).skip .free) [s]
      k₀ :=
    hacc.readExpression_of_lt (by omega) (by omega)
  obtain ⟨ts, k, hseries, hcloses, hr', hs⟩ := exists_series (settled_readExpression d)
    (proceeds_readExpression d) hdeep hrest
  refine ⟨s, v, ts, k, hr, ht, hr', hs, hseries, hcloses, ?_⟩
  obtain ⟨us, vs, k₁, hstatement, hrep, rfl⟩ := hseries
  have hall : (all [.text [], statement, .many nextStatement]).Accepts (readExpression d) .open
      (.ofText text) _ k :=
    accepts_seq (accepts_nothing _) (accepts_seq hstatement (accepts_many hrep k₁.skip_skip))
  have hall' : (all [.text [], statement, .many nextStatement]).Accepts
      (readExpression (text.length + 1)) .open (.ofText text) (vs ++ us ++ []) k :=
    hall.readExpression_of_lt hd (Nat.lt_succ_self text.length)
  exact endsInSemicolon_eq hall'

theorem ne_nil_of_accepts_statement {d : Nat} {k' : Cursor}
    (h : statement.Accepts (readExpression d) .open k ts k') : ts ≠ [] := by
  rcases (accepts_either_iff (settled_readExpression d)).mp h with hacc | ⟨-, hacc⟩
  · obtain ⟨us, -, rfl⟩ := (accepts_rule_iff (settled_readExpression d)).mp hacc
    exact List.cons_ne_nil _ _
  · cases d with
    | zero =>
      obtain ⟨a, ha⟩ := hacc .empty []
      cases ha
    | succ d =>
      obtain ⟨us, -, rfl⟩ :=
        (accepts_rule_iff (settled_readExpression d)).mp (accepts_recurse_iff.mp hacc)
      exact List.cons_ne_nil _ _

theorem Series.ne_nil {d : Nat} {k' : Cursor} (h : Series (readExpression d) k ts k') : ts ≠ [] := by
  obtain ⟨us, vs, k₁, hstatement, -, rfl⟩ := h
  exact List.append_ne_nil_of_right_ne_nil vs (ne_nil_of_accepts_statement hstatement)

theorem exists_token_of_parseWithin {source : String} {tree : Node}
    (h : parseWithin limit source = .ok tree) :
    ∃ t, tokenOf source.toList = .ok t ∧ t.build limit 0 = .ok tree := by
  unfold parseWithin at h
  dsimp only at h
  split at h
  · cases h
  · cases htoken : tokenOf source.toList with
    | error e =>
      rw [htoken] at h
      cases h
    | ok t =>
      rw [htoken] at h
      exact ⟨t, rfl, h⟩

end Texts

/-- What a text is parsed as: the trees of its statements. -/
theorem exists_statements_of_parseWithin {source : String} {limit d : Nat} {tree : Node}
    (h : parseWithin limit source = .ok tree) (hd : source.toList.length < d) :
    ∃ pos ns ts k, tree = .ofStatements pos ns ∧ Token.buildAll limit 0 ts.reverse = .ok ns ∧
      (∀ t ∈ ts, t.Formed source.toList) ∧ Token.anyStarred ts = false ∧
      Series (readExpression d) ((Cursor.ofText source.toList).skip .free) ts k ∧ k.Closes ∧
      endsInSemicolon source.toList = ((k.skip .free).rest.head? == some ';') := by
  obtain ⟨t, htoken, hbuild⟩ := exists_token_of_parseWithin h
  obtain ⟨s, v, ts, k, hr, ht, hr', hs, hseries, hcloses, hends⟩ :=
    exists_series_of_tokenOf htoken hd
  have hformed := (formed_of_tokenOf htoken).1
  have hinside : ∀ u ∈ ts, u.Formed source.toList := by
    intro u hu
    refine (hformed.inside s ?_).inside u ?_
    · rw [ht]
      exact List.mem_cons_self
    · rw [hs]
      exact List.mem_reverse.mpr hu
  have hstarred := Token.anyStarred_inner (Token.starred_of_formed hformed hbuild)
  rw [ht, Token.anyStarred, Bool.or_eq_false_iff] at hstarred
  have hstarred' := Token.anyStarred_inner hstarred.1
  rw [hs, Token.anyStarred_eq_any, List.any_reverse, ← Token.anyStarred_eq_any] at hstarred'
  rw [Token.build_program_eq_map hr ht hr', hs] at hbuild
  cases hall : Token.buildAll limit 0 ts.reverse with
  | error e =>
    rw [hall] at hbuild
    cases hbuild
  | ok ns =>
    rw [hall] at hbuild
    cases hbuild
    exact ⟨_, ns, ts, k, rfl, hall, hinside, hstarred', hseries, hcloses, hends⟩

/-- Two texts that are parsed are parsed with a semicolon between them, unless the first one has
one at its end already or the brackets nest too deeply: the tree has the statements of the first text
where they were, and behind them those of the second. -/
theorem parseWithin_joined {limit : Nat} {p q : String} {first second : Node}
    (hp : parseWithin limit p = .ok first) (hq : parseWithin limit q = .ok second)
    (hend : endsInSemicolon p.toList = false)
    (hdeep : ¬ (parseWithin limit (joined p q)).TooDeep) :
    ∃ a b c ns ms ms', first = .ofStatements a ns ∧ second = .ofStatements b ms ∧ ms ≠ [] ∧
      Node.unplacedAll ms' = Node.unplacedAll ms ∧
      parseWithin limit (joined p q) = .ok (.ofStatements c (ns ++ ms')) := by
  have hlength : (joined p q).toList.length = p.toList.length + q.toList.length + 3 := by
    rw [toList_joined]
    simp only [Tail.ofSemicolon, List.length_append, List.length_cons]
    omega
  obtain ⟨a, ns, ts, k, rfl, hns, hts, hstarred, hseries, hcloses, hends⟩ :=
    exists_statements_of_parseWithin (d := (joined p q).toList.length + 1) hp (by omega)
  obtain ⟨b, ms, us, k', rfl, hms, -, -, hseries', hcloses', -⟩ :=
    exists_statements_of_parseWithin (d := (joined p q).toList.length + 1) hq (by omega)
  -- nothing is left behind the statements of the first text
  have hnil : (k.skip .free).rest = [] := by
    refine hcloses.resolve_right fun ⟨l, hl, _⟩ => ?_
    rw [hends, hl] at hend
    cases hend
  obtain ⟨ts', us', k'', hjoined, hrest, halike, halike'⟩ := hseries.join (.inr hstarred) hnil hseries'
  have hcloses'' : k''.Closes := by
    rw [Cursor.Closes, hrest]
    exact hcloses'
  have htext : (joined p q).toList = p.toList ++ '\n' :: ';' :: '\n' :: q.toList := toList_joined p q
  rw [← htext] at hjoined
  obtain ⟨s, k₃, hstatements, hrest₃, hr, hs⟩ := hjoined.accepts_statements hcloses''
  obtain ⟨t, v, htoken, hrt, hinner⟩ := exists_tokenOf_of_statements hstatements hrest₃
  have hformed : ∀ u ∈ us' ++ ts', u.Formed (joined p q).toList := by
    intro u hu
    refine ((formed_of_tokenOf htoken).1.inside s ?_).inside u ?_
    · rw [hinner]
      exact List.mem_cons_self
    · rw [hs]
      exact List.mem_reverse.mpr hu
  -- the statements of the first text stand where they were
  have hplaces : Token.shapes Cursor.position ts = Token.shapes Cursor.position ts' := by
    refine halike.shapes_position hts fun u hu => ?_
    have hu' := hformed u (List.mem_append_right us' hu)
    rwa [htext] at hu'
  obtain ⟨ns', hns', hmoved⟩ := (Token.builtAlike_tokens (g := id) ts.reverse ts'.reverse
    (Token.shapes_reverse_eq hplaces) (Nat.le_refl (limit + 0))).1 ns hns
  rw [Node.movedAll_id, Node.movedAll_id] at hmoved
  subst hmoved
  obtain ⟨ms', hms', hmoved⟩ := (Token.builtAlike_tokens (g := fun _ => .first) us.reverse us'.reverse
    (Token.shapes_comp_eq (fun _ => Position.first) _ _ halike'.shapes_reverse)
    (Nat.le_refl (limit + 0))).1 ms hms
  rw [Node.movedAll_first, Node.movedAll_first] at hmoved
  refine ⟨a, b, s.position, ns', ms, ms', rfl, rfl, ?_, hmoved, ?_⟩
  · exact Token.buildAll_ne_nil hms (by simpa using hseries'.ne_nil)
  · have hbuild : t.build limit 0 = .ok (.ofStatements s.position (ns' ++ ms')) := by
      rw [Token.build_program_eq_map hrt hinner hr, hs, List.reverse_append, Token.buildAll_append,
        hns', hms']
      rfl
    cases hopener : deepOpener? limit (joined p q).toList with
    | some p => exact absurd ⟨limit, p, by simp only [parseWithin, hopener]⟩ hdeep
    | none =>
      simp only [parseWithin, hopener, htoken]
      exact hbuild

end ExprLang
