import ExprLang.Proofs.Tree.Phrase

/-!
# ExprLang.Proofs.Tree.Atoms

Reading the operands and keys that are one lexeme: names, captures, keywords and string literals.
Each is read to its end, since nothing that continues it can follow, and the token it leaves stands
for its node whatever the limit (`Token.Means`).  What is built of a literal is at the place of its
token, be it a node or a fault (`Token.literalBuild_cases`).
-/

namespace ExprLang

open ExprLang.Language Pattern

/-! ## Cursors and tokens -/

/-- The characters of a token are those between the two cursors. -/
theorem Token.chars_mk_advance {k : Cursor} {w l : List Char} (hk : k.rest = w ++ l) (r : Rule)
    (ts : List Token) :
    (Token.mk r k ((k.advance w.length).offset - k.offset) ts).chars = w := by
  have hlen : (k.advance w.length).offset - k.offset = w.length := by
    rw [Cursor.offset_advance, hk, List.length_append]
    omega
  rw [Token.chars, Token.start, Token.length, hlen, hk, List.take_left]

/-- Whether a token is an operand or part of one, and no operator or step. -/
def Token.isOperand (t : Token) : Bool :=
  match t.rule with
  | .unary _ | .between _ | .field _ | .index _ | .call _ => false
  | _ => true

theorem Token.pieces_of_isOperand {t : Token} (ht : t.isOperand = true) (limit depth : Nat) :
    Token.pieces limit depth [t] = [.operand (t.build limit depth)] := by
  rw [Token.pieces, Token.pieces]
  unfold Token.isOperand at ht
  cases hr : t.rule <;> simp_all

/-- The token is an operand that stands for a tree, given up to places, if the limit is large
enough. -/
def Token.Means (t : Token) (n : Node) : Prop :=
  t.isOperand = true ∧ ∃ d, ∀ limit depth, depth + d ≤ limit →
    ∃ n', t.build limit depth = .ok n' ∧ n'.unplaced = n

/-! ## Literals -/

/-- The rules of literals: what these stand for is in their characters alone. -/
def Rule.isLiteral : Rule → Bool
  | .number | .string | .templateText | .regexp | .literal => true
  | _ => false

namespace Token

variable {t : Token}

/-- What is built of a literal. -/
def literalBuild (t : Token) : Parsed Node :=
  match t.rule with
  | .number => t.numberNode
  | .string => t.stringNode
  | .templateText => t.templateTextNode
  | .regexp => t.regexpNode
  | _ => t.literalNode

theorem build_of_isLiteral (ht : t.rule.isLiteral = true) (limit depth : Nat) :
    t.build limit depth = t.literalBuild := by
  obtain ⟨r, k, len, inner⟩ := t
  cases r <;> first | (cases ht; done) | rw [build]; rfl

/-- A literal comes to a value written out where its token stands, or to a fault placed there. -/
theorem literalBuild_cases (t : Token) :
    (∃ n, t.literalBuild = .ok n ∧ n.position = t.position ∧
      (n.kind = .number ∨ n.kind = .string ∨ n.kind = .regexp ∨ n.kind = .literal)) ∨
    ∃ e, t.literalBuild = .error e ∧ e.position = t.position := by
  unfold literalBuild
  split
  · rw [numberNode]
    split
    · exact .inl ⟨_, rfl, rfl, .inl rfl⟩
    · exact .inr ⟨_, rfl, rfl⟩
  · rw [stringNode]
    split
    · exact .inl ⟨_, rfl, rfl, .inr (.inl rfl)⟩
    · exact .inr ⟨_, rfl, rfl⟩
  · rw [templateTextNode]
    split
    · exact .inl ⟨_, rfl, rfl, .inr (.inl rfl)⟩
    · exact .inr ⟨_, rfl, rfl⟩
  · rw [regexpNode]
    split
    · split
      · exact .inl ⟨_, rfl, rfl, .inr (.inr (.inl rfl))⟩
      · exact .inr ⟨_, rfl, rfl⟩
    · exact .inr ⟨_, rfl, rfl⟩
  · rw [literalNode]
    split
    · exact .inl ⟨_, rfl, rfl, .inr (.inr (.inr rfl))⟩
    · exact .inr ⟨_, rfl, rfl⟩

end Token

namespace Pattern

variable {n : Reader} {m : Mode} {k : Cursor} {w l : List Char} {x : Pattern}

/-! ## Names -/

/-- As many characters of a class as there are. -/
theorem accepts_many_one {f : Char → Bool} (hm : m.spacing ≠ .free) (hk : k.rest = w ++ l)
    (hw : w.all f = true) (hl : l.head?.any f = false) :
    (many (one f)).Accepts n m k [] (k.advance w.length) := by
  refine accepts_many ?_ (Cursor.skip_of_ne_free hm k)
  induction w generalizing k with
  | nil =>
    refine .done (rejects_one fun c l' hc => ?_)
    rw [Cursor.skip_of_ne_free hm, hk, List.nil_append] at hc
    rw [hc] at hl
    exact hl
  | cons c w ih =>
    rw [List.all_cons, Bool.and_eq_true] at hw
    have hrest : (k.advance 1).rest = w ++ l := by
      rw [Cursor.rest_advance, hk]
      rfl
    have hone : (one f).Accepts n m (k.skip m.spacing) [] (k.advance 1) := by
      rw [Cursor.skip_of_ne_free hm]
      exact accepts_one hk hw.1
    have hlt : (k.advance 1).rest.length < k.rest.length := by
      rw [hrest, hk]
      exact Nat.lt_succ_self _
    have hnext := Repeats.next hone hlt (ih hrest hw.2)
    rw [List.length_cons, Cursor.advance_succ]
    exact hnext

/-- The body of a name. -/
theorem accepts_nameBody (hm : m.spacing ≠ .free) (hk : k.rest = w ++ l) (hw : isName w = true)
    (hl : l.head?.any isNamePart = false) :
    (seq (one isNameStart) (many (one isNamePart))).Accepts n m k [] (k.advance w.length) := by
  cases w with
  | nil => cases hw
  | cons c w =>
    rw [isName, Bool.and_eq_true] at hw
    have hrest : (k.advance 1).rest = w ++ l := by
      rw [Cursor.rest_advance, hk]
      rfl
    have hone : (one isNameStart).Accepts n m k [] (k.advance 1) := accepts_one hk hw.1
    have hseq := accepts_seq hone
      (by rw [Cursor.skip_of_ne_free hm]; exact accepts_many_one hm hrest hw.2 hl)
    rw [List.length_cons, Cursor.advance_succ]
    exact hseq

theorem head?_of_isName (hw : isName w = true) : ∃ c, w.head? = some c ∧ isNameStart c = true := by
  cases w with
  | nil => cases hw
  | cons c w =>
    rw [isName, Bool.and_eq_true] at hw
    exact ⟨c, rfl, hw.1⟩

theorem all_isNamePart (hw : isName w = true) : w.all isNamePart = true := by
  cases w with
  | nil => rfl
  | cons c w =>
    rw [isName, Bool.and_eq_true] at hw
    rw [List.all_cons, isNamePart, hw.1, hw.2]
    rfl

/-! ## Keywords -/

/-- Of some words the first that is ahead is read, and none if none is. -/
theorem choice_words (n : Reader) (m : Mode) (k : Cursor) (ss : List String) :
    (choice (ss.map word)).Rejects n m k ∧ (∀ s ∈ ss, s.toList.isPrefixOf k.rest = false) ∨
      ∃ s ∈ ss, (∃ l, k.rest = s.toList ++ l) ∧
      (choice (ss.map word)).Accepts n m k [] (k.advance s.toList.length) := by
  induction ss with
  | nil => exact .inl ⟨rejects_one fun _ _ _ => rfl, by simp⟩
  | cons s ss ih =>
    cases hs : s.toList.isPrefixOf k.rest with
    | true =>
      obtain ⟨l, hl⟩ := List.isPrefixOf_iff_prefix.mp hs
      refine .inr ⟨s, List.mem_cons_self, ⟨l, hl.symm⟩, ?_⟩
      cases ss with
      | nil => exact accepts_text hl.symm
      | cons s' ss => exact accepts_either_left (accepts_text hl.symm)
    | false =>
      have hreject : (word s).Rejects n m k := rejects_text hs
      rcases ih with ⟨ih, hnone⟩ | ⟨s', hs', hl, ih⟩
      · refine .inl ⟨?_, by simpa [hs] using hnone⟩
        cases ss with
        | nil => exact hreject
        | cons s' ss => exact rejects_either hreject ih
      · refine .inr ⟨s', List.mem_cons_of_mem s hs', hl, ?_⟩
        cases ss with
        | nil => cases hs'
        | cons s'' ss => exact accepts_either_right hreject ih

/-- A name that is no keyword does not begin with one either: it goes on as a name. -/
theorem rejects_keywordBody (hm : m.spacing ≠ .free) (hk : k.rest = w ++ l)
    (hw : w.all isNamePart = true) (hplain : w ∉ keywords.map String.toList)
    (hl : l.head?.any isNamePart = false) : keywordBody.Rejects n m k := by
  rcases choice_words n m k keywords with ⟨hreject, -⟩ | ⟨s, hs, ⟨l', hl'⟩, haccept⟩
  · exact rejects_seq hreject
  · have hne : s.toList ≠ w := fun heq => hplain (heq ▸ List.mem_map_of_mem hs)
    have hparts : s.toList.all isNamePart = true := by
      have hall : keywords.all (fun s => s.toList.all isNamePart) = true := by decide
      exact List.all_eq_true.mp hall s hs
    -- the keyword ends inside the name, which has another character there
    obtain ⟨c, w', hc, hpart⟩ : ∃ c w', l' = c :: w' ∧ isNamePart c = true := by
      rw [hk, List.append_eq_append_iff] at hl'
      rcases hl' with ⟨v, hv, hvl⟩ | ⟨v, hv, hvl⟩
      · cases v with
        | nil => exact absurd (by rw [hv, List.append_nil]) hne
        | cons c v =>
          rw [hv, List.all_append, Bool.and_eq_true, List.all_cons, Bool.and_eq_true] at hparts
          rw [hvl] at hl
          exact absurd hl (by simpa using hparts.2.1)
      · cases v with
        | nil => exact absurd (by rw [hv, List.append_nil]) hne
        | cons c v =>
          rw [hv, List.all_append, Bool.and_eq_true, List.all_cons, Bool.and_eq_true] at hw
          exact ⟨c, v ++ l, hvl, hw.2.1⟩
    refine rejects_seq_right haccept (rejects_unless (accepts_one (l := w') ?_ hpart))
    rw [Cursor.skip_of_ne_free hm, Cursor.rest_advance, hl', List.drop_left, hc]

/-- A keyword to its end. -/
theorem accepts_keywordBody (hm : m.spacing ≠ .free) {s : String} (hs : s ∈ keywords)
    (hk : k.rest = s.toList ++ l) (hl : l.head?.any isNamePart = false) :
    keywordBody.Accepts n m k [] (k.advance s.toList.length) := by
  have hunless : (Pattern.unless (one isNamePart)).Accepts n m
      ((k.advance s.toList.length).skip m.spacing) [] (k.advance s.toList.length) := by
    rw [Cursor.skip_of_ne_free hm]
    refine accepts_unless (rejects_one fun c l' hc => ?_)
    rw [Cursor.rest_advance, hk, List.drop_left] at hc
    rw [hc] at hl
    exact hl
  rcases choice_words n m k keywords with ⟨-, hnone⟩ | ⟨s', hs', ⟨l', hl'⟩, haccept⟩
  · have hprefix : s.toList.isPrefixOf k.rest = true :=
      List.isPrefixOf_iff_prefix.mpr ⟨l, hk.symm⟩
    rw [hnone s hs] at hprefix
    cases hprefix
  · -- no two keywords begin with the same letter
    have hheads : keywords.all (fun s => keywords.all fun s' =>
        (s == s' || s.toList.head? != s'.toList.head?) && s.toList.head?.isSome) = true := by decide
    have hss' := List.all_eq_true.mp (List.all_eq_true.mp hheads s hs) s' hs'
    have hs's := List.all_eq_true.mp (List.all_eq_true.mp hheads s' hs') s hs
    have heq : s = s' := by
      cases hc : s.toList with
      | nil => simp [hc] at hss'
      | cons c w =>
        cases hc' : s'.toList with
        | nil => simp [hc'] at hs's
        | cons c' w' =>
          rw [hk, hc, hc', List.cons_append, List.cons_append, List.cons.injEq] at hl'
          simpa [hc, hc', hl'.1] using hss'
    subst heq
    exact accepts_seq haccept hunless

/-! ## String literals -/

/-- What stands between two quotes, up to the second. -/
theorem accepts_quotable (hm : m.spacing ≠ .free) {q : Char} (hq : q ≠ '\\')
    (hw : isQuotable q w = true) (hk : k.rest = w ++ q :: l) :
    (many (either (noneOf [q, '\\']) escaped)).Accepts n m k [] (k.advance w.length) := by
  refine accepts_many ?_ (Cursor.skip_of_ne_free hm k)
  induction w using isQuotable.induct generalizing k with
  | case1 =>
    rw [List.nil_append] at hk
    refine .done ?_
    rw [Cursor.skip_of_ne_free hm]
    refine rejects_either (rejects_one fun c l' hc => ?_) (rejects_seq (rejects_text ?_))
    · rw [hk, List.cons.injEq] at hc
      simp [← hc.1]
    · simp [hk, List.isPrefixOf, Ne.symm hq]
  | case2 => simp [isQuotable] at hw
  | case3 c w ih =>
    have hrest : ((k.advance 1).advance 1).rest = w ++ q :: l := by
      rw [Cursor.rest_advance, Cursor.rest_advance, hk]
      rfl
    have hescaped : escaped.Accepts n m k [] ((k.advance 1).advance 1) := by
      have hslash : (word "\\").Accepts n m k [] (k.advance 1) := accepts_text hk
      have hany : anyChar.Accepts n m (k.advance 1) [] ((k.advance 1).advance 1) :=
        accepts_one (by rw [Cursor.rest_advance, hk]; rfl) rfl
      exact accepts_seq hslash (by rw [Cursor.skip_of_ne_free hm]; exact hany)
    have hplain : (noneOf [q, '\\']).Rejects n m k := rejects_one fun c l' hc => by
      rw [hk, List.cons_append, List.cons.injEq] at hc
      simp [← hc.1]
    have hlt : ((k.advance 1).advance 1).rest.length < k.rest.length := by
      rw [hrest, hk]
      simp only [List.cons_append, List.length_cons]
      omega
    rw [isQuotable, if_pos rfl] at hw
    have heither := accepts_either_right hplain hescaped
    have hnext := Repeats.next (by rw [Cursor.skip_of_ne_free hm]; exact heither) hlt (ih hw hrest)
    rw [List.length_cons, List.length_cons, Cursor.advance_succ, Cursor.advance_succ]
    exact hnext
  | case4 c w hc ih =>
    unfold isQuotable at hw
    rw [if_neg hc, Bool.and_eq_true, bne_iff_ne] at hw
    have hrest : (k.advance 1).rest = w ++ q :: l := by
      rw [Cursor.rest_advance, hk]
      rfl
    have hone : (noneOf [q, '\\']).Accepts n m k [] (k.advance 1) :=
      accepts_one hk (by simp [hw.1, hc])
    have hlt : (k.advance 1).rest.length < k.rest.length := by
      rw [hrest, hk]
      exact Nat.lt_succ_self _
    have hnext := Repeats.next (by rw [Cursor.skip_of_ne_free hm]; exact accepts_either_left hone)
      hlt (ih hw.2 hrest)
    rw [List.length_cons, Cursor.advance_succ]
    exact hnext

/-- A string literal with its quotes. -/
theorem accepts_quotes {r : Rule} {q : Char} (hq : q ≠ '\\') {s : String} (hs : s.toList = [q])
    (hw : isQuotable q w = true) (hk : k.rest = q :: (w ++ q :: l)) :
    (all [word s, quotedBody r q, word s]).Accepts n ⟨.tight, false⟩ k
      [.mk r (k.advance 1) (((k.advance 1).advance w.length).offset - (k.advance 1).offset) []]
      (k.advance (w.length + 2)) := by
  have hword : ∀ {k : Cursor} {l}, k.rest = q :: l →
      (word s).Accepts n ⟨.tight, false⟩ k [] (k.advance 1) := by
    intro k l hk
    rw [word, hs]
    exact accepts_text hk
  have hopen := hword hk
  have hrest : (k.advance 1).rest = w ++ q :: l := by
    rw [Cursor.rest_advance, hk]
    rfl
  have hbody : (quotedBody r q).Accepts n ⟨.tight, false⟩ (k.advance 1) _ _ :=
    accepts_rule rfl (accepts_quotable (by decide) hq hw hrest)
  have hclose := hword (k := (k.advance 1).advance w.length)
    (by rw [Cursor.rest_advance, hrest, List.drop_left])
  have hseq := accepts_seq hopen (accepts_seq hbody hclose)
  have hend : ((k.advance 1).advance w.length).advance 1 = k.advance (w.length + 2) := by
    rw [Cursor.advance_advance, Cursor.advance_advance]
    congr 1
    omega
  rw [hend] at hseq
  exact hseq

/-! ## Between blanks -/

variable {L : List Lexeme}

theorem not_isNameStart {cs : List Char} (hcs : cs.all (fun c => !isNameStart c) = true)
    {c d : Char}
    (hd : d ∈ cs) (hc : isNameStart c = true) : d ≠ c := by
  rintro rfl
  simpa [hc] using List.all_eq_true.mp hcs d hd

/-- Names are read by the last alternatives of an operand. -/
theorem eats_of_isNameStart {c : Char} (hc : isNameStart c = true) :
    ∀ x ∈ [grouped, template, array, object, regexp, number, string],
      (x.eats (some c) || x.idles (some c)) = false := by
  have hsigns := @not_isNameStart ['(', '\x60', '[', '\x7b', '/', '-', '.', '"', '\x27', '0']
    (by decide) c
  have hdigit : isDigit c = false := by
    have hle : ∀ a b : Char, a ≤ b ↔ a.toNat ≤ b.toNat := fun _ _ => Iff.rfl
    simp [isNameStart, isLetter, isDigit, hle] at hc ⊢
    rcases hc with hc | rfl
    · omega
    · decide
  intro x hx
  simp only [List.mem_cons, List.not_mem_nil, or_false] at hx
  rcases hx with rfl | rfl | rfl | rfl | rfl | rfl | rfl
  all_goals
    simp [grouped, template, array, object, regexp, number, string, radixNumber, decimal, digits,
      oneOrMore, Pattern.choice, all, word, eats, idles, hsigns, hc, hdigit]

theorem refuses_of_isNameStart {w : Lexeme} {c : Char} (hw : w.chars.head? = some c)
    (hc : isNameStart c = true) :
    ∀ x ∈ [grouped, template, array, object, regexp, number, string], x.Refuses n (w :: L) :=
  fun x hx => .of_head hw (eats_of_isNameStart hc x hx)

theorem takes_name (w : Name) (hl : l.head?.any isNamePart = false) :
    name.TakesOne n (w.chars ++ l) (pastBlanks l)
      (·.Means (.identifier .first (String.ofList w.chars))) := by
  refine .chars w.lexeme.chars_ne_nil fun k hk => ?_
  refine ⟨_, accepts_rule rfl (accepts_nameBody (by decide) hk w.valid hl), _, rfl, rfl, 0,
    fun limit depth _ => ⟨.identifier k.position (String.ofList w.chars), ?_, rfl⟩⟩
  show Except.ok (Node.identifier k.position (Token.text _)) = _
  rw [Token.text, Token.chars_mk_advance hk]

theorem reads_name (w : Name) (L : List Lexeme) : name.ReadsOne n (w.lexeme :: L) L
    (·.Means (.identifier .first (String.ofList w.chars))) :=
  .of_takes (takes_name w (isNamePart_head?_gapped L))

theorem means_string {r : Rule} {k k₁ : Cursor} {len : Nat} {body text : List Char}
    (hk : k₁.rest = body ++ l) (hbody : unescape body = .ok text) :
    (Token.mk .string k len
      [.mk r k₁ ((k₁.advance body.length).offset - k₁.offset) []]).Means
      (.string .first (String.ofList text)) := by
  refine ⟨rfl, 0, fun limit depth _ => ⟨.string k.position (String.ofList text), ?_, rfl⟩⟩
  show Token.stringNode _ = _
  rw [Token.stringNode, Token.inner, Token.firstChars, Token.chars_mk_advance hk, hbody]
  rfl

theorem reads_string (s : StringLiteral) (L : List Lexeme) : string.ReadsOne n (s.lexeme :: L) L
    (·.Means (.string .first (String.ofList s.text))) := by
  refine .lexeme fun k hk => ?_
  have hrest : k.rest = s.quote :: (s.body ++ s.quote :: gapped L) := by
    rw [hk]
    show s.quote :: (s.body ++ [s.quote]) ++ gapped L = _
    rw [List.cons_append, List.append_assoc, List.singleton_append]
  have hbody : (k.advance 1).rest = s.body ++ s.quote :: gapped L := by
    rw [Cursor.rest_advance, hrest]
    rfl
  have hlen : s.lexeme.chars.length = s.body.length + 2 := by
    show (s.quote :: (s.body ++ [s.quote])).length = _
    rw [List.length_cons, List.length_append, List.length_singleton]
  rw [hlen]
  have hvalid := s.valid
  cases hdouble : s.double with
  | true =>
    have hquote : s.quote = '"' := by rw [StringLiteral.quote, hdouble, if_pos rfl]
    rw [hdouble, if_pos rfl] at hvalid
    rw [hquote] at hrest
    exact ⟨_, accepts_rule rfl (accepts_either_left (accepts_quotes (by decide) rfl hvalid hrest)),
      _, rfl, means_string hbody s.denotes⟩
  | false =>
    have hquote : s.quote = '\x27' := by rw [StringLiteral.quote, hdouble]; rfl
    rw [hdouble, if_neg (by decide)] at hvalid
    rw [hquote] at hrest
    have hother : (all [word "\"", quotedBody .doubleQuoted '"', word "\""]).Rejects n
        ⟨.tight, false⟩ k := rejects_seq (rejects_text (by rw [hrest]; rfl))
    exact ⟨_, accepts_rule rfl (accepts_either_right hother
      (accepts_quotes (by decide) rfl hvalid hrest)), _, rfl, means_string hbody s.denotes⟩

/-- What a variable's token stands for, plain or not. -/
theorem means_variable (hk : k.rest = w ++ l) :
    (Token.mk .variable k ((k.advance w.length).offset - k.offset) []).Means
      (.var .first (String.ofList w)) := by
  refine ⟨rfl, 0, fun limit depth _ => ⟨.var k.position (String.ofList w), ?_, rfl⟩⟩
  show Except.ok (Node.var k.position (Token.text _)) = _
  rw [Token.text, Token.chars_mk_advance hk]

/-- A plain name is no keyword, and begins with none. -/
theorem accepts_plainName (w : PlainName) (hk : k.rest = w.chars ++ l)
    (hl : l.head?.any isNamePart = false) (ahead : Bool) :
    (seq (.unless (rule .keyword .lexeme keywordBody)) name).Accepts n ⟨.sealed, ahead⟩ k []
      (k.advance w.chars.length) := by
  have hkeyword : (Pattern.unless (rule .keyword .lexeme keywordBody)).Accepts n ⟨.sealed, ahead⟩
      k [] k :=
    accepts_unless (rejects_rule
      (rejects_keywordBody (fun h => by cases h) hk (all_isNamePart w.valid) w.plain hl))
  have hname : name.Accepts n ⟨.sealed, ahead⟩ k [] (k.advance w.chars.length) := by
    refine accepts_rule_silent ?_ (accepts_nameBody (fun h => by cases h) hk w.valid hl)
    cases ahead <;> rfl
  exact accepts_seq hkeyword hname

theorem accepts_variableName (w : PlainName) (hk : k.rest = w.chars ++ l)
    (hl : l.head?.any isNamePart = false) : variableName.Accepts n .open k
      [.mk .variable k ((k.advance w.chars.length).offset - k.offset) []]
      (k.advance w.chars.length) := by
  obtain ⟨c, hc, hstart⟩ := head?_of_isName w.valid
  have hdollar : (seq (word "$") (oneOrMore (one isNamePart))).Rejects n ⟨.sealed, false⟩ k := by
    have hne := not_isNameStart (by decide) (List.mem_singleton_self '$') hstart
    obtain ⟨chars, hchars⟩ := List.head?_eq_some_iff.mp hc
    refine rejects_seq (rejects_text ?_)
    rw [hk, hchars]
    simp [List.isPrefixOf, hne]
  have hidentifier : identifier.Accepts n ⟨.sealed, false⟩ k [] (k.advance w.chars.length) :=
    accepts_rule_silent rfl (accepts_plainName w hk hl false)
  have hrule : variableName.Accepts n .open k _ _ :=
    accepts_rule rfl (accepts_either_right hdollar hidentifier)
  exact hrule

theorem takes_variableName (w : PlainName) (hl : l.head?.any isNamePart = false) :
    variableName.TakesOne n (w.chars ++ l) (pastBlanks l)
      (·.Means (.var .first (String.ofList w.chars))) :=
  .chars w.lexeme.chars_ne_nil fun _ hk =>
    ⟨_, accepts_variableName w hk hl, _, rfl, means_variable hk⟩

theorem reads_plainName (w : PlainName) (L : List Lexeme) : variableName.ReadsOne n (w.lexeme :: L) L
    (·.Means (.var .first (String.ofList w.chars))) :=
  .of_takes (takes_variableName w (isNamePart_head?_gapped L))

theorem reads_capture (w : CaptureName) (L : List Lexeme) : variableName.ReadsOne n (w.lexeme :: L) L
    (·.Means (.var .first (String.ofList ('$' :: w.chars)))) := by
  refine .lexeme fun k hk => ?_
  obtain ⟨chars, valid⟩ := w
  cases chars with
  | nil => cases valid
  | cons c chars =>
    have hrest : (k.advance 1).rest = c :: (chars ++ gapped L) := by
      rw [Cursor.rest_advance, hk]
      rfl
    have hrest' : ((k.advance 1).advance 1).rest = chars ++ gapped L := by
      rw [Cursor.rest_advance, hrest]
      rfl
    have hparts := valid
    rw [Bool.and_eq_true, List.all_cons, Bool.and_eq_true] at hparts
    have hdollar : (word "$").Accepts n ⟨.sealed, false⟩ k [] (k.advance 1) := accepts_text hk
    have hone : (one isNamePart).Accepts n ⟨.sealed, false⟩ (k.advance 1) []
        ((k.advance 1).advance 1) := accepts_one hrest hparts.2.1
    have hmany := accepts_many_one (n := n) (m := ⟨.sealed, false⟩) (by decide) hrest' hparts.2.2
      (isNamePart_head?_gapped L)
    have hseq := accepts_seq hdollar (accepts_seq hone hmany)
    have hlen : 1 + (1 + chars.length) = (CaptureName.lexeme ⟨c :: chars, valid⟩).chars.length := by
      show _ = ('$' :: c :: chars).length
      simp only [List.length_cons]
      omega
    rw [Cursor.advance_advance, Cursor.advance_advance, hlen] at hseq
    exact ⟨_, accepts_rule rfl (accepts_either_left hseq), _, rfl, means_variable hk⟩

theorem reads_keyword (w : Keyword) (L : List Lexeme) : literal.ReadsOne n (w.lexeme :: L) L
    (·.Means (.literal .first w.value)) := by
  refine .lexeme fun k hk => ?_
  have hmem : w.word ∈ keywords := by cases w <;> decide
  have hbody := accepts_keywordBody (n := n) (m := ⟨.sealed, false⟩) (by decide) hmem hk
    (isNamePart_head?_gapped L)
  refine ⟨_, accepts_rule rfl hbody, _, rfl, rfl, 0, fun limit depth _ =>
    ⟨.literal k.position w.value, ?_, rfl⟩⟩
  show Token.literalNode _ = _
  rw [Token.literalNode, Token.text, Token.chars_mk_advance hk]
  cases w <;> rfl

/-- A plain name is no keyword. -/
theorem refuses_literal (w : PlainName) (L : List Lexeme) : literal.Refuses n (w.lexeme :: L) := by
  intro ahead k hk
  rw [spaced_cons] at hk
  exact rejects_rule (rejects_keywordBody (by simp [RuleKind.body]) hk (all_isNamePart w.valid)
    w.plain (isNamePart_head?_gapped L))

theorem reads_atom (a : Atom) (L : List Lexeme) :
    operand.ReadsOne n (a.lexeme :: L) L (·.Means a.node) := by
  cases a with
  | plain w =>
    obtain ⟨c, hc, hstart⟩ := head?_of_isName w.valid
    show (Pattern.choice ([grouped, template, array, object, regexp, number, string] ++
      [literal] ++ variableName :: [])).ReadsOne n (w.lexeme :: L) L _
    refine .choice (fun z hz => ?_) (reads_plainName w L)
    rw [List.mem_append, List.mem_singleton] at hz
    rcases hz with hz | rfl
    · exact refuses_of_isNameStart hc hstart z hz
    · exact refuses_literal w L
  | capture w =>
    show (Pattern.choice ([grouped, template, array, object, regexp, number, string, literal] ++
      variableName :: [])).ReadsOne n (w.lexeme :: L) L _
    refine .choice (fun z hz => .of_head (c := '$') rfl ?_) (reads_capture w L)
    simp only [List.mem_cons, List.not_mem_nil, or_false] at hz
    rcases hz with rfl | rfl | rfl | rfl | rfl | rfl | rfl | rfl <;> decide
  | string s =>
    show (Pattern.choice ([grouped, template, array, object, regexp, number] ++
      string :: [literal, variableName])).ReadsOne n (s.lexeme :: L) L _
    refine .choice (fun z hz => .of_head (c := s.quote) rfl ?_) (reads_string s L)
    simp only [List.mem_cons, List.not_mem_nil, or_false] at hz
    unfold StringLiteral.quote
    rcases hz with rfl | rfl | rfl | rfl | rfl | rfl <;> split <;> decide
  | keyword w =>
    obtain ⟨c, hc, hstart⟩ : ∃ c, w.lexeme.chars.head? = some c ∧ isNameStart c = true := by
      cases w <;> exact ⟨_, rfl, by decide⟩
    show (Pattern.choice ([grouped, template, array, object, regexp, number, string] ++
      literal :: [variableName])).ReadsOne n (w.lexeme :: L) L _
    exact .choice (refuses_of_isNameStart hc hstart) (reads_keyword w L)

theorem reads_key (k : Key) (L : List Lexeme) :
    (Pattern.choice [computedKey, string, number, name]).ReadsOne n (k.lexeme :: L) L
      (·.Means k.node) := by
  cases k with
  | name w =>
    obtain ⟨c, hc, hstart⟩ := head?_of_isName w.valid
    have hrefuses := refuses_of_isNameStart (n := n) (w := w.lexeme) (L := L) hc hstart
    have hbracket := not_isNameStart (by decide) (List.mem_singleton_self '[') hstart
    show (Pattern.choice ([computedKey, string, number] ++ name :: [])).ReadsOne n (w.lexeme :: L) L _
    refine .choice (fun z hz => ?_) (reads_name w L)
    simp only [List.mem_cons, List.not_mem_nil, or_false] at hz
    rcases hz with rfl | rfl | rfl
    · exact .of_head hc (by simp [computedKey, all, word, eats, idles, hbracket])
    · exact hrefuses _ (by simp)
    · exact hrefuses _ (by simp)
  | string s =>
    show (Pattern.choice ([computedKey] ++ string :: [number, name])).ReadsOne n (s.lexeme :: L) L _
    refine .choice (fun z hz => .of_head (c := s.quote) rfl ?_) (reads_string s L)
    rw [List.mem_singleton.mp hz]
    unfold StringLiteral.quote
    split <;> decide

/-- No operator stands before an atom. -/
theorem refuses_unaryOps (a : Atom) (L : List Lexeme) : unaryOps.Refuses n (a.lexeme :: L) := by
  have hname : ∀ {w : Lexeme} {c}, w.chars.head? = some c → isNameStart c = true →
      unaryOps.Refuses n (w :: L) := by
    intro w c hc hstart
    have hne := @not_isNameStart ['!', '~'] (by decide) c
    exact .of_head hc (by simp [unaryOps, unaryOp, word, UnaryOp.symbol, eats, idles, hne, hstart])
  cases a with
  | plain w =>
    obtain ⟨c, hc, hstart⟩ := head?_of_isName w.valid
    exact hname hc hstart
  | capture w => exact .of_head (c := '$') rfl (by decide)
  | string s =>
    refine .of_head (c := s.quote) rfl ?_
    unfold StringLiteral.quote
    split <;> decide
  | keyword w => cases w <;> exact hname rfl (by decide)

end Pattern

end ExprLang
