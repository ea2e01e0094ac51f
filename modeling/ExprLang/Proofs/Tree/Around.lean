import ExprLang.Proofs.Grammar.Takes
import ExprLang.Proofs.Tree.Frames
import ExprLang.Proofs.Tree.Spelling

/-!
# ExprLang.Proofs.Tree.Around

What can stand around an expression: names, signs and brackets, one lemma for each form.  Such a
lemma takes the reading of the expression as a hypothesis and gives the reading of the form, up to
where the text goes on behind the next blanks, with the tree that it stands for.
-/

namespace ExprLang

open ExprLang.Language Pattern
open Token (Means)

/-! ## Names -/

section Names

variable {n : Reader} {l : List Char} {x : Pattern}

theorem isSolid_of_isNameStart {c : Char} (hc : isNameStart c = true) : isSolid c = true := by
  have hne : ∀ d ∈ [' ', '\t', '\r', '\n', '/'], c ≠ d :=
    fun d hd => (not_isNameStart (by decide) hd hc).symm
  simp [isSolid, isBlank, hne]

theorem blankLength_name (w : Name) (l : List Char) : blankLength (w.chars ++ l) = 0 := by
  obtain ⟨c, hc, hstart⟩ := head?_of_isName w.valid
  obtain ⟨chars, hchars⟩ := List.head?_eq_some_iff.mp hc
  rw [hchars]
  exact blankLength_cons (isSolid_of_isNameStart hstart) _

theorem Pattern.Misses.of_name (w : Name)
    (h : ∀ c, isNameStart c = true → (x.eats (some c) || x.idles (some c)) = false) :
    x.Misses n (w.chars ++ l) := by
  obtain ⟨c, hc, hstart⟩ := head?_of_isName w.valid
  obtain ⟨chars, hchars⟩ := List.head?_eq_some_iff.mp hc
  rw [hchars]
  exact .of_head (isSolid_of_isNameStart hstart) (h c hstart)

theorem misses_unaryOps (w : Name) (l : List Char) : unaryOps.Misses n (w.chars ++ l) := by
  refine .of_name w fun c hc => ?_
  have hne := @not_isNameStart ['!', '~'] (by decide) c
  simp [unaryOps, unaryOp, word, UnaryOp.symbol, eats, idles, hne, hc]

theorem accepts_operand_plainName {k : Cursor} (w : PlainName) (hk : k.rest = w.chars ++ l)
    (hl : l.head?.any isNamePart = false) : operand.Accepts n .open k
      [.mk .variable k ((k.advance w.chars.length).offset - k.offset) []]
      (k.advance w.chars.length) := by
  show (Pattern.choice ([grouped, template, array, object, regexp, number, string] ++
    [literal] ++ variableName :: [])).Accepts n .open k _ _
  refine accepts_choice (fun z hz => ?_) (accepts_variableName w hk hl)
  rw [List.mem_append, List.mem_singleton] at hz
  rcases hz with hz | rfl
  · have hmisses : z.Misses n (w.chars ++ l) := .of_name w.toName fun c hc =>
      eats_of_isNameStart hc z hz
    exact hmisses false k hk
  · exact rejects_rule (rejects_keywordBody (by simp [RuleKind.body]) hk (all_isNamePart w.valid)
      w.plain hl)

theorem takes_plainName (w : PlainName) (hl : l.head?.any isNamePart = false) :
    operand.TakesOne n (w.chars ++ l) (pastBlanks l)
      (·.Means (.var .first (String.ofList w.chars))) :=
  .chars w.lexeme.chars_ne_nil fun _ hk =>
    ⟨_, accepts_operand_plainName w hk hl, _, rfl, means_variable hk⟩

theorem takes_identifier (w : PlainName) (hl : l.head?.any isNamePart = false) :
    identifier.TakesOne n (w.chars ++ l) (pastBlanks l)
      (·.Means (.identifier .first (String.ofList w.chars))) := by
  refine .chars w.lexeme.chars_ne_nil fun k hk => ?_
  refine ⟨_, accepts_rule rfl (accepts_plainName w hk hl false), _, rfl, rfl, 0,
    fun limit depth _ => ⟨.identifier k.position (String.ofList w.chars), ?_, rfl⟩⟩
  rw [Token.build, Token.text, Token.chars_mk_advance hk]

/-- A name begins no assignment if no value is assigned behind it. -/
theorem Pattern.Misses.assignment (w : PlainName) (hl : l.head?.any isNamePart = false)
    (h : (all [word "=", .unless (.either (word "=") (word "~")), .recurse]).Misses n
      (pastBlanks l)) : assignment.Misses n (w.chars ++ l) := by
  refine .rule fun ahead k hk => ?_
  have hidentifier : identifier.Accepts n ⟨.free, ahead⟩ k _ _ :=
    accepts_rule_of_body (accepts_plainName w hk hl ahead)
  refine rejects_seq_right hidentifier (h ahead _ ?_)
  rw [Cursor.rest_skip, Cursor.rest_advance, hk, List.drop_left]

end Names

/-! ## Signs around an expression -/

section Signs

variable {n : Reader} {l r : List Char} {node : Node}

/-- A list of one expression with its brackets. -/
theorem takes_list {v w : String} {x : Pattern} {T : Token → Prop} (hv : v.toList ≠ [])
    (hw : w.toList ≠ []) (hcomma : ∀ l, (Language.word ",").Misses n (w.toList ++ l))
    (hx : x.TakesOne n (pastBlanks l) (w.toList ++ r) T) :
    (all [word v, .maybe (commaList x), word w]).TakesOne n (v.toList ++ l) (pastBlanks r) T :=
  .text_seq hv (.seq_text hw (.maybe (.commaList hx (hcomma r))))

theorem takes_bracketed {v w : String} {x : Pattern} {T : Token → Prop} (hv : v.toList ≠ [])
    (hw : w.toList ≠ []) (hx : x.TakesOne n (pastBlanks l) (w.toList ++ r) T) :
    (all [word v, x, word w]).TakesOne n (v.toList ++ l) (pastBlanks r) T :=
  .text_seq hv (.seq_text hw hx)

theorem misses_fallback (hcolon : l.head? ≠ some ':') :
    (infixOp .fallback "?:").Misses n ('?' :: l) := by
  refine .rule (.text fun hpre => hcolon ?_)
  obtain ⟨-, v, hv⟩ := List.cons_prefix_cons.mp hpre
  rw [← hv]
  rfl

/-- A question mark, the middle of a conditional and a colon. -/
theorem takes_choice (hcolon : l.head? ≠ some ':')
    (hahead : (Pattern.either (word ":") (word ".")).Misses n (pastBlanks l))
    (hmiddle : Pattern.recurse.TakesOne n (pastBlanks l) (':' :: r) (·.Means node)) :
    infixOps.TakesOne n ('?' :: l) (pastBlanks r) fun t =>
      t.rule = .between .choice ∧ ∃ u, t.inner = [u] ∧ u.Means node := by
  have hop : choiceOp.TakesOne n ('?' :: l) (pastBlanks r) _ :=
    .rule_one (.text_seq (w := ['?']) (by decide) (.unless_seq (blankLength_pastBlanks l) hahead
      (.seq_text (w := [':']) (by decide) hmiddle)))
  rw [infixOps_eq]
  show (Pattern.choice ([infixOp .fallback "?:"] ++ choiceOp :: _)).TakesOne n _ _ _
  exact .choice (by simpa using misses_fallback hcolon) hop

/-- A call with one argument. -/
theorem takes_call (harg : Pattern.recurse.TakesOne n (pastBlanks l) (')' :: r) (·.Means node)) :
    steps.TakesOne n ('(' :: l) (pastBlanks r) fun t =>
      t.rule = .call false ∧ ∃ u, t.inner = [u] ∧ u.Means node := by
  have hread : (callForm false).TakesOne n ('(' :: l) (pastBlanks r) _ :=
    .rule_one (takes_list (v := "(") (w := ")") (by decide) (by decide)
      (fun l => .of_head (c := ')') (by decide) (by decide)) harg)
  rw [steps_eq]
  show (Pattern.choice ([callForm true, indexForm true, fieldForm true] ++
    callForm false :: _)).TakesOne n _ _ _
  exact .choice_of_head (by decide) (by decide) hread

theorem takes_index (hkey : Pattern.recurse.TakesOne n (pastBlanks l) (']' :: r) (·.Means node)) :
    steps.TakesOne n ('[' :: l) (pastBlanks r) fun t =>
      t.rule = .index false ∧ ∃ u, t.inner = [u] ∧ u.Means node := by
  have hread : (indexForm false).TakesOne n ('[' :: l) (pastBlanks r) _ :=
    .rule_one (takes_bracketed (v := "[") (w := "]") (by decide) (by decide) hkey)
  rw [steps_eq]
  show (Pattern.choice ([callForm true, indexForm true, fieldForm true, callForm false] ++
    indexForm false :: _)).TakesOne n _ _ _
  exact .choice_of_head (by decide) (by decide) hread

theorem takes_grouped (h : Pattern.recurse.TakesOne n (pastBlanks l) (')' :: r) (·.Means node)) :
    operand.TakesOne n ('(' :: l) (pastBlanks r) (·.Means node) := by
  have hread : grouped.TakesOne n ('(' :: l) (pastBlanks r) _ :=
    .rule_one (takes_bracketed (v := "(") (w := ")") (by decide) (by decide) h)
  have hmeans : grouped.TakesOne n ('(' :: l) (pastBlanks r) (·.Means node) :=
    hread.mono fun _ ⟨t, ht, hr, u, hinner, hu⟩ => ⟨t, ht, hu.bracket (.inl hr) hinner⟩
  show (Pattern.choice ([] ++ grouped :: _)).TakesOne n _ _ _
  exact .choice (by simp) hmeans

theorem takes_array (h : Pattern.recurse.TakesOne n (pastBlanks l) (']' :: r) (·.Means node)) :
    operand.TakesOne n ('[' :: l) (pastBlanks r) (·.Means (.array .first [node])) := by
  have hread : array.TakesOne n ('[' :: l) (pastBlanks r) _ :=
    .rule_one (takes_list (v := "[") (w := "]") (by decide) (by decide)
      (fun l => .of_head (c := ']') (by decide) (by decide)) h)
  have hmeans : array.TakesOne n ('[' :: l) (pastBlanks r) (·.Means (.array .first [node])) :=
    hread.mono fun _ ⟨t, ht, hr, u, hinner, hu⟩ => ⟨t, ht, hu.array_one hr hinner⟩
  show (Pattern.choice ([grouped, template] ++ array :: _)).TakesOne n _ _ _
  exact .choice_of_head (by decide) (by decide) hmeans

/-- A name as a key, and its value. -/
theorem takes_objectItem (w : Name)
    (h : Pattern.recurse.TakesOne n (pastBlanks l) r (·.Means node)) :
    objectItem.TakesOne n (w.chars ++ ':' :: l) r
      (·.Means (.item .first (.identifier .first (String.ofList w.chars)) node)) := by
  have hcolon : isNamePart ':' = false := by decide
  have hname := takes_name (n := n) w (l := ':' :: l) hcolon
  rw [pastBlanks_cons (by decide)] at hname
  have hkey : (Pattern.choice ([computedKey, string, number] ++ name :: [])).TakesOne n
      (w.chars ++ ':' :: l) (':' :: l) (·.Means (.identifier .first (String.ofList w.chars))) := by
    refine .choice (fun z hz => .of_name w fun c hc => ?_) hname
    have hbracket := not_isNameStart (by decide) (List.mem_singleton_self '[') hc
    simp only [List.mem_cons, List.not_mem_nil, or_false] at hz
    rcases hz with rfl | rfl | rfl
    · simp [computedKey, all, word, eats, idles, hbracket]
    · exact eats_of_isNameStart hc _ (by simp)
    · exact eats_of_isNameStart hc _ (by simp)
  have hitem : objectItem.TakesOne n (w.chars ++ ':' :: l) r _ :=
    .rule_two hkey (.text_seq (w := [':']) (by decide) h)
  refine hitem.mono ?_
  rintro _ ⟨t, ht, hr, k, v, hinner, hk, hv⟩
  exact ⟨t, ht, .item hr hinner hk hv⟩

theorem takes_object (h : objectItem.TakesOne n (pastBlanks l) ('\x7d' :: r) (·.Means node)) :
    operand.TakesOne n ('\x7b' :: l) (pastBlanks r) (·.Means (.object .first [node])) := by
  have hread : object.TakesOne n ('\x7b' :: l) (pastBlanks r) _ :=
    .rule_one (takes_list (v := "\x7b") (w := "\x7d") (by decide) (by decide)
      (fun l => .of_head (c := '\x7d') (by decide) (by decide)) h)
  have hmeans : object.TakesOne n ('\x7b' :: l) (pastBlanks r)
      (·.Means (.object .first [node])) :=
    hread.mono fun _ ⟨t, ht, hr, u, hinner, hu⟩ => ⟨t, ht, hu.object_one hr hinner⟩
  show (Pattern.choice ([grouped, template, array] ++ object :: _)).TakesOne n _ _ _
  exact .choice_of_head (by decide) (by decide) hmeans

/-- No text of a template begins where a hole does, nor where the template ends. -/
theorem rejects_templateText {m : Mode} {k : Cursor} {w : String} (hw : w ∈ ["\x60", "$\x7b"])
    (hk : k.rest = w.toList ++ l) : templateText.Rejects n m k := by
  have hescaped : escaped.Rejects n { m with spacing := .sealed } k := by
    refine rejects_seq (rejects_text_iff.mpr ?_)
    rw [hk]
    simp only [List.mem_cons, List.not_mem_nil, or_false] at hw
    rcases hw with rfl | rfl
    · exact fun hpre => absurd (List.cons_prefix_cons.mp hpre).1 (by decide)
    · exact fun hpre => absurd (List.cons_prefix_cons.mp hpre).1 (by decide)
  rcases choice_words n ⟨.sealed, true⟩ k ["\x60", "$\x7b", "\\"] with ⟨-, hnone⟩ | ⟨s, -, -, hacc⟩
  · have hmem : w ∈ ["\x60", "$\x7b", "\\"] := by
      simp only [List.mem_cons, List.not_mem_nil, or_false] at hw ⊢
      tauto
    have hprefix : w.toList.isPrefixOf k.rest = true :=
      List.isPrefixOf_iff_prefix.mpr ⟨l, hk.symm⟩
    rw [hnone w hmem] at hprefix
    cases hprefix
  · exact rejects_rule (rejects_seq (rejects_either (rejects_seq (rejects_unless hacc)) hescaped))

/-- A hole ends with its bracket: blanks behind it are text. -/
theorem accepts_templateHole {k : Cursor}
    (h : Pattern.recurse.TakesOne n (pastBlanks l) ('\x7d' :: r) (·.Means node))
    (hk : k.rest = '$' :: '\x7b' :: l) : ∃ t k', templateHole.Accepts n ⟨.tight, false⟩ k [t] k' ∧
      k'.rest = r ∧ k'.rest.length < k.rest.length ∧ t.Means node := by
  have hrest : (k.advance 2).rest = l := by
    rw [Cursor.rest_advance, hk]
    rfl
  obtain ⟨_, k₁, hacc, hrest₁, hlt, u, rfl, hu⟩ :=
    h ((k.advance 2).skip .free) (by rw [Cursor.rest_skip, hrest])
  have hrest' : ((k₁.skip .free).advance 1).rest = r := by
    rw [Cursor.rest_advance, hrest₁]
    rfl
  have hbody : (all [word "$\x7b", .recurse, word "\x7d"]).Accepts n .open k [u]
      ((k₁.skip .free).advance 1) :=
    accepts_seq (accepts_text (w := ['$', '\x7b']) hk)
      (accepts_seq hacc (accepts_text (w := ['\x7d']) hrest₁))
  refine ⟨_, _, accepts_rule rfl hbody, hrest', ?_, Means.templateHole rfl rfl hu⟩
  have hle := (k.advance 2).length_rest_skip
  have hle₁ := k₁.length_rest_skip
  rw [hrest] at hle
  rw [hrest₁, List.length_cons] at hle₁
  rw [hrest', hk, List.length_cons, List.length_cons]
  omega

/-- A template of one hole. -/
theorem takes_template
    (h : Pattern.recurse.TakesOne n (pastBlanks l) ('\x7d' :: '\x60' :: r) (·.Means node)) :
    operand.TakesOne n ('\x60' :: '$' :: '\x7b' :: l) (pastBlanks r)
      (·.Means (.template .first [node])) := by
  have hread : template.TakesOne n ('\x60' :: '$' :: '\x7b' :: l) (pastBlanks r)
      (·.Means (.template .first [node])) := by
    intro k hk
    have hrest₁ : (k.advance 1).rest = '$' :: '\x7b' :: l := by
      rw [Cursor.rest_advance, hk]
      rfl
    obtain ⟨t, k₂, hhole, hrest₂, hlt, ht⟩ := accepts_templateHole h hrest₁
    have hnone : (Pattern.either templateText templateHole).Rejects n ⟨.tight, false⟩ k₂ :=
      rejects_either (rejects_templateText (w := "\x60") (by simp) hrest₂)
        (rejects_rule (rejects_seq (rejects_text (by rw [hrest₂]; rfl))))
    have hpart := accepts_either_right
      (rejects_templateText (m := ⟨.tight, false⟩) (w := "$\x7b") (by simp) hrest₁) hhole
    have hmany : (Pattern.many (.either templateText templateHole)).Accepts n ⟨.tight, false⟩
        (k.advance 1) [t] k₂ := accepts_many (.next hpart hlt (.done hnone)) rfl
    have hbody : (all [word "\x60", .many (.either templateText templateHole),
        word "\x60"]).Accepts n ⟨.tight, false⟩ k [t] (k₂.advance 1) :=
      accepts_seq (accepts_text (w := ['\x60']) hk)
        (accepts_seq hmany (accepts_text (w := ['\x60']) hrest₂))
    have hrest' : (k₂.advance 1).rest = r := by
      rw [Cursor.rest_advance, hrest₂]
      rfl
    refine ⟨_, _, accepts_rule rfl hbody, by rw [Cursor.rest_skip, hrest'], ?_, _, rfl,
      .template_one rfl rfl ht⟩
    rw [hrest₁, hrest₂] at hlt
    rw [hrest', hk]
    simp only [List.length_cons] at hlt ⊢
    omega
  show (Pattern.choice ([grouped] ++ template :: _)).TakesOne n _ _ _
  exact .choice_of_head (by decide) (by decide) hread

end Signs

/-! ## Operators that cannot be read -/

section Apart

variable {n : Reader} {l : List Char}

theorem misses_infixOps (hfallback : (infixOp .fallback "?:").Misses n l)
    (hchoice : choiceOp.Misses n l) (hops : ∀ op ∈ operators, ¬ op.symbol.toList <+: l) :
    infixOps.Misses n l := by
  rw [infixOps_eq]
  refine .choice fun z hz => ?_
  simp only [List.mem_append, List.mem_cons, List.not_mem_nil, or_false] at hz
  rcases hz with (rfl | rfl) | hz
  · exact hfallback
  · exact hchoice
  · obtain ⟨op, hop, rfl⟩ := List.mem_map.mp hz
    exact .rule (.text (hops op hop))

/-- No operator is an equals sign at the end of a line. -/
theorem misses_infixOps_equals (l : List Char) : infixOps.Misses n ('=' :: '\n' :: l) := by
  refine misses_infixOps (.of_head (by decide) (by decide)) (.of_head (by decide) (by decide))
    fun op hop hpre => ?_
  have hnone : ∀ op ∈ operators, ¬ op.symbol.toList.take 2 <+: ['=', '\n'] := by decide
  exact hnone op hop (List.prefix_of_prefix_length_le ((List.take_prefix 2 _).trans hpre) ⟨l, rfl⟩
    (List.length_take_le 2 _))

/-- A question mark is no operator where a point is ahead behind the blanks. -/
theorem misses_infixOps_mark (hcolon : l.head? ≠ some ':')
    (hpoint : (pastBlanks l).head? = some '.') : infixOps.Misses n ('?' :: l) := by
  obtain ⟨l', hl'⟩ := List.head?_eq_some_iff.mp hpoint
  refine misses_infixOps (misses_fallback hcolon) ?_ fun op hop hpre => ?_
  · exact .rule (.text_seq (w := ['?']) (.seq (.unless_words (w := ".") (.inr ⟨l', hl'.symm⟩))))
  · obtain ⟨c, hc, hnot⟩ := head?_symbol hop
    obtain ⟨w, hw⟩ := List.head?_eq_some_iff.mp hc
    have hsymbol : op.symbol.toList = c :: w := hw
    rw [hsymbol] at hpre
    obtain ⟨rfl, -⟩ := List.cons_prefix_cons.mp hpre
    simp at hnot

end Apart

end ExprLang
