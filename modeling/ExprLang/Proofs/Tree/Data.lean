import ExprLang.Proofs.Eval.Constants
import ExprLang.Proofs.Grammar.Takes
import ExprLang.Proofs.Tree.Numbers
import ExprLang.Proofs.Tree.Spelling
import ExprLang.Proofs.Tree.Writable
import ExprLang.Text.Quoted

/-!
# ExprLang.Proofs.Tree.Data

Reading data.  `Token.Denotes` says that the tree of a token needs so many levels and has a value
that does not depend on where it is evaluated; there is one lemma for each form in which such a value
is written without blanks: a keyword, a numeral, a text in double quotes, an array and an object.
-/

namespace ExprLang

open ExprLang.Language Pattern

/-! ## Texts in double quotes -/

/-- Four digits that name a character. -/
theorem read_unicode {w : List Char} {c : Char} (hw : w.length = 3)
    (hc : Escape.codePoint ('0' :: w) = .ok c) (rest : List Char) :
    Escape.read ('u' :: ('0' :: w ++ rest)) = .ok (some c, rest) := by
  have hlength : ('0' :: w).length = 4 := by rw [List.length_cons, hw]
  have hread : Escape.read ('u' :: ('0' :: w ++ rest)) = Escape.fixedDigits 4 ('0' :: w ++ rest) :=
    rfl
  rw [hread, Escape.fixedDigits, List.length_append, if_neg (by omega), List.take_left' hlength,
    List.drop_left' hlength, hc]
  rfl

/-- A character between quotes stands for itself, or behind a backslash for what is read there. -/
theorem quoteChar_cases (c : Char) : (quoteChar c = [c] ∧ c ≠ '"' ∧ c ≠ '\\') ∨
    ∃ d w, quoteChar c = '\\' :: d :: w ∧ w.all (fun e => e != '"' && e != '\\') = true ∧
      ∀ rest, Escape.read (d :: (w ++ rest)) = .ok (some c, rest) := by
  have hpadded : ∀ n : Fin 32, ∃ w, paddedHex 4 n = '0' :: w ∧ w.length = 3 ∧
      w.all (fun e => e != '"' && e != '\\') = true ∧
      Escape.codePoint ('0' :: w) = .ok (Char.ofNat n) := by
    intro n
    refine ⟨(paddedHex 4 n).tail, ?_, ?_, ?_, ?_⟩ <;> revert n <;> decide +kernel
  unfold quoteChar
  split
  case h_8 hquote hslash _ _ _ _ _ =>
    split
    · next hlt =>
      obtain ⟨w, hw, hlength, hall, hcode⟩ := hpadded ⟨c.toNat, hlt⟩
      rw [Char.ofNat_toNat] at hcode
      refine .inr ⟨'u', paddedHex 4 c.toNat, rfl, ?_, fun rest => ?_⟩
      · rw [hw]
        exact hall
      · rw [hw]
        exact read_unicode hlength hcode rest
    · exact .inl ⟨rfl, fun h => hquote h, fun h => hslash h⟩
  all_goals exact .inr ⟨_, [], rfl, rfl, fun _ => rfl⟩

theorem unescape_quoteChar (s : List Char) : unescape (s.flatMap quoteChar) = .ok s := by
  induction s with
  | nil => rw [List.flatMap_nil, unescape]
  | cons c s ih =>
    rw [List.flatMap_cons]
    rcases quoteChar_cases c with ⟨hc, -, hslash⟩ | ⟨d, w, hc, -, hread⟩
    · rw [hc, List.singleton_append, unescape, if_neg hslash, ih]
      rfl
    · rw [hc, List.cons_append, List.cons_append, unescape_escape (hread _), ih]
      rfl

theorem isQuotable_append {w l : List Char} {q : Char}
    (hw : w.all (fun e => e != q && e != '\\') = true) :
    isQuotable q (w ++ l) = isQuotable q l := by
  induction w with
  | nil => rfl
  | cons c w ih =>
    rw [List.all_cons, Bool.and_eq_true, Bool.and_eq_true, bne_iff_ne, bne_iff_ne] at hw
    rw [List.cons_append]
    conv_lhs => unfold isQuotable
    rw [if_neg hw.1.2, ih hw.2]
    simp [hw.1.1]

theorem isQuotable_quoteChar (s : List Char) : isQuotable '"' (s.flatMap quoteChar) = true := by
  induction s with
  | nil => rfl
  | cons c s ih =>
    rw [List.flatMap_cons]
    rcases quoteChar_cases c with ⟨hc, hquote, hslash⟩ | ⟨d, w, hc, hall, -⟩
    · rw [hc, isQuotable_append (by simp [hquote, hslash]), ih]
    · rw [hc, List.cons_append, List.cons_append, isQuotable, if_pos rfl]
      rw [isQuotable_append hall, ih]

theorem toList_quoted (s : String) :
    (quoted s).toList = '"' :: (s.toList.flatMap quoteChar ++ ['"']) := String.toList_ofList

/-! ## Where values end -/

/-- Whether a value ends where the characters are ahead: before a comma or a closing bracket, or at
the end of the text. -/
def endsValue (l : List Char) : Bool := [none, some ',', some ']', some '\x7d'].contains l.head?

section Ends

variable {n : Reader} {x : Pattern} {l : List Char}

theorem endsValue_cons {c : Char} (hc : [',', ']', '\x7d'].contains c = true) (l : List Char) :
    endsValue (c :: l) = true := by
  simpa [endsValue] using hc

theorem blankLength_of_endsValue (hl : endsValue l = true) : blankLength l = 0 := by
  cases l with
  | nil => rfl
  | cons c l =>
    have hc : c = ',' ∨ c = ']' ∨ c = '\x7d' := by simpa [endsValue] using hl
    rcases hc with rfl | rfl | rfl <;> exact blankLength_cons (by decide) l

theorem pastBlanks_of_endsValue (hl : endsValue l = true) : pastBlanks l = l :=
  pastBlanks_of_blankLength_eq_zero (blankLength_of_endsValue hl)

theorem not_any_of_endsValue (hl : endsValue l = true) {f : Char → Bool}
    (hf : [',', ']', '\x7d'].all (fun c => !f c) = true) : l.head?.any f = false := by
  cases l with
  | nil => rfl
  | cons c l =>
    have hc : c ∈ [',', ']', '\x7d'] := by simpa [endsValue] using hl
    simpa using List.all_eq_true.mp hf c hc

/-- Where a value ends, no pattern is read that reads none of the signs and not the end. -/
theorem Pattern.Misses.of_endsValue
    (hx : [none, some ',', some ']', some '\x7d'].all (fun c => !(x.eats c || x.idles c)) = true)
    (hl : endsValue l = true) : x.Misses n l := by
  refine .of_first (blankLength_of_endsValue hl) ?_
  simpa using List.all_eq_true.mp hx _ (List.contains_iff_mem.mp hl)

end Ends

/-! ## Lists -/

/-- Where a value ends behind `w`, the pattern reads `w`, which does not begin with a blank. -/
def Pattern.TakesData (n : Reader) (x : Pattern) (w : List Char) (T : Token → Prop) : Prop :=
  ∀ l, endsValue l = true → blankLength (w ++ l) = 0 ∧ x.TakesOne n (w ++ l) l T

section Lists

theorem Pattern.TakesData.mono {n : Reader} {x : Pattern} {w : List Char} {T T' : Token → Prop}
    (h : x.TakesData n w T) (hle : ∀ t, T t → T' t) : x.TakesData n w T' :=
  fun l hl => ⟨(h l hl).1, (h l hl).2.mono fun _ ⟨t, ht, hT⟩ => ⟨t, ht, hle t hT⟩⟩

theorem List.intercalate_cons {β : Type} (sep w : List β) (ws : List (List β)) :
    sep.intercalate (w :: ws) = w ++ ws.flatMap (sep ++ ·) := by
  induction ws generalizing w with
  | nil => simp [List.intercalate]
  | cons w' ws ih =>
    rw [List.intercalate_cons_cons, ih, List.flatMap_cons, List.append_assoc, List.append_assoc]

variable {n : Reader} {x : Pattern} {α : Type} {text : α → List Char} {T : α → Token → Prop}
  {as : List α} {l : List Char}

/-- The parts that follow in a list begin with a comma. -/
theorem endsValue_commas (text : α → List Char) (as : List α) (hl : endsValue l = true) :
    endsValue ((as.map text).flatMap ([','] ++ ·) ++ l) = true := by
  cases as with
  | nil => exact hl
  | cons a as => exact endsValue_cons (by decide) _

/-- Parts with commas between them. -/
theorem takes_commaList {a : α} (hx : ∀ b ∈ a :: as, x.TakesData n (text b) (T b))
    (hl : endsValue l = true) (hcomma : (word ",").Misses n l) :
    (commaList x).Takes n ([','].intercalate ((a :: as).map text) ++ l) l fun ts =>
      List.Forall₂ T (a :: as) ts.reverse := by
  rw [List.forall_mem_cons] at hx
  rw [List.map_cons, List.intercalate_cons, List.append_assoc]
  refine Takes.commaList_cons (fun bs => (bs.map text).flatMap ([','] ++ ·) ++ l)
    (hx.1 _ (endsValue_commas text as hl)).2 (fun b hb bs => ?_) hcomma
  obtain ⟨hblank, hitem⟩ := hx.2 b hb _ (endsValue_commas text bs hl)
  rw [← pastBlanks_of_blankLength_eq_zero hblank] at hitem
  rw [List.map_cons, List.flatMap_cons, List.append_assoc, List.append_assoc]
  exact Takes.text_seq (List.cons_ne_nil ',' []) hitem

/-- A list does not begin with a blank. -/
theorem blankLength_intercalate (hx : ∀ a ∈ as, x.TakesData n (text a) (T a))
    (hl : endsValue l = true) : blankLength ([','].intercalate (as.map text) ++ l) = 0 := by
  cases as with
  | nil => exact blankLength_of_endsValue hl
  | cons a as =>
    rw [List.map_cons, List.intercalate_cons, List.append_assoc]
    exact (hx a List.mem_cons_self _ (endsValue_commas text as hl)).1

/-- None or more parts with commas between them, up to a closing bracket. -/
theorem takes_maybe_commaList (hx : ∀ a ∈ as, x.TakesData n (text a) (T a)) {c : Char}
    (hends : endsValue (c :: l) = true) (hcomma : c ≠ ',') (hempty : x.Misses n (c :: l)) :
    (Pattern.seq (.maybe (commaList x)) (.text [c])).Takes n
      ([','].intercalate (as.map text) ++ c :: l) (pastBlanks l) fun ts =>
        List.Forall₂ T as ts.reverse := by
  have hcomma : (word ",").Misses n (c :: l) :=
    .of_word (c := ',') rfl fun h => hcomma (Option.some.inj h)
  have hclose : (Pattern.text [c]).Takes n (c :: l) (pastBlanks l) (· = []) :=
    .text (List.cons_ne_nil c [])
  cases as with
  | nil =>
    intro k hk
    obtain ⟨ts, k', hacc, hrest, hlt, rfl⟩ := hclose k hk
    have hskip : k.skip .free = k := by
      refine skip_eq_self ?_ .free
      rw [hk]
      exact blankLength_of_endsValue hends
    have hnone : (Pattern.maybe (commaList x)).Accepts n .open k [] k :=
      accepts_maybe_nil (hempty.seq false k hk)
    have hseq := accepts_seq hnone (by rw [hskip]; exact hacc)
    exact ⟨_, k', hseq, hrest, hlt, .nil⟩
  | cons a as => exact .seq_text (List.cons_ne_nil c []) (.maybe (takes_commaList hx hends hcomma))

end Lists

/-! ## Tokens -/

theorem Token.addsLevel_of_isOperand {t : Token} (ht : t.isOperand = true) : t.addsLevel = false := by
  unfold isOperand at ht
  unfold addsLevel
  cases hr : t.rule <;> simp_all

/-- The tree of an expression of one operand is that of the operand, a level deeper. -/
theorem Token.build_expressionToken {t : Token} (ht : t.isOperand = true) (k k' : Cursor)
    {limit depth : Nat} (hlimit : depth + 1 ≤ limit) :
    (expressionToken k k' [t]).build limit depth = t.build limit (depth + 1) := by
  have hlevels : levels [t] = 1 := by simp [levels, addsLevel_of_isOperand ht]
  rw [expressionToken, List.reverse_singleton, build]
  simp only [hlevels]
  rw [if_neg (by omega), pieces_of_isOperand ht]
  rfl

/-- The token is an operand whose tree takes `h` levels and has the value wherever it is
evaluated. -/
def Token.Denotes (h : Nat) (v : Value) (t : Token) : Prop :=
  t.isOperand = true ∧ ∀ limit depth, depth + h ≤ limit →
    ∃ n, t.build limit depth = .ok n ∧ n.Gives v

/-- The token is an item of an object, with a name and a value. -/
def Token.DenotesEntry (h : Nat) (e : String × Value) (t : Token) : Prop :=
  ∀ limit depth, depth + h ≤ limit → ∃ n, t.build limit depth = .ok n ∧ n.GivesEntry e

namespace Token.Denotes

variable {h h' : Nat} {t o u : Token} {v : Value} {vs : List Value}

theorem mono (ht : t.Denotes h v) (hle : h ≤ h') : t.Denotes h' v :=
  ⟨ht.1, fun limit depth hlimit => ht.2 limit depth (by omega)⟩

theorem exists_buildAll {α : Type} {P : Node → α → Prop} {as : List α} {us : List Token}
    {limit depth : Nat}
    (hus : List.Forall₂ (fun a u => ∃ n, build limit depth u = .ok n ∧ P n a) as us) :
    ∃ ns, buildAll limit depth us = .ok ns ∧ List.Forall₂ P ns as := by
  induction hus with
  | nil => exact ⟨[], by rw [buildAll], .nil⟩
  | cons hu _ ih =>
    obtain ⟨n, hn, hP⟩ := hu
    obtain ⟨ns, hns, hall⟩ := ih
    exact ⟨n :: ns, by rw [buildAll, hn, hns]; rfl, .cons hP hall⟩

theorem array (hr : t.rule = .array) (ht : List.Forall₂ (fun v u => Denotes h v u) vs t.inner) :
    t.Denotes h (.array vs) := by
  obtain ⟨rule, start, length, inner⟩ := t
  obtain rfl : rule = .array := hr
  refine ⟨rfl, fun limit depth hlimit => ?_⟩
  obtain ⟨ns, hns, hall⟩ := exists_buildAll (ht.imp fun _ _ hu => hu.2 limit depth hlimit)
  rw [Token.inner] at hns
  exact ⟨.array start.position ns, by rw [build, hns]; rfl, Node.gives_array _ hall⟩

theorem object {es : Bag} (hr : t.rule = .object)
    (ht : List.Forall₂ (fun e u => DenotesEntry h e u) es t.inner)
    (hsorted : Entries.Sorted es) : t.Denotes h (.map es) := by
  obtain ⟨rule, start, length, inner⟩ := t
  obtain rfl : rule = .object := hr
  refine ⟨rfl, fun limit depth hlimit => ?_⟩
  obtain ⟨ns, hns, hall⟩ := exists_buildAll (ht.imp fun _ _ hu => hu limit depth hlimit)
  rw [Token.inner] at hns
  exact ⟨.object start.position ns, by rw [build, hns]; rfl, Node.gives_object _ hall hsorted⟩

theorem item {k : Token} {name : String} (hr : t.rule = .objectItem) (ht : t.inner = [k, u])
    (hk : k.Denotes 0 (.string name)) (hu : u.Denotes h v) : t.DenotesEntry h (name, v) := by
  obtain ⟨rule, start, length, inner⟩ := t
  obtain rfl : rule = .objectItem := hr
  obtain rfl : inner = [k, u] := ht
  intro limit depth hlimit
  obtain ⟨key, hkey, hgives⟩ := hk.2 limit depth (by omega)
  obtain ⟨value, hvalue, hgives'⟩ := hu.2 limit depth hlimit
  refine ⟨.item start.position key value, ?_, _, _, _, rfl, hgives, hgives'⟩
  rw [build, buildAll, buildAll, buildAll, hkey, hvalue]
  rfl

/-- An expression of one operand takes a level for itself. -/
theorem expression (ht : t.Denotes h v) (k k' : Cursor) :
    (expressionToken k k' [t]).Denotes (h + 1) v := by
  refine ⟨rfl, fun limit depth hlimit => ?_⟩
  rw [build_expressionToken ht.1 k k' (by omega)]
  exact ht.2 limit (depth + 1) (by omega)

/-- An operation on two operands takes a level for itself and one for the operator. -/
theorem arithmetic {op : ArithmeticOp} {w : Value} (ht : t.Denotes h v)
    (ho : o.rule = .between (.arithmetic op)) (hu : u.Denotes h w) (k k' : Cursor) :
    (expressionToken k k' [u, o, t]).Denotes (h + 2) (op.apply v w) := by
  refine ⟨rfl, fun limit depth hlimit => ?_⟩
  obtain ⟨a, ha, hgives⟩ := ht.2 limit (depth + 2) (by omega)
  obtain ⟨b, hb, hgives'⟩ := hu.2 limit (depth + 2) (by omega)
  refine ⟨.arithmetic o.position op a b, ?_, Node.gives_arithmetic _ op hgives hgives'⟩
  have hlevels : levels [t, o, u] = 2 := by
    have hoperator : o.addsLevel = true := by rw [addsLevel, ho]
    simp [levels, addsLevel_of_isOperand ht.1, addsLevel_of_isOperand hu.1, hoperator]
  have hoperator : pieces limit (depth + 2) [o] = [.between o.position (.arithmetic op)] := by
    rw [pieces, pieces, ho]
  rw [expressionToken, build]
  show (if limit < depth + levels [t, o, u] then _ else
    Piece.toTree (pieces limit (depth + levels [t, o, u]) ([t] ++ ([o] ++ [u])))) = _
  rw [hlevels, if_neg (by omega), pieces_append, pieces_append, pieces_of_isOperand ht.1,
    pieces_of_isOperand hu.1, hoperator, ha, hb]
  cases op <;> rfl

end Token.Denotes

/-! ## Operands -/

/-- Where a value ends behind the characters, they are an operand that denotes the value, and neither
an operator nor an assignment begins with them. -/
structure TakesOperand (n : Reader) (w : List Char) (h : Nat) (v : Value) : Prop where
  operand : operand.TakesData n w (Token.Denotes h v)
  unaryOps : ∀ l, unaryOps.Misses n (w ++ l)
  assignment : ∀ l, endsValue l = true → assignment.Misses n (w ++ l)

/-- An operand alone is an expression, where a value ends. -/
theorem takes_recurse {d : Nat} {l l' : List Char} {T : Token → Prop} (hl : blankLength l = 0)
    (hops : Language.unaryOps.Misses (readExpression d) l)
    (hoperand : Language.operand.TakesOne (readExpression d) l l' T) (hl' : endsValue l' = true) :
    Pattern.recurse.TakesOne (readExpression (d + 1)) l l' fun u =>
      ∃ k k' t, u = expressionToken k k' [t] ∧ T t := by
  have hflow : Flows (readExpression d) false l l' fun ts => ∃ t, ts = [t] ∧ T t := by
    refine .operand hops hoperand .done ?_
    rintro _ _ ht rfl
    exact ht
  have hexpression := hflow.expression hl (.of_endsValue (by decide) hl')
    (.of_endsValue (by decide) hl')
  intro k hk
  obtain ⟨_, k', hacc, hrest, hlt, _, rfl, k₁, k₂, _, rfl, t, rfl, ht⟩ := hexpression k hk
  exact ⟨_, k', accepts_recurse_iff.mpr hacc, hrest, hlt, _, rfl, k₁, k₂, t, rfl, ht⟩

/-- No expression begins with a closing bracket. -/
theorem misses_recurse (d : Nat) (l : List Char) :
    Pattern.recurse.Misses (readExpression (d + 1)) (']' :: l) := by
  have hexpression : expression.Misses (readExpression d) (']' :: l) :=
    .of_head (by decide) (by decide)
  intro ahead k hk
  unfold Pattern.Rejects
  rw [read_recurse, readExpression_succ]
  exact hexpression ahead k hk

namespace TakesOperand

variable {n : Reader} {w : List Char} {h : Nat} {v : Value}

/-- An operand is read by its alternative of the rule for operands. -/
theorem of_head {x : Pattern} (xs ys : List Pattern) {c : Char} {w : List Char}
    (hchoice : Language.operand = Pattern.choice (xs ++ x :: ys)) (hc : isSolid c = true)
    (hxs : (Language.unaryOps :: Language.assignment :: xs).all
      (fun z => !(z.eats (some c) || z.idles (some c))) = true)
    (hx : ∀ l, endsValue l = true → x.TakesOne n (c :: w ++ l) l (Token.Denotes h v)) :
    TakesOperand n (c :: w) h v := by
  rw [List.all_cons, List.all_cons, Bool.and_eq_true, Bool.and_eq_true, Bool.not_eq_true',
    Bool.not_eq_true'] at hxs
  refine ⟨fun l hl => ⟨blankLength_cons hc _, ?_⟩, fun l => .of_head hc hxs.1,
    fun l _ => .of_head hc hxs.2.1⟩
  rw [hchoice]
  exact .choice_of_head hc hxs.2.2 (hx l hl)

/-- An operand alone is an expression. -/
theorem nested {d : Nat} (hw : TakesOperand (readExpression d) w h v) :
    Pattern.recurse.TakesData (readExpression (d + 1)) w (Token.Denotes (h + 1) v) := by
  intro l hl
  obtain ⟨hblank, htakes⟩ := hw.operand l hl
  refine ⟨hblank, (takes_recurse hblank (hw.unaryOps l) htakes hl).mono ?_⟩
  rintro _ ⟨_, rfl, k, k', t, rfl, ht⟩
  exact ⟨_, rfl, ht.expression k k'⟩

/-! ### Keywords and numbers -/

theorem keyword {s : String} {c : Char} {w : List Char} (hs : s ∈ keywords)
    (hchars : s.toList = c :: w) (hv : Token.keywordValue? s = some v) :
    TakesOperand n s.toList 0 v := by
  have hstart : isNameStart c = true := by
    have hall : keywords.all (fun s => s.toList.head?.all isNameStart) = true := by decide
    have := List.all_eq_true.mp hall s hs
    rwa [hchars] at this
  have hsolid : isSolid c = true := by
    have hne : ∀ d ∈ [' ', '\t', '\r', '\n', '/'], c ≠ d :=
      fun d hd => (not_isNameStart (by decide) hd hstart).symm
    simp [isSolid, isBlank, hne]
  have hunary : (Language.unaryOps.eats (some c) || Language.unaryOps.idles (some c)) = false := by
    have hne := @not_isNameStart ['!', '~'] (by decide) c
    simp [Language.unaryOps, unaryOp, word, UnaryOp.symbol, eats, idles, hne, hstart]
  have hassignment : ∀ l, endsValue l = true → Language.assignment.Misses n (s.toList ++ l) := by
    intro l hl
    refine .rule (.seq fun ahead k hk => ?_)
    have hkeyword : (Pattern.rule .keyword .lexeme keywordBody).Accepts n ⟨.sealed, true⟩ k [] _ :=
      accepts_rule_silent rfl (accepts_keywordBody (by decide) hs hk
        (not_any_of_endsValue hl (by decide)))
    exact rejects_rule (rejects_seq (rejects_unless hkeyword))
  have hliteral : ∀ l, endsValue l = true →
      literal.TakesOne n (s.toList ++ l) l (Token.Denotes 0 v) := by
    intro l hl
    have htakes : literal.TakesOne n (s.toList ++ l) (pastBlanks l) (Token.Denotes 0 v) := by
      refine .chars (by rw [hchars]; exact List.cons_ne_nil c w) fun k hk => ?_
      have hbody := accepts_keywordBody (n := n) (m := ⟨.sealed, false⟩) (by decide) hs hk
        (not_any_of_endsValue hl (by decide))
      refine ⟨_, accepts_rule rfl hbody, _, rfl, rfl, fun limit depth _ =>
        ⟨.literal k.position v, ?_, Node.gives_literal _ v⟩⟩
      rw [Token.build, Token.literalNode, Token.text, Token.chars_mk_advance hk,
        String.ofList_toList, hv]
      rfl
    rwa [pastBlanks_of_endsValue hl] at htakes
  have hoperand : ∀ l, endsValue l = true →
      Language.operand.TakesOne n (s.toList ++ l) l (Token.Denotes 0 v) := by
    intro l hl
    show (Pattern.choice ([grouped, template, array, object, regexp, number, string] ++
      literal :: [variableName])).TakesOne n _ _ _
    refine .choice (fun z hz => ?_) (hliteral l hl)
    rw [hchars]
    exact .of_head hsolid (eats_of_isNameStart hstart z hz)
  refine ⟨fun l hl => ⟨?_, hoperand l hl⟩, fun l => ?_, hassignment⟩
  · rw [hchars]
    exact blankLength_cons hsolid _
  · rw [hchars]
    exact .of_head hsolid hunary

/-- A numeral, with a sign perhaps. -/
theorem number (negative : Bool) (num : Numeral) {y : Float} (hy : readDecimal num.chars = some y) :
    TakesOperand n ((if negative then ['-'] else []) ++ num.chars) 0
      (.number (if negative then -y else y)) := by
  have hnumber : ∀ l, endsValue l = true → Language.number.TakesOne n
      ((if negative then ['-'] else []) ++ num.chars ++ l) l
      (Token.Denotes 0 (.number (if negative then -y else y))) := by
    intro l hl
    have htakes := takes_number (n := n) negative num (not_any_of_endsValue hl (by decide)) hy
    rw [pastBlanks_of_endsValue hl] at htakes
    refine htakes.mono fun _ ⟨t, ht, hr, hnode⟩ => ⟨t, ht, ?_⟩
    obtain ⟨rule, start, length, inner⟩ := t
    obtain rfl : rule = .number := hr
    exact ⟨rfl, fun limit depth _ => ⟨_, by rw [Token.build]; exact hnode, Node.gives_number _ _⟩⟩
  obtain ⟨c, w, hchars, hc⟩ : ∃ c w, (if negative then ['-'] else []) ++ num.chars = c :: w ∧
      c ∈ '-' :: "0123456789".toList := by
    cases negative with
    | true => exact ⟨'-', num.chars, rfl, List.mem_cons_self⟩
    | false =>
      obtain ⟨c, w, hchars, hc⟩ := num.exists_cons
      exact ⟨c, w, hchars, List.mem_cons_of_mem _ (mem_of_isDecimalDigit hc)⟩
  have hall : ('-' :: "0123456789".toList).all (fun c => isSolid c &&
      (Language.unaryOps :: Language.assignment :: [grouped, template, array, object, regexp]).all
        (fun z => !(z.eats (some c) || z.idles (some c)))) = true := by decide
  have hhead := List.all_eq_true.mp hall c hc
  rw [Bool.and_eq_true] at hhead
  rw [hchars] at hnumber ⊢
  exact of_head [grouped, template, array, object, regexp] [string, literal, variableName] rfl hhead.1 hhead.2 hnumber

/-! ### Texts, arrays and objects -/

theorem takes_quoted (s : String) (l : List Char) : Language.string.TakesOne n
    ((quoted s).toList ++ l) (pastBlanks l) (Token.Denotes 0 (.string s)) := by
  rw [toList_quoted]
  refine .chars (List.cons_ne_nil _ _) fun k hk => ?_
  rw [List.cons_append, List.append_assoc, List.singleton_append] at hk
  have hrest : (k.advance 1).rest = s.toList.flatMap quoteChar ++ '"' :: l := by
    rw [Cursor.rest_advance, hk]
    rfl
  have hstring : Language.string.Accepts n .open k _ _ := accepts_rule rfl
    (accepts_either_left (accepts_quotes (by decide) rfl (isQuotable_quoteChar s.toList) hk))
  have hlength : (s.toList.flatMap quoteChar).length + 2 =
      ('"' :: (s.toList.flatMap quoteChar ++ ['"'])).length := by
    simp
  rw [hlength] at hstring
  refine ⟨_, hstring, _, rfl, rfl, fun limit depth _ =>
    ⟨.string k.position s, ?_, Node.gives_string _ s⟩⟩
  rw [List.reverse_singleton, Token.build, Token.stringNode, Token.inner, Token.firstChars,
    Token.chars_mk_advance hrest, unescape_quoteChar]
  simp only [String.ofList_toList]
  rfl

theorem string (s : String) : TakesOperand n (quoted s).toList 0 (.string s) := by
  have hstring : ∀ l, endsValue l = true → Language.string.TakesOne n ((quoted s).toList ++ l) l
      (Token.Denotes 0 (.string s)) := by
    intro l hl
    have htakes := takes_quoted (n := n) s l
    rwa [pastBlanks_of_endsValue hl] at htakes
  rw [toList_quoted] at hstring ⊢
  exact of_head [grouped, template, array, object, regexp, Language.number]
    [literal, variableName] rfl (by decide) (by decide) hstring

/-- Values between square brackets. -/
theorem array {α : Type} {text : α → List Char} {value : α → Value} {as : List α}
    (has : ∀ a ∈ as, Pattern.recurse.TakesData n (text a) (Token.Denotes h (value a)))
    (hempty : ∀ r, Pattern.recurse.Misses n (']' :: r)) :
    TakesOperand n ('[' :: ([','].intercalate (as.map text) ++ [']'])) h
      (.array (as.map value)) := by
  have harray : ∀ l, endsValue l = true → Language.array.TakesOne n
      ('[' :: ([','].intercalate (as.map text) ++ [']']) ++ l) l
      (Token.Denotes h (.array (as.map value))) := by
    intro l hl
    have hends := endsValue_cons (c := ']') (by decide) l
    have hlist := takes_maybe_commaList has hends (by decide) (hempty l)
    rw [← pastBlanks_of_blankLength_eq_zero (blankLength_intercalate has hends),
      pastBlanks_of_endsValue hl] at hlist
    have hread : Language.array.TakesOne n
        ('[' :: ([','].intercalate (as.map text) ++ ']' :: l)) l _ :=
      .rule (.text_seq (w := ['[']) (List.cons_ne_nil _ _) hlist)
    rw [List.cons_append, List.append_assoc, List.singleton_append]
    refine hread.mono fun _ ⟨t, ht, hr, hall⟩ => ⟨t, ht, .array hr ?_⟩
    rw [List.reverse_reverse] at hall
    exact List.forall₂_map_left_iff.mpr hall
  exact of_head [grouped, template]
    [object, regexp, Language.number, Language.string, literal, variableName] rfl (by decide)
    (by decide) harray

/-- A name, a colon and a value. -/
theorem item {name : String} (hw : Pattern.recurse.TakesData n w (Token.Denotes h v)) :
    objectItem.TakesData n ((quoted name).toList ++ ':' :: w) (Token.DenotesEntry h (name, v)) := by
  intro l hl
  obtain ⟨hblank, htakes⟩ := hw l hl
  have hstring := takes_quoted (n := n) name (':' :: (w ++ l))
  rw [pastBlanks_cons (by decide)] at hstring
  rw [List.append_assoc, List.cons_append]
  rw [toList_quoted] at hstring ⊢
  have hkey : (Pattern.choice ([computedKey] ++ Language.string ::
      [Language.number, Language.name])).TakesOne n _ (':' :: (w ++ l))
        (Token.Denotes 0 (.string name)) :=
    .choice_of_head (by decide) (by decide) hstring
  rw [← pastBlanks_of_blankLength_eq_zero hblank] at htakes
  have hvalue := Takes.text_seq (w := [':']) (List.cons_ne_nil _ _) htakes
  have hitem : objectItem.TakesOne n _ l _ := .rule_two hkey hvalue
  exact ⟨blankLength_cons (by decide) _, hitem.mono fun _ ⟨t, ht, hr, k, u, hinner, hk, hu⟩ =>
    ⟨t, ht, Token.Denotes.item hr hinner hk hu⟩⟩

/-- Named values between braces. -/
theorem object {α : Type} {text : α → List Char} {entry : α → String × Value} {as : List α}
    (has : ∀ a ∈ as, objectItem.TakesData n (text a) (Token.DenotesEntry h (entry a)))
    (hsorted : Entries.Sorted (as.map entry)) :
    TakesOperand n ('\x7b' :: ([','].intercalate (as.map text) ++ ['\x7d'])) h
      (.map (as.map entry)) := by
  have hobject : ∀ l, endsValue l = true → Language.object.TakesOne n
      ('\x7b' :: ([','].intercalate (as.map text) ++ ['\x7d']) ++ l) l
      (Token.Denotes h (.map (as.map entry))) := by
    intro l hl
    have hends := endsValue_cons (c := '\x7d') (by decide) l
    have hlist := takes_maybe_commaList has hends (by decide) (.of_head (by decide) (by decide))
    rw [← pastBlanks_of_blankLength_eq_zero (blankLength_intercalate has hends),
      pastBlanks_of_endsValue hl] at hlist
    have hread : Language.object.TakesOne n
        ('\x7b' :: ([','].intercalate (as.map text) ++ '\x7d' :: l)) l _ :=
      .rule (.text_seq (w := ['\x7b']) (List.cons_ne_nil _ _) hlist)
    rw [List.cons_append, List.append_assoc, List.singleton_append]
    refine hread.mono fun _ ⟨t, ht, hr, hall⟩ => ⟨t, ht, .object hr ?_ hsorted⟩
    rw [List.reverse_reverse] at hall
    exact List.forall₂_map_left_iff.mpr hall
  exact of_head [grouped, template, Language.array]
    [regexp, Language.number, Language.string, literal, variableName] rfl (by decide)
    (by decide) hobject

end TakesOperand

end ExprLang
