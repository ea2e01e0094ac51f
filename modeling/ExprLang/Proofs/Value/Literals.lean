import ExprLang.Proofs.Source.Brackets
import ExprLang.Proofs.Tree.Numerals
import ExprLang.Proofs.Tree.Single
import ExprLang.Value.Conversion

/-!
# ExprLang.Proofs.Value.Literals

Numerals as literals and as texts.

A numeral can stand in a program as it is, or as a text that is multiplied with one.  A decimal is
the same number both ways.  One in another radix is if its value fits 64 bits and is a short number
without its last digit; beyond 64 bits the text is not a number, while the literal is
(`numeral_eq_product`).
-/

namespace ExprLang

open ExprLang.Language Pattern
open Binary (IsShort)

/-! ## The number of a numeral -/

/-- The radix of a numeral that has a mark of one, and the whole number of its digits. -/
def radixValue? : List Char → Option (Nat × Nat)
  | '0' :: c :: digits => do
    let r ← radixOf? c
    let n ← readRadix r digits
    return (r, n)
  | _ => none

namespace LiteralOf

variable {w : List Char} {x : Float} {r N : Nat}

/-- Where only the last digit is rounded, the literal is the number of the text. -/
theorem eq_parseNumber (h : LiteralOf w x)
    (hshort : ∀ r N, radixValue? w = some (r, N) → N < 2 ^ 64 ∧ IsShort (N / r)) :
    x = parseNumber w := by
  cases h with
  | decimal hy => exact (parseNumber_of_readDecimal hy false).symm
  | @radix c l b N hb hc hne hN =>
    obtain ⟨hlt, hshort⟩ := hshort (2 ^ b) N (by simp [radixValue?, hc, hN])
    rw [parseNumber_radix hc hne hN, if_pos hlt, accumulateRadix_eq hb hN hlt hshort]

/-- Beyond 64 bits the text is not a number, but the literal is. -/
theorem ne_parseNumber (h : LiteralOf w x) (hN : radixValue? w = some (r, N)) (hle : 2 ^ 64 ≤ N) :
    parseNumber w = 0.0 / 0.0 ∧ x ≠ 0.0 / 0.0 := by
  cases h with
  | decimal hy =>
    unfold radixValue? at hN
    split at hN
    · rw [radixOf?_of_readDecimal hy] at hN
      cases hN
    · cases hN
  | @radix c l b N' hb hc hne hN' =>
    have heq : N' = N := by
      simp [radixValue?, hc, hN'] at hN
      exact hN.2
    subst heq
    rw [parseNumber_radix hc hne hN', if_neg (by omega)]
    exact ⟨rfl, accumulateRadix_ne_nan hb l⟩

theorem passes (h : LiteralOf w x) : Scan.Passes 0 w := by
  have hall : (numberChars.all fun c => !Scan.isMark c) = true := by decide
  exact .chars (List.all_eq_true.mpr fun c hc => List.all_eq_true.mp hall c (h.mem_numberChars c hc))

/-- Between quotes a numeral is itself. -/
theorem isQuotable (h : LiteralOf w x) : isQuotable '\x27' w = true ∧ unescape w = .ok w := by
  have hchars := h.mem_numberChars
  clear h
  induction w with
  | nil => exact ⟨rfl, by rw [unescape]⟩
  | cons c w ih =>
    rw [List.forall_mem_cons] at hchars
    obtain ⟨hquotable, hunescape⟩ := ih hchars.2
    have hall : (numberChars.all fun c => c != '\\' && c != '\x27') = true := by decide
    have hc := List.all_eq_true.mp hall c hchars.1
    rw [Bool.and_eq_true, bne_iff_ne, bne_iff_ne] at hc
    constructor
    · unfold ExprLang.isQuotable
      rw [if_neg hc.1, hquotable]
      simp [hc.2]
    · rw [unescape, if_neg hc.1, hunescape]
      rfl

end LiteralOf

/-! ## The text of a numeral times one -/

/-- A text in single quotes is itself, if nothing in it is escaped. -/
theorem takes_singleQuoted {n : Reader} {w : List Char} (hw : isQuotable '\x27' w = true)
    (hunescape : unescape w = .ok w) (l : List Char) : string.TakesOne n
      ('\x27' :: (w ++ '\x27' :: l)) (pastBlanks l) (Token.Denotes 0 (.string (String.ofList w))) := by
  have hsplit : '\x27' :: (w ++ '\x27' :: l) = '\x27' :: (w ++ ['\x27']) ++ l := by simp
  rw [hsplit]
  refine .chars (List.cons_ne_nil _ _) fun k hk => ?_
  rw [← hsplit] at hk
  have hrest : (k.advance 1).rest = w ++ '\x27' :: l := by
    rw [Cursor.rest_advance, hk]
    rfl
  have hdouble : (all [word "\"", quotedBody .doubleQuoted '"', word "\""]).Rejects n ⟨.tight, false⟩ k :=
    rejects_seq (rejects_text_iff.mpr (by rw [hk]; rintro ⟨_, h⟩; cases h))
  have hstring : string.Accepts n .open k _ _ := accepts_rule rfl
    (accepts_either_right hdouble (accepts_quotes (by decide) rfl hw hk))
  have hlength : w.length + 2 = ('\x27' :: (w ++ ['\x27'])).length := by simp
  rw [hlength] at hstring
  refine ⟨_, hstring, _, rfl, rfl, fun limit depth _ =>
    ⟨.string k.position (String.ofList w), ?_, Node.gives_string _ _⟩⟩
  rw [List.reverse_singleton, Token.build, Token.stringNode, Token.inner, Token.firstChars,
    Token.chars_mk_advance hrest, hunescape]
  rfl

/-- A text in single quotes times one. -/
def timesOne (w : List Char) : List Char := '\x27' :: (w ++ '\x27' :: [' ', '*', ' ', '1'])

theorem takes_one {n : Reader} :
    operand.TakesOne n ['1'] [] (Token.Denotes 0 (.number 1.0)) := by
  have hone : readDecimal ['1'] = some 1.0 := by decide
  exact ((TakesOperand.number false ⟨['1'], [], none, by decide, rfl, rfl, nofun, nofun⟩
    hone).operand [] rfl).2

/-- The text is one operation. -/
theorem takes_timesOne {d : Nat} {w : List Char} (hw : isQuotable '\x27' w = true)
    (hunescape : unescape w = .ok w) :
    statement.TakesOne (readExpression (d + 1)) (timesOne w) []
      (Token.Denotes 2 (ArithmeticOp.mul.apply (.string (String.ofList w)) (.number 1.0))) := by
  have hstring : operand.TakesOne (readExpression d) (timesOne w) ['*', ' ', '1']
      (Token.Denotes 0 (.string (String.ofList w))) := by
    show (Pattern.choice ([grouped, template, array, object, regexp, number] ++ string ::
      [literal, variableName])).TakesOne _ _ _ _
    exact .choice_of_head (by decide) (by decide) (takes_singleQuoted hw hunescape _)
  have hop : infixOps.TakesOne (readExpression d) ['*', ' ', '1'] ['1']
      (·.rule = .between (.arithmetic .mul)) :=
    reads_infixOp ⟨.arithmetic .mul, nofun⟩ [⟨['1'], by decide⟩]
  have hflow : Flows (readExpression d) false (timesOne w) [] fun ts => ∃ t o u, ts = [u, o, t] ∧
      t.Denotes 0 (.string (String.ofList w)) ∧ o.rule = .between (.arithmetic .mul) ∧
      u.Denotes 0 (.number 1.0) := by
    have hlast : Flows (readExpression d) false ['1'] [] fun ts =>
        ∃ u, ts = [u] ∧ u.Denotes 0 (.number 1.0) := by
      refine .operand (.of_head (by decide) (by decide)) takes_one .done ?_
      rintro _ _ hu rfl
      exact hu
    have hrest : Flows (readExpression d) true ['*', ' ', '1'] [] fun ts => ∃ o u, ts = [u, o] ∧
        o.rule = .between (.arithmetic .mul) ∧ u.Denotes 0 (.number 1.0) := by
      refine .operator (.of_head (by decide) (by decide)) hop hlast ?_
      rintro _ _ ⟨o, rfl, ho⟩ ⟨u, rfl, hu⟩
      exact ⟨o, u, rfl, ho, hu⟩
    refine .operand (.of_head (by decide) (by decide)) hstring hrest ?_
    rintro _ _ ⟨t, rfl, ht⟩ ⟨o, u, rfl, ho, hu⟩
    exact ⟨t, o, u, rfl, ht, ho, hu⟩
  have hexpression := hflow.expression (blankLength_cons (by decide) _)
    (.of_endsValue (by decide) rfl) (.of_endsValue (by decide) rfl)
  have hrecurse : Pattern.recurse.TakesOne (readExpression (d + 1)) (timesOne w) []
      (Token.Denotes 2 (ArithmeticOp.mul.apply (.string (String.ofList w)) (.number 1.0))) := by
    intro k hk
    obtain ⟨_, k', hacc, hrest, hlt, _, rfl, k₁, k₂, _, rfl, t, o, u, rfl, ht, ho, hu⟩ :=
      hexpression k hk
    exact ⟨_, k', accepts_recurse_iff.mpr hacc, hrest, hlt, _, rfl, ht.arithmetic ho hu k₁ k₂⟩
  show (Pattern.choice ([assignment] ++ .recurse :: [])).TakesOne _ _ _ _
  refine .choice (fun z hz => ?_) hrecurse
  rw [List.mem_singleton.mp hz]
  exact .of_head (by decide) (by decide)

theorem passes_timesOne {w : List Char} (hw : isQuotable '\x27' w = true) :
    Scan.Passes 0 (timesOne w) := by
  have hpasses := (Scan.Passes.between_quotes (.inl rfl) hw).append
    (.chars (l := [' ', '*', ' ', '1']) (by decide))
  rwa [List.cons_append, List.append_assoc] at hpasses

/-! ## Both ways -/

/-- A numeral has the tree of a number. -/
theorem exists_parseWithin_numeral {t : String} (ht : isNumeral t.toList = true) :
    ∃ x, LiteralOf t.toList x ∧ ∀ limit, 1 ≤ limit →
      ∃ pos, parseWithin limit t = .ok (.number pos x) := by
  obtain ⟨x, hx, htakes⟩ := takes_statement_numeral ht
  have hpast : pastBlanks t.toList = t.toList := by
    have hall : ('.' :: "0123456789".toList).all isSolid = true := by decide
    obtain ⟨c, l, hcons, hc⟩ := hx.exists_cons
    rw [hcons, pastBlanks_cons (List.all_eq_true.mp hall c hc)]
  have hstatement : statement.TakesOne (readExpression (t.toList.length + 1)) (pastBlanks t.toList)
      [] fun u => ∀ limit, 1 ≤ limit → ∃ pos, u.build limit 0 = .ok (.number pos x) := by
    rw [hpast]
    exact htakes t.toList.length
  obtain ⟨u, hu, hparse⟩ := exists_parseWithin_eq_build hstatement
  refine ⟨x, hx, fun limit hlimit => ?_⟩
  obtain ⟨pos, hpos⟩ := hu limit hlimit
  exact ⟨pos, (hparse limit (deepOpener?_of_passes hx.passes (Nat.zero_le _))).trans hpos⟩

/-- A text in single quotes times one has the number of the text for a value. -/
theorem exists_parseWithin_timesOne {t : String} (hquotable : isQuotable '\x27' t.toList = true)
    (hunescape : unescape t.toList = .ok t.toList) {limit : Nat} (hlimit : 2 ≤ limit) :
    ∃ product, parseWithin limit ("\x27" ++ t ++ "\x27 * 1") = .ok product ∧
      product.Gives (.number (parseNumber t.toList)) := by
  generalize hsource : "\x27" ++ t ++ "\x27 * 1" = source
  have hchars : source.toList = timesOne t.toList := by
    rw [← hsource, String.toList_append, String.toList_append, List.append_assoc]
    rfl
  have hstatement : statement.TakesOne (readExpression (source.toList.length + 1))
      (pastBlanks source.toList) []
      (Token.Denotes 2 (ArithmeticOp.mul.apply (.string t) (.number 1.0))) := by
    rw [hchars, timesOne, pastBlanks_cons (by decide)]
    have htakes := takes_timesOne (d := (timesOne t.toList).length) hquotable hunescape
    rwa [String.ofList_toList] at htakes
  obtain ⟨u, hu, hparse⟩ := exists_parseWithin_eq_build hstatement
  obtain ⟨product, hbuild, hgives⟩ := hu.2 limit 0 (by omega)
  have hopener : deepOpener? limit source.toList = none := by
    rw [hchars]
    exact deepOpener?_of_passes (passes_timesOne hquotable) (Nat.zero_le _)
  have hvalue : ArithmeticOp.mul.apply (.string t) (.number 1.0) =
      .number (parseNumber t.toList) := congrArg Value.number (Binary.float_mul_one _)
  rw [hvalue] at hgives
  exact ⟨product, (hparse limit hopener).trans hbuild, hgives⟩

/-- A numeral is parsed as the literal of a number, and its text times one evaluates to the number of
the text.  These are the same number if the numeral is a decimal, or if its value fits 64 bits and is
a short number without its last digit; they are not the same beyond 64 bits, where only the text is
not a number. -/
theorem numeral_eq_product {t : String} (ht : isNumeral t.toList = true) {limit : Nat}
    (hlimit : 2 ≤ limit) : ∃ (pos : Position) (x : Float) (product : Node),
      parseWithin limit t = .ok (.number pos x) ∧
      parseWithin limit ("\x27" ++ t ++ "\x27 * 1") = .ok product ∧
      (∀ {σ : Type} (s : Surroundings σ) (run : Run σ),
        ((Node.number pos x).evaluate s run).1 = .ok (.number x) ∧
        (product.evaluate s run).1 = .ok (.number (parseNumber t.toList))) ∧
      ((∀ r N, radixValue? t.toList = some (r, N) → N < 2 ^ 64 ∧ IsShort (N / r)) →
        x = parseNumber t.toList) ∧
      ∀ r N, radixValue? t.toList = some (r, N) → 2 ^ 64 ≤ N →
        parseNumber t.toList = 0.0 / 0.0 ∧ x ≠ 0.0 / 0.0 := by
  obtain ⟨x, hx, hliteral⟩ := exists_parseWithin_numeral ht
  obtain ⟨pos, hpos⟩ := hliteral limit (by omega)
  obtain ⟨product, hproduct, hgives⟩ :=
    exists_parseWithin_timesOne hx.isQuotable.1 hx.isQuotable.2 hlimit
  refine ⟨pos, x, product, hpos, hproduct, fun s run => ⟨?_, ?_⟩, hx.eq_parseNumber,
    fun r N => hx.ne_parseNumber⟩
  · exact (Node.Gives.evaluate (Node.gives_number pos x) s run).1
  · exact (hgives.evaluate s run).1

/-- The greatest number of 64 bits, and one of 57 bits that is short only without its last digit. -/
theorem numeral_eq_product_words :
    (∃ (pos : Position) (x : Float) (product : Node),
      parseWithin 64 "0xFFFFFFFFFFFFF800" = .ok (.number pos x) ∧
      parseWithin 64 "\x270xFFFFFFFFFFFFF800\x27 * 1" = .ok product ∧
      x = parseNumber "0xFFFFFFFFFFFFF800".toList) ∧
    ∃ (pos : Position) (x : Float),
      parseWithin 2 "0x1FFFFFFFFFFFFFF" = .ok (.number pos x) ∧
      x = parseNumber "0x1FFFFFFFFFFFFFF".toList := by
  have hfirst : isNumeral "0xFFFFFFFFFFFFF800".toList = true := by decide +kernel
  have hsecond : isNumeral "0x1FFFFFFFFFFFFFF".toList = true := by decide +kernel
  have hfirst' : radixValue? "0xFFFFFFFFFFFFF800".toList = some (16, 2 ^ 64 - 2 ^ 11) := by
    decide +kernel
  have hsecond' : radixValue? "0x1FFFFFFFFFFFFFF".toList = some (16, 2 ^ 57 - 1) := by
    decide +kernel
  obtain ⟨pos, x, product, hliteral, hproduct, -, heq, -⟩ :=
    numeral_eq_product hfirst (by decide : 2 ≤ 64)
  obtain ⟨pos', x', -, hliteral', -, -, heq', -⟩ :=
    numeral_eq_product hsecond (by decide : 2 ≤ 2)
  refine ⟨⟨pos, x, product, hliteral, hproduct, heq fun r N h => ?_⟩,
    pos', x', hliteral', heq' fun r N h => ?_⟩
  · rw [hfirst'] at h
    cases h
    exact ⟨by decide, 2 ^ 53 - 1, 7, by decide, by decide⟩
  · rw [hsecond'] at h
    cases h
    exact ⟨by decide, 2 ^ 53 - 1, 0, by decide, by decide⟩

/-- A numeral of 58 bits, of which the literal is rounded twice, and one of 65 bits, whose text is
not a number. -/
theorem numeral_ne_product :
    (isNumeral "0x200000000000011".toList = true ∧ ∃ pos x,
      parseWithin 64 "0x200000000000011" = .ok (.number pos x) ∧
      x ≠ parseNumber "0x200000000000011".toList) ∧
    isNumeral "0x10000000000000000".toList = true ∧ ∃ pos x,
      parseWithin 64 "0x10000000000000000" = .ok (.number pos x) ∧
      x ≠ parseNumber "0x10000000000000000".toList := by
  have hfirst : isNumeral "0x200000000000011".toList = true := by decide +kernel
  have hsecond : isNumeral "0x10000000000000000".toList = true := by decide +kernel
  have hfirst' : LiteralOf "0x200000000000011".toList
      (accumulateRadix (2 ^ 4) "200000000000011".toList) :=
    .radix (N := 2 ^ 57 + 17) (by decide) rfl (by decide) (by decide +kernel)
  have hsecond' : LiteralOf "0x10000000000000000".toList
      (accumulateRadix (2 ^ 4) "10000000000000000".toList) :=
    .radix (N := 2 ^ 64) (by decide) rfl (by decide) (by decide +kernel)
  obtain ⟨x, hx, hliteral⟩ := exists_parseWithin_numeral hfirst
  obtain ⟨y, hy, hliteral'⟩ := exists_parseWithin_numeral hsecond
  obtain ⟨pos, hpos⟩ := hliteral 64 (by decide)
  obtain ⟨pos', hpos'⟩ := hliteral' 64 (by decide)
  refine ⟨⟨hfirst, pos, x, hpos, ?_⟩, hsecond, pos', y, hpos', ?_⟩
  · rw [hx.unique hfirst']
    decide +kernel
  · rw [hy.unique hsecond']
    decide +kernel

end ExprLang
