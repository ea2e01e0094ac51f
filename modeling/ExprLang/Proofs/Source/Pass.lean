import Mathlib.Data.String.Basic
import ExprLang.Grammar.Blank
import ExprLang.Grammar.Language
import ExprLang.Source.Nesting

/-!
# ExprLang.Proofs.Source.Pass

The pass over a text as a walk: which state it reaches after some characters, and how many levels
were open at most.

`Scan.step` ends a line comment at a line feed only, and takes every slash and asterisk for the
beginning of a comment.  The grammar ends a line comment at a carriage return as well, and knows
only comments that are closed.  `Scan.next` is the step with these two repaired; the walks are
walks of it, and `ExprLang.Proofs.Source.Comments` says for which texts the two passes agree.
-/

namespace ExprLang

open ExprLang.Language

/-- Whether the block comment in which a text begins is closed. -/
def closesBlock : List Char → Bool
  | [] => false
  | c :: rest => (c == '*' && rest.head? == some '/') || closesBlock rest

namespace Scan

/-- The white space of ASCII. -/
def asciiSpace : List Char := ['\t', '\n', '\x0b', '\x0c', '\r', ' ']

/-- In ASCII, letters and digits are the ones of names. -/
theorem isWhitespace_and_isAlphanumeric {c : Char} (hc : c.toNat < 128) :
    isWhitespace c = asciiSpace.contains c ∧ isAlphanumeric c = (isLetter c || isDigit c) := by
  have hall : ∀ n < 128, isWhitespace (Char.ofNat n) = asciiSpace.contains (Char.ofNat n) ∧
      isAlphanumeric (Char.ofNat n) = (isLetter (Char.ofNat n) || isDigit (Char.ofNat n)) := by
    decide +kernel
  have h := hall c.toNat hc
  rwa [Char.ofNat_toNat] at h

/-- The state after the character `c`, where `rest` follows, with comments as in the grammar. -/
def next (s : Scan) (c : Char) (rest : List Char) : Scan :=
  if s.mode = .line ∧ c = '\r' then { s with mode := .code }
  else if s.mode = .code ∧ c = '/' ∧ rest.head? = some '*' ∧ closesBlock rest.tail = false then
    s.step c none
  else s.step c rest.head?

/-- The most levels that are open at once when a text is passed over from the state `s`. -/
def peakBy (next : Scan → Char → List Char → Scan) (s : Scan) : List Char → Nat
  | [] => s.opened.length
  | c :: rest => max s.opened.length (peakBy next (next s c rest) rest)

/-- The most levels open at once in the pass itself. -/
def peak (s : Scan) (text : List Char) : Nat := peakBy (fun s c rest => s.step c rest.head?) s text

/-- The most levels open at once, with comments as in the grammar. -/
def truePeak (s : Scan) (text : List Char) : Nat := peakBy next s text

theorem length_opened_le_peakBy (f : Scan → Char → List Char → Scan) (s : Scan)
    (text : List Char) : s.opened.length ≤ peakBy f s text := by
  cases text with
  | nil => exact Nat.le_refl _
  | cons c rest => exact Nat.le_max_left _ _

/-- Nothing is too deep exactly where the peak keeps to the limit. -/
theorem deepOpenerFrom_eq_none_iff {limit : Nat} {s : Scan} (hs : s.opened.length ≤ limit)
    (p : Position) (text : List Char) :
    deepOpenerFrom limit s p text = none ↔ s.peak text ≤ limit := by
  induction text generalizing s p with
  | nil => simpa [deepOpenerFrom, peak, peakBy] using hs
  | cons c rest ih =>
    have hle := length_opened_le_peakBy (fun s c rest => s.step c rest.head?)
      (s.step c rest.head?) rest
    simp only [deepOpenerFrom]
    split
    · next hdeep =>
      simp only [reduceCtorEq, false_iff, peak, peakBy]
      omega
    · next hdeep =>
      rw [ih (by omega)]
      simp only [peak, peakBy]
      omega

end Scan

/-- Nothing in a text is too deep exactly where the peak keeps to the limit. -/
theorem deepOpener?_eq_none_iff (limit : Nat) (text : List Char) :
    deepOpener? limit text = none ↔ Scan.initial.peak text ≤ limit :=
  Scan.deepOpenerFrom_eq_none_iff (Nat.zero_le _) _ _

/-! ## Walks -/

/-- From the text `l` in the state `s` the pass comes to the text `l'` in the state `s'`, and on the
way, both ends included, at most `h` levels are open at once. -/
inductive Walk : List Char → Scan → Nat → List Char → Scan → Prop
  | refl (l : List Char) (s : Scan) : Walk l s s.opened.length l s
  | step {c : Char} {rest l' : List Char} {s s' : Scan} {h : Nat} :
      Walk rest (s.next c rest) h l' s' → Walk (c :: rest) s (max s.opened.length h) l' s'

namespace Walk

variable {l l' l'' : List Char} {s s' s'' : Scan} {h h' limit : Nat}

theorem length_le_left (w : Walk l s h l' s') : s.opened.length ≤ h := by
  cases w with
  | refl => exact Nat.le_refl _
  | step w => exact Nat.le_max_left _ _

theorem trans (w : Walk l s h l' s') (w' : Walk l' s' h' l'' s'') :
    Walk l s (max h h') l'' s'' := by
  induction w with
  | refl l s =>
    rw [Nat.max_eq_right w'.length_le_left]
    exact w'
  | step w ih =>
    rw [Nat.max_assoc]
    exact .step (ih w')

/-- What is ahead counts for the peak together with the way there. -/
theorem truePeak_eq (w : Walk l s h l' s') : s.truePeak l = max h (s'.truePeak l') := by
  induction w with
  | refl l s => exact (Nat.max_eq_right (Scan.length_opened_le_peakBy _ _ _)).symm
  | step w ih =>
    rw [Nat.max_assoc, ← ih]
    rfl

theorem truePeak_le (w : Walk l s h l' s') (hpeak : s.truePeak l ≤ limit) :
    s'.truePeak l' ≤ limit := by
  have := w.truePeak_eq
  omega

/-- One character. -/
theorem single {c : Char} {rest : List Char} (hs : s.next c rest = s') :
    Walk (c :: rest) s (max s.opened.length s'.opened.length) rest s' := by
  subst hs
  exact .step (.refl _ _)

end Walk

attribute [grind =] Scan.step Scan.next

/-! ## Single characters of the code -/

namespace Scan

/-- The state between tokens. -/
def code (st : List Opener) (b : Bool) : Scan := ⟨.code, st, b, false⟩

variable {st : List Opener} {b : Bool} {c : Char} {rest : List Char}

@[simp] theorem opened_code : (code st b).opened = st := rfl

/-- The characters that the code has a case for. -/
def isMark (c : Char) : Bool :=
  ['\x27', '"', '/', '\x60', '(', '[', '\x7b', ')', ']', '\x7d', '?', ':'].contains c

theorem next_code (hst : st.head? ≠ some .template) (hc : c ≠ '/') :
    (code st b).next c rest = (code st b).stepCode c rest.head? := by
  simp [next, step, code, hst, hc]

/-- Any other character only tells whether an operand ends. -/
theorem next_code_of_not_mark (hst : st.head? ≠ some .template) (hc : isMark c = false) :
    (code st b).next c rest =
      if isWhitespace c then code st b
      else code st (isAlphanumeric c || c == '_' || c == '$') := by
  simp only [isMark, List.contains_eq_mem, List.mem_cons, List.not_mem_nil, or_false,
    decide_eq_false_iff_not, not_or] at hc
  rw [next_code hst hc.2.2.1]
  simp [stepCode, hc, code]

theorem next_blank (hst : st.head? ≠ some .template) (hc : isBlank c = true) :
    (code st b).next c rest = code st b := by
  have hwhite : isMark c = false ∧ isWhitespace c = true := by
    simp only [isBlank, Bool.or_eq_true, beq_iff_eq] at hc
    obtain ((rfl | rfl) | rfl) | rfl := hc <;> decide
  rw [next_code_of_not_mark hst hwhite.1, if_pos hwhite.2]

/-- The characters of names, all of them below 128. -/
theorem toNat_lt_of_isNamePart (hc : isNamePart c = true) : c.toNat < 128 := by
  simp only [isNamePart, isNameStart, isLetter, isDigit, Bool.or_eq_true, Bool.and_eq_true,
    decide_eq_true_eq, beq_iff_eq, Char.le_def, UInt32.le_iff_toNat_le] at hc
  obtain ((⟨-, h⟩ | ⟨-, h⟩) | rfl) | ⟨-, h⟩ := hc
  · exact Nat.lt_of_le_of_lt h (by decide)
  · exact Nat.lt_of_le_of_lt h (by decide)
  · decide
  · exact Nat.lt_of_le_of_lt h (by decide)

/-- Any other character of ASCII than a mark or white space. -/
theorem next_code_ascii (hst : st.head? ≠ some .template) (hc : c.toNat < 128)
    (hplain : isMark c = false ∧ asciiSpace.contains c = false) :
    (code st b).next c rest = code st (isLetter c || isDigit c || c == '_' || c == '$') := by
  obtain ⟨hwhite, hword⟩ := isWhitespace_and_isAlphanumeric hc
  rw [next_code_of_not_mark hst hplain.1, hwhite, hplain.2, if_neg Bool.false_ne_true, hword]

/-- A character of a name, or a dollar sign, ends an operand. -/
theorem next_word (hst : st.head? ≠ some .template) (hc : isNamePart c = true ∨ c = '$') :
    (code st b).next c rest = code st true := by
  have hlt : c.toNat < 128 := by
    rcases hc with hc | rfl
    · exact toNat_lt_of_isNamePart hc
    · decide
  have hnone : ∀ l : List Char, l.all (fun d => !(isNamePart d || d == '$')) = true →
      l.contains c = false := by
    intro l hl
    rw [← Bool.not_eq_true, List.contains_iff_mem]
    intro hmem
    have hno := List.all_eq_true.mp hl c hmem
    rcases hc with hc | rfl
    · simp [hc] at hno
    · simp at hno
  have hflag : (isLetter c || isDigit c || c == '_' || c == '$') = true := by
    simp only [isNamePart, isNameStart, Bool.or_eq_true, beq_iff_eq] at hc ⊢
    tauto
  rw [next_code_ascii hst hlt ⟨hnone _ (by decide), hnone _ (by decide)⟩, hflag]

/-- The characters that operators and separators are made of, the slash apart. -/
def signs : List Char :=
  ['!', '~', '|', '&', '=', '<', '>', '+', '-', '*', '%', '.', ',', ';']

/-- After a sign an operand is to come. -/
theorem next_sign (hst : st.head? ≠ some .template) (hc : signs.contains c = true) :
    (code st b).next c rest = code st false := by
  have hall : signs.all (fun d => d.toNat < 128 && !isMark d && !asciiSpace.contains d &&
      !(isLetter d || isDigit d || d == '_' || d == '$')) = true := by
    decide
  have hsign := List.all_eq_true.mp hall c (List.contains_iff_mem.mp hc)
  simp only [Bool.and_eq_true, Bool.not_eq_true', decide_eq_true_eq] at hsign
  obtain ⟨⟨⟨hlt, hmark⟩, hspace⟩, hflag⟩ := hsign
  rw [next_code_ascii hst hlt ⟨hmark, hspace⟩, hflag]

/-- A slash that begins no comment divides after an operand. -/
theorem next_slash (hst : st.head? ≠ some .template) (hline : rest.head? ≠ some '/')
    (hblock : rest.head? = some '*' → closesBlock rest.tail = false) :
    (code st true).next '/' rest = code st false := by
  have hflag : isWhitespace '/' = false ∧ isAlphanumeric '/' = false :=
    isWhitespace_and_isAlphanumeric (by decide)
  by_cases hstar : rest.head? = some '*'
  · simp [next, step, code, hst, hstar, hblock hstar, stepCode, hflag]
  · simp [next, step, code, hst, hstar, hline, stepCode, hflag]

/-- A slash that begins no comment and does not follow an operand begins a regular expression. -/
theorem next_regexp (hst : st.head? ≠ some .template) (hline : rest.head? ≠ some '/')
    (hblock : rest.head? = some '*' → closesBlock rest.tail = false) :
    (code st false).next '/' rest = ⟨.regexp, st, true, false⟩ := by
  by_cases hstar : rest.head? = some '*'
  · simp [next, step, code, hst, hstar, hblock hstar, stepCode]
  · simp [next, step, code, hst, hstar, hline, stepCode]

/-- A comment begins. -/
theorem next_line_comment (hst : st.head? ≠ some .template) (hrest : rest.head? = some '/') :
    (code st b).next '/' rest = ⟨.line, st, b, false⟩ := by
  simp [next, step, code, hst, hrest, stepCode]

theorem next_block_comment (hst : st.head? ≠ some .template) (hrest : rest.head? = some '*')
    (hclose : closesBlock rest.tail = true) :
    (code st b).next '/' rest = ⟨.block, st, b, true⟩ := by
  simp [next, step, code, hst, hrest, hclose, stepCode]

theorem next_quote (hst : st.head? ≠ some .template) (hc : c = '\x27' ∨ c = '"') :
    (code st b).next c rest = ⟨.quoted c, st, true, false⟩ := by
  rw [next_code hst (by rcases hc with rfl | rfl <;> decide)]
  simp [stepCode, hc, code]

/-- An opening bracket, by its level. -/
def opening : Opener → Option Char
  | .paren => some '('
  | .bracket => some '['
  | .brace => some '\x7b'
  | _ => none

theorem next_opening (hst : st.head? ≠ some .template) {o : Opener} (ho : opening o = some c) :
    (code st b).next c rest = code (o :: st) false := by
  cases o <;> cases ho <;> rw [next_code hst (by decide)] <;> simp [stepCode, push, code]

/-- A closing bracket, by its level. -/
def closing : Opener → Option Char
  | .paren => some ')'
  | .bracket => some ']'
  | .brace | .templateHole => some '\x7d'
  | _ => none

theorem next_closing {o : Opener} (ho : closing o = some c) :
    (code (o :: st) b).next c rest = code st true := by
  cases o <;> cases ho <;> rw [next_code (by simp) (by decide)] <;> simp [stepCode, popIf, code]

theorem next_backtick (hst : st.head? ≠ some .template) :
    (code st b).next '\x60' rest = code (.template :: st) b := by
  rw [next_code hst (by decide)]
  simp [stepCode, code]

/-- A question mark that begins no other operator opens a conditional. -/
theorem next_choice (hst : st.head? ≠ some .template) (hcolon : rest.head? ≠ some ':')
    (hdot : rest.head? ≠ some '.') :
    (code st b).next '?' rest = code (.choice :: st) false := by
  rw [next_code hst (by decide)]
  simp [stepCode, push, code, hcolon, hdot]

/-- The mark of `?:` or `?.` takes the next character along. -/
theorem next_mark (hst : st.head? ≠ some .template)
    (hrest : rest.head? = some ':' ∨ rest.head? = some '.') :
    (code st b).next '?' rest = ⟨.code, st, false, true⟩ := by
  rw [next_code hst (by decide)]
  simp [stepCode, hrest, code]

/-- A colon closes a conditional, if one was opened last. -/
theorem next_colon (hst : st.head? ≠ some .template) :
    (code st b).next ':' rest = code (if st.head? = some .choice then st.tail else st) false := by
  rw [next_code hst (by decide)]
  cases st with
  | nil => rfl
  | cons o st => cases o <;> rfl

/-! ## Single characters of a template -/

theorem next_template {c : Char} {rest : List Char} :
    (code (.template :: st) b).next c rest =
      (code (.template :: st) b).stepTemplate c rest.head? := by
  by_cases hc : c = '/'
  · subst hc
    simp [next, step, code, stepTemplate]
  · simp [next, step, code, hc]

/-- A character that ends nothing and opens nothing. -/
theorem next_template_text (hslash : c ≠ '\\') (htick : c ≠ '\x60')
    (hhole : ¬ (c = '$' ∧ rest.head? = some '\x7b')) :
    (code (.template :: st) b).next c rest = code (.template :: st) b := by
  rw [next_template, stepTemplate, if_neg hslash, if_neg htick, if_neg hhole]

theorem next_template_escape :
    (code (.template :: st) b).next '\\' rest = ⟨.code, .template :: st, b, true⟩ := by
  rw [next_template]
  simp [stepTemplate, code]

theorem next_template_end :
    (code (.template :: st) b).next '\x60' rest = code st true := by
  rw [next_template]
  simp [stepTemplate, code]

theorem next_template_hole (hrest : rest.head? = some '\x7b') :
    (code (.template :: st) b).next '$' rest =
      ⟨.code, .templateHole :: .template :: st, false, true⟩ := by
  rw [next_template]
  simp [stepTemplate, push, code, hrest]

/-! ## Single characters elsewhere -/

/-- A character that belongs to what was read last. -/
theorem next_skipping {mode : ScanMode} (hmode : mode ≠ .line) :
    Scan.next ⟨mode, st, b, true⟩ c rest = ⟨mode, st, b, false⟩ := by
  simp [next, step, hmode]

theorem next_quoted {q : Char} (hslash : c ≠ '\\') (hq : c ≠ q) :
    Scan.next ⟨.quoted q, st, b, false⟩ c rest = ⟨.quoted q, st, b, false⟩ := by
  simp [next, step, hslash, hq]

theorem next_quoted_escape {q : Char} :
    Scan.next ⟨.quoted q, st, b, false⟩ '\\' rest = ⟨.quoted q, st, b, true⟩ := by
  simp [next, step]

theorem next_quoted_end {q : Char} (hq : q ≠ '\\') :
    Scan.next ⟨.quoted q, st, b, false⟩ q rest = code st b := by
  simp [next, step, code, hq]

theorem next_regexp_text (hslash : c ≠ '\\') (hend : c ≠ '/') (hline : c ≠ '\n') :
    Scan.next ⟨.regexp, st, b, false⟩ c rest = ⟨.regexp, st, b, false⟩ := by
  simp [next, step, hslash, hend, hline]

theorem next_regexp_escape :
    Scan.next ⟨.regexp, st, b, false⟩ '\\' rest = ⟨.regexp, st, b, true⟩ := by
  simp [next, step]

theorem next_regexp_end :
    Scan.next ⟨.regexp, st, b, false⟩ '/' rest = code st b := by
  simp [next, step, code]

end Scan

end ExprLang
