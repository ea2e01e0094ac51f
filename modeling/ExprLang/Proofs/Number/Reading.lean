import ExprLang.Proofs.Number.ReadBack

/-!
# ExprLang.Proofs.Number.Reading

Which texts are numbers.

A decimal numeral consists of digits, points, exponent marks and signs (`mem_decimalChars`), so that
nothing is cut off it, no radix is seen in it, and its text is the number that the numeral denotes
(`parseNumber_of_readDecimal`).  A text with any other character than those of decimals, of the
digits of some radix and of the word for infinity is not a number (`parseNumber_eq_nan`).
-/

namespace ExprLang

variable {s l : List Char} {c : Char}

/-! ## White space at the ends -/

theorem mem_dropWhile {p : Char → Bool} (hs : c ∈ s) (hc : p c = false) : c ∈ s.dropWhile p := by
  rw [← List.takeWhile_append_dropWhile (p := p) (l := s), List.mem_append] at hs
  refine hs.resolve_left fun htake => ?_
  rw [List.mem_takeWhile_imp htake] at hc
  cases hc

/-- Only white space is cut off. -/
theorem mem_trimWhitespace (hs : c ∈ s) (hc : isWhitespace c = false) : c ∈ trimWhitespace s :=
  List.mem_reverse.mpr (mem_dropWhile (List.mem_reverse.mpr (mem_dropWhile hs hc)) hc)

theorem trimWhitespace_eq_self (hs : ∀ c ∈ s, isWhitespace c = false) : trimWhitespace s = s := by
  have hdrop : ∀ {l : List Char}, (∀ c ∈ l, isWhitespace c = false) →
      l.dropWhile isWhitespace = l := by
    intro l hl
    rw [List.dropWhile_eq_self_iff]
    intro hlen
    simp [hl _ (List.getElem_mem hlen)]
  rw [trimWhitespace, hdrop hs, hdrop fun c hc => hs c (List.mem_reverse.mp hc), List.reverse_reverse]

/-! ## Decimals -/

/-- The characters of decimal numerals. -/
def decimalChars : List Char :=
  ['0', '1', '2', '3', '4', '5', '6', '7', '8', '9', '.', 'e', 'E', '+', '-']

theorem isWhitespace_of_mem (hc : c ∈ decimalChars) : isWhitespace c = false := by
  have hall : (decimalChars.all fun c => !isWhitespace c) = true := by decide
  simpa using List.all_eq_true.mp hall c hc

theorem radixOf?_of_mem (hc : c ∈ decimalChars) : radixOf? c = none := by
  have hall : (decimalChars.all fun c => radixOf? c == none) = true := by decide
  simpa using List.all_eq_true.mp hall c hc

theorem mem_decimalChars_of_digit (hc : isDecimalDigit c = true) : c ∈ decimalChars :=
  List.mem_append_left ['.', 'e', 'E', '+', '-'] (mem_of_isDecimalDigit hc)

theorem mem_decimalChars_of_all (hl : l.all isDecimalDigit = true) : ∀ c ∈ l, c ∈ decimalChars :=
  fun _ hc => mem_decimalChars_of_digit (List.all_eq_true.mp hl _ hc)

theorem mem_decimalChars_of_readExponent {e : Int} (h : readExponent l = some e) :
    ∀ c ∈ l, c ∈ decimalChars := by
  have hall : ∀ {l : List Char} {n : Int},
      (if l ≠ [] ∧ l.all isDecimalDigit then some n else none) = some e →
        ∀ c ∈ l, c ∈ decimalChars := by
    intro l n h
    split at h
    · next hl => exact mem_decimalChars_of_all hl.2
    · cases h
  unfold readExponent at h
  split at h
  · exact List.forall_mem_cons.mpr ⟨by decide, hall h⟩
  · exact List.forall_mem_cons.mpr ⟨by decide, hall h⟩
  · exact hall h

/-- The characters of a decimal numeral. -/
theorem mem_decimalChars {y : Float} (h : readDecimal s = some y) : ∀ c ∈ s, c ∈ decimalChars := by
  have htake : ∀ l : List Char, ∀ c ∈ l.takeWhile isDecimalDigit, c ∈ decimalChars := fun l c hc =>
    mem_decimalChars_of_digit (List.mem_takeWhile_imp hc)
  unfold readDecimal at h
  extract_lets whole afterWhole fraction afterFraction at h
  have hexponent : ∀ c ∈ afterFraction, c ∈ decimalChars := by
    by_cases hempty : whole = [] ∧ fraction = []
    · rw [if_pos hempty] at h
      cases h
    · rw [if_neg hempty] at h
      cases hafter : afterFraction with
      | nil => exact nofun
      | cons c r =>
        rw [hafter] at h
        dsimp only at h
        split at h
        · next hmark =>
          obtain ⟨e, he, -⟩ := Option.map_eq_some_iff.mp h
          have hc : c ∈ decimalChars := by rcases hmark with rfl | rfl <;> decide
          exact List.forall_mem_cons.mpr ⟨hc, mem_decimalChars_of_readExponent he⟩
        · cases h
  have hpoint : ∀ c ∈ afterWhole, c ∈ decimalChars := by
    cases hafter : afterWhole with
    | nil => exact nofun
    | cons c r =>
      simp only [afterFraction, hafter] at hexponent
      split at hexponent
      · next r' hpoint =>
        rw [hpoint, ← List.takeWhile_append_dropWhile (p := isDecimalDigit) (l := r')]
        exact List.forall_mem_cons.mpr
          ⟨by decide, List.forall_mem_append.mpr ⟨htake r', hexponent⟩⟩
      · exact hexponent
  rw [← List.takeWhile_append_dropWhile (p := isDecimalDigit) (l := s)]
  exact List.forall_mem_append.mpr ⟨htake s, hpoint⟩

/-- A numeral without a sign begins with none. -/
theorem head?_of_readDecimal {y : Float} (h : readDecimal s = some y) :
    s ≠ [] ∧ s.head? ≠ some '-' ∧ s.head? ≠ some '+' := by
  have hsign : ∀ (c : Char) (l : List Char), isDecimalDigit c = false → c ≠ '.' →
      readDecimal (c :: l) = none := by
    intro c l hc hpoint
    simp [readDecimal, hc, hpoint]
  refine ⟨?_, fun hminus => ?_, fun hplus => ?_⟩
  · rintro rfl
    cases h
  · obtain ⟨l, rfl⟩ := List.head?_eq_some_iff.mp hminus
    rw [hsign '-' l (by decide) (by decide)] at h
    cases h
  · obtain ⟨l, rfl⟩ := List.head?_eq_some_iff.mp hplus
    rw [hsign '+' l (by decide) (by decide)] at h
    cases h

/-! ## Texts that are numbers -/

theorem parseSigned_neg (hs : s ≠ "Infinity".toList) :
    parseSigned ('-' :: s) = (readDecimal s).map fun y => -y := by
  show Option.map (fun y : Float => -y) (if s = "Infinity".toList then _ else readDecimal s) = _
  rw [if_neg hs]

theorem parseSigned_of_head? (hs : s ≠ "Infinity".toList) (hminus : s.head? ≠ some '-')
    (hplus : s.head? ≠ some '+') : parseSigned s = readDecimal s := by
  have hnegative : (s.head? == some '-') = false := beq_eq_false_iff_ne.mpr hminus
  unfold parseSigned
  rw [hnegative]
  split
  · exact absurd rfl hminus
  · exact absurd rfl hplus
  · dsimp only
    rw [if_neg hs]
    exact Option.map_id'

/-- A decimal numeral is the number that it denotes. -/
theorem parseNumber_of_readDecimal {y : Float} (h : readDecimal s = some y) (negative : Bool) :
    parseNumber ((if negative then ['-'] else []) ++ s) = if negative then -y else y := by
  obtain ⟨hne, hminus, hplus⟩ := head?_of_readDecimal h
  have hchars := mem_decimalChars h
  have hblank : ∀ c ∈ s, isWhitespace c = false := fun c hc => isWhitespace_of_mem (hchars c hc)
  have hword : s ≠ "Infinity".toList := by
    rintro rfl
    exact absurd (hchars 'I' (by decide)) (by decide)
  cases negative with
  | true =>
    have htrim : trimWhitespace ('-' :: s) = '-' :: s :=
      trimWhitespace_eq_self (List.forall_mem_cons.mpr ⟨by decide, hblank⟩)
    show parseNumber ('-' :: s) = -y
    rw [parseNumber, htrim]
    show (parseSigned ('-' :: s)).getD _ = _
    rw [parseSigned_neg hword, h]
    rfl
  | false =>
    have hsigned := (parseSigned_of_head? hword hminus hplus).trans h
    show parseNumber s = y
    rw [parseNumber, trimWhitespace_eq_self hblank]
    split
    · exact absurd rfl hne
    · next d digits =>
      rw [radixOf?_of_mem (hchars d (by simp)), hsigned]
      rfl
    · rw [hsigned]
      rfl

/-! ## Texts that are not -/

/-- The characters of texts that are numbers: those of decimals, the marks and digits of the other
radices, and the letters of the word for infinity. -/
def numberChars : List Char :=
  decimalChars ++ ['x', 'X', 'o', 'O', 'b', 'B', 'a', 'c', 'd', 'f', 'A', 'C', 'D', 'F', 'I', 'n',
    'i', 't', 'y']

theorem mem_numberChars_of_digitValue? {d : Nat} (hd : digitValue? c = some d) :
    c ∈ numberChars := by
  have hall : ((List.range 103).all fun k => (digitValue? (Char.ofNat k)).isNone ||
      numberChars.contains (Char.ofNat k)) = true := by decide
  have hlt : c.toNat < 103 := by
    have hle : ∀ {x : Char}, c ≤ x → c.toNat ≤ x.toNat := fun h => h
    unfold digitValue? at hd
    split at hd
    · next h => exact Nat.lt_of_le_of_lt (hle h.2) (by decide)
    · split at hd
      · next h => exact Nat.lt_of_le_of_lt (hle h.2) (by decide)
      · split at hd
        · next h => exact Nat.lt_of_le_of_lt (hle h.2) (by decide)
        · cases hd
  have hc := List.all_eq_true.mp hall c.toNat (List.mem_range.mpr hlt)
  rw [Char.ofNat_toNat, hd] at hc
  simpa using hc

theorem mem_numberChars_of_radixOf? {radix : Nat} (h : radixOf? c = some radix) :
    c ∈ numberChars := by
  unfold radixOf? at h
  split at h
  case h_7 => cases h
  all_goals decide

/-- One digit more of a whole number in a radix. -/
def radixStep (radix : Nat) (n? : Option Nat) (c : Char) : Option Nat :=
  match n?, digitValue? c with
  | some n, some d => if d < radix then some (radix * n + d) else none
  | _, _ => none

theorem readRadix_eq_foldl (radix : Nat) (l : List Char) :
    readRadix radix l = l.foldl (radixStep radix) (some 0) := rfl

theorem foldl_radixStep_none (radix : Nat) (l : List Char) :
    l.foldl (radixStep radix) none = none := by
  induction l with
  | nil => rfl
  | cons c l ih => exact ih

/-- What is no digit spoils a numeral. -/
theorem readRadix_eq_none {radix : Nat} (hs : c ∈ s) (hd : digitValue? c = none) :
    readRadix radix s = none := by
  obtain ⟨u, v, rfl⟩ := List.append_of_mem hs
  have hstep : ∀ n?, radixStep radix n? c = none := by
    intro n?
    unfold radixStep
    rw [hd]
    cases n? <;> rfl
  rw [readRadix_eq_foldl, List.foldl_append, List.foldl_cons, hstep, foldl_radixStep_none]

theorem parseSigned_eq_none (hs : c ∈ s) (hc : c ∉ numberChars) : parseSigned s = none := by
  have hnone : ∀ {l : List Char}, c ∈ l → readDecimal l = none := by
    intro l hl
    cases h : readDecimal l with
    | none => rfl
    | some y => exact absurd (List.mem_append_left _ (mem_decimalChars h c hl)) hc
  have hword : ∀ {l : List Char}, c ∈ l → l ≠ "Infinity".toList := by
    rintro l hl rfl
    have hall : ("Infinity".toList.all numberChars.contains) = true := by decide
    exact hc (by simpa using List.all_eq_true.mp hall c hl)
  have htail : ∀ {d : Char} {l : List Char}, c ∈ d :: l → d ∈ numberChars → c ∈ l := by
    intro d l hl hd
    refine (List.mem_cons.mp hl).resolve_left ?_
    rintro rfl
    exact hc hd
  unfold parseSigned
  split
  · next l =>
    have hl := htail hs (by decide)
    simp only [if_neg (hword hl), hnone hl, Option.map_none]
  · next l =>
    have hl := htail hs (by decide)
    simp only [if_neg (hword hl), hnone hl, Option.map_none]
  · simp only [if_neg (hword hs), hnone hs, Option.map_none]

/-- A text with a strange character is not a number. -/
theorem parseNumber_eq_nan (hs : c ∈ s) (hblank : isWhitespace c = false)
    (hc : c ∉ numberChars) : parseNumber s = 0.0 / 0.0 := by
  have htrim := mem_trimWhitespace hs hblank
  unfold parseNumber
  split
  · next hnil =>
    rw [hnil] at htrim
    cases htrim
  · next d digits hcons =>
    rw [hcons] at htrim
    cases hradix : radixOf? d with
    | none =>
      dsimp only
      rw [parseSigned_eq_none htrim hc]
      rfl
    | some radix =>
      have hdigits : c ∈ digits := by
        simp only [List.mem_cons] at htrim
        rcases htrim with rfl | rfl | h
        · exact absurd (by decide) hc
        · exact absurd (mem_numberChars_of_radixOf? hradix) hc
        · exact h
      have hvalue : digitValue? c = none := by
        cases h : digitValue? c with
        | none => rfl
        | some v => exact absurd (mem_numberChars_of_digitValue? h) hc
      have hword : readWord radix digits = none := by
        rw [readWord, readRadix_eq_none hdigits hvalue]
        split <;> rfl
      dsimp only
      rw [hword]
  · rw [parseSigned_eq_none htrim hc]
    rfl

end ExprLang
