import ExprLang.Proofs.Source.Lockstep

/-!
# ExprLang.Proofs.Source.Words

The words of the grammar in step with the pass over the text: names, numbers, strings and regular
expressions, all of which leave the open levels as they are and end an operand.

Between tokens the pass knows which levels are open and whether an operand was read last
(`Ends`, and `Starts` where blanks have been skipped).
-/

namespace ExprLang

open ExprLang.Language Scan Pattern

/-- The pass is between tokens; `f` tells whether an operand was read last, where that is known. -/
def Ends (st : List Opener) (f : Option Bool) : Stage :=
  fun l s => ∃ b, (∀ x ∈ f, b = x) ∧ Between st b l s

/-- The same, where no blank begins. -/
def Starts (st : List Opener) (f : Option Bool) : Stage :=
  fun l s => Ends st f l s ∧ blankLength l = 0

variable {limit : Nat} {n₁ n₂ : Reader} {sp : Spacing} {h : Nat} {st : List Opener}
  {f g : Option Bool} {x y : Pattern}

theorem Ends.opened {l : List Char} {s : Scan} (hs : Ends st f l s) : s.opened = st := by
  obtain ⟨b, -, hs⟩ := hs
  exact hs.1

theorem Ends.code {c : Char} {l : List Char} {s : Scan} (hs : Ends st f (c :: l) s) :
    ∃ b, (∀ x ∈ f, b = x) ∧ s = Scan.code st b := by
  obtain ⟨b, hb, hs⟩ := hs
  exact ⟨b, hb, hs.2 (List.cons_ne_nil c l)⟩

theorem ends_code {b : Bool} (l : List Char) (hb : ∀ x ∈ f, b = x) : Ends st f l (Scan.code st b) :=
  ⟨b, hb, between_code st b l⟩

theorem Ends.weaken {l : List Char} {s : Scan} (hs : Ends st f l s) : Ends st none l s := by
  obtain ⟨b, -, hs⟩ := hs
  exact ⟨b, nofun, hs⟩

theorem skips_free (hst : st.head? ≠ some .template) (hh : st.length ≤ h) :
    Skips .free h (Ends st f) (Starts st f) := by
  rintro k s ⟨b, hb, hs⟩
  obtain ⟨s', w, hbetween, hzero⟩ := hs.walk_skip hst
  rw [Cursor.rest_skip_free]
  exact ⟨s', st.length, hh, w, ⟨b, hb, hbetween⟩, hzero⟩

theorem skips_ends (hsp : sp ≠ .free) : Skips sp st.length (Ends st f) (Ends st f) :=
  .of_ne_free hsp fun l s hs => by rw [hs.opened]

/-- Where nothing is read. -/
theorem Ends.stay {l : List Char} {s : Scan} (hs : Ends st f l s) :
    s.opened.length = st.length ∧ Ends st f l s :=
  ⟨by rw [hs.opened], hs⟩

theorem Starts.stay {l : List Char} {s : Scan} (hs : Starts st f l s) :
    s.opened.length = st.length ∧ Ends st f l s :=
  hs.1.stay

/-! ## Words and signs -/

/-- One character that leads from one state to another without opening or closing a level. -/
theorem walk_single {c : Char} {l : List Char} {s s' : Scan} (hs : s.opened.length = h)
    (hs' : s'.opened.length = h) (hnext : s.next c l = s') : Walk (c :: l) s h l s' := by
  have w := Walk.single hnext
  rwa [hs, hs', Nat.max_self] at w

/-- Some characters after each of which the flag is `b`. -/
theorem walk_chars {b : Bool} {w : List Char} (hw : w ≠ [])
    (hnext : ∀ c ∈ w, ∀ b' rest, (Scan.code st b').next c rest = Scan.code st b) (b' : Bool)
    (l : List Char) : Walk (w ++ l) (Scan.code st b') st.length l (Scan.code st b) := by
  induction w generalizing b' with
  | nil => exact absurd rfl hw
  | cons c w ih =>
    have hc := hnext c List.mem_cons_self
    have hstep : ∀ {t : List Char}, Walk t (Scan.code st b) st.length l (Scan.code st b) →
        Walk (c :: t) (Scan.code st b') st.length l (Scan.code st b) := by
      intro t walk
      rw [← hc b' t] at walk
      have := Walk.step walk
      rwa [hc b' t, opened_code, Nat.max_self] at this
    cases w with
    | nil => exact hstep (.refl _ _)
    | cons d w => exact hstep (ih (List.cons_ne_nil d w) (fun e he => hnext e (.tail _ he)) b)

theorem lockstep_chars {b : Bool} {w : List Char} (hw : w ≠ [])
    (hnext : ∀ c ∈ w, ∀ b' rest, (Scan.code st b').next c rest = Scan.code st b) :
    Lockstep limit n₁ n₂ sp st.length (.text w) (Ends st f) (Ends st (some b)) := by
  refine .text fun l s hs => ?_
  obtain ⟨b', -, rfl⟩ : ∃ b', (∀ x ∈ f, b' = x) ∧ s = Scan.code st b' := by
    cases w with
    | nil => exact absurd rfl hw
    | cons c w => exact hs.code
  exact ⟨_, walk_chars hw hnext b' l, ends_code l (by simp)⟩

/-- One or more characters of names. -/
def isWord (w : List Char) : Bool := !w.isEmpty && w.all fun c => isNamePart c || c == '$'

theorem lockstep_word (hst : st.head? ≠ some .template) {w : List Char} (hw : isWord w = true) :
    Lockstep limit n₁ n₂ sp st.length (.text w) (Ends st f) (Ends st (some true)) := by
  simp only [isWord, Bool.and_eq_true, Bool.not_eq_true', List.isEmpty_eq_false_iff,
    List.all_eq_true, Bool.or_eq_true, beq_iff_eq] at hw
  exact lockstep_chars hw.1 fun c hc _ _ => next_word hst (hw.2 c hc)

/-- One or more signs. -/
def isSigns (w : List Char) : Bool := !w.isEmpty && w.all signs.contains

theorem lockstep_signs (hst : st.head? ≠ some .template) {w : List Char} (hw : isSigns w = true) :
    Lockstep limit n₁ n₂ sp st.length (.text w) (Ends st f) (Ends st (some false)) := by
  simp only [isSigns, Bool.and_eq_true, Bool.not_eq_true', List.isEmpty_eq_false_iff,
    List.all_eq_true] at hw
  exact lockstep_chars hw.1 fun c hc _ _ => next_sign hst (hw.2 c hc)

/-- A character of a class that only names are made of. -/
theorem lockstep_part (hst : st.head? ≠ some .template) {p : Char → Bool}
    (hp : ∀ c, p c = true → isNamePart c = true) :
    Lockstep limit n₁ n₂ sp st.length (.one p) (Ends st f) (Ends st (some true)) := by
  refine .one fun c l s hc hs => ?_
  obtain ⟨b, -, rfl⟩ := hs.code
  exact ⟨_, walk_single rfl rfl (next_word hst (.inl (hp c hc))), ends_code l (by simp)⟩

/-- One or more of them. -/
theorem lockstep_parts (hst : st.head? ≠ some .template) {p : Char → Bool}
    (hp : ∀ c, p c = true → isNamePart c = true) (hsp : sp ≠ .free) :
    Lockstep limit n₁ n₂ sp st.length (oneOrMore (.one p)) (Ends st f) (Ends st (some true)) :=
  .seq (lockstep_part hst hp) (skips_ends hsp)
    (.many (lockstep_part hst hp) (skips_ends hsp) (lockstep_part hst hp)
      fun _ _ => Ends.stay)

/-! ## Names and numbers -/

theorem lockstep_keywordBody (hst : st.head? ≠ some .template) :
    Lockstep limit n₁ n₂ .sealed st.length keywordBody (Ends st f) (Ends st (some true)) := by
  refine .seq (B := Ends st (some true)) (.choice fun x hx => ?_)
    (skips_ends nofun) (.ahead rfl fun _ _ hs _ => hs.stay)
  obtain ⟨w, hw, rfl⟩ := List.mem_map.mp hx
  have hall : keywords.all (fun w => isWord w.toList) = true := by decide
  exact lockstep_word hst (List.all_eq_true.mp hall w hw)

theorem lockstep_name (hst : st.head? ≠ some .template) :
    Lockstep limit n₁ n₂ sp st.length name (Ends st f) (Ends st (some true)) := by
  refine .lexeme rfl (.seq (lockstep_part hst fun c hc => ?_) (skips_ends nofun)
    (.many (lockstep_part hst fun _ => id) (skips_ends nofun)
      (lockstep_part hst fun _ => id) fun _ _ => Ends.stay))
  rw [isNamePart, hc, Bool.true_or]

theorem lockstep_identifier (hst : st.head? ≠ some .template) :
    Lockstep limit n₁ n₂ sp st.length identifier (Ends st f) (Ends st (some true)) :=
  .lexeme rfl (.seq (.ahead rfl fun _ _ hs _ => hs.stay) (skips_ends nofun)
    (lockstep_name hst))

theorem lockstep_variableName (hst : st.head? ≠ some .template) :
    Lockstep limit n₁ n₂ sp st.length variableName (Ends st f) (Ends st (some true)) :=
  .lexeme rfl (.either
    (.seq (lockstep_word hst (by decide)) (skips_ends nofun)
      (lockstep_parts hst (fun _ => id) nofun))
    (lockstep_identifier hst))

theorem lockstep_literal (hst : st.head? ≠ some .template) :
    Lockstep limit n₁ n₂ sp st.length literal (Ends st f) (Ends st (some true)) :=
  .lexeme rfl (lockstep_keywordBody hst)

theorem isNamePart_of_digit {c : Char} (hc : isDigit c = true) : isNamePart c = true := by
  rw [isNamePart, hc, Bool.or_true]

theorem lockstep_digits (hst : st.head? ≠ some .template) (hsp : sp ≠ .free) :
    Lockstep limit n₁ n₂ sp st.length digits (Ends st f) (Ends st (some true)) :=
  lockstep_parts hst (fun _ => isNamePart_of_digit) hsp

theorem lockstep_radixNumber (hst : st.head? ≠ some .template) {r : Rule} (hr : r.opens = false)
    {lower upper : String} {digit : Char → Bool}
    (hlower : isWord lower.toList = true) (hupper : isWord upper.toList = true)
    (hdigit : ∀ c, digit c = true → isNamePart c = true) :
    Lockstep limit n₁ n₂ sp st.length (radixNumber r lower upper digit) (Ends st f)
      (Ends st (some true)) :=
  .lexeme hr (.seq
    (.either (lockstep_word hst hlower) (lockstep_word hst hupper)) (skips_ends nofun)
    (lockstep_parts hst hdigit nofun))

/-- The sign of a number or of an exponent: where it stands an operand is to come. -/
theorem lockstep_maybe_sign {p : Pattern}
    (hp : Lockstep limit n₁ n₂ sp st.length p (Ends st f) (Ends st (some false))) :
    Lockstep limit n₁ n₂ sp st.length (.maybe p) (Ends st f) (Ends st none) :=
  .maybe (hp.mono (fun _ _ => id) fun _ _ => Ends.weaken) fun _ _ hs =>
    ⟨hs.stay.1, hs.weaken⟩

theorem lockstep_decimal (hst : st.head? ≠ some .template) :
    Lockstep limit n₁ n₂ sp st.length decimal (Ends st f) (Ends st (some true)) := by
  have hdot : ∀ g, Lockstep limit n₁ n₂ .sealed st.length (.seq (word ".") digits) (Ends st g)
      (Ends st (some true)) := fun g =>
    .seq (lockstep_signs hst (by decide)) (skips_ends nofun) (lockstep_digits hst nofun)
  have hmark : ∀ c, ['e', 'E'].contains c = true → isNamePart c = true := by
    intro c hc
    have hall : ['e', 'E'].all isNamePart = true := by decide
    exact List.all_eq_true.mp hall c (List.contains_iff_mem.mp hc)
  have hsign : Lockstep limit n₁ n₂ .sealed st.length (anyOf ['+', '-']) (Ends st (some true))
      (Ends st (some false)) := by
    refine .one fun c l s hc hs => ?_
    obtain ⟨b, -, rfl⟩ := hs.code
    have hall : ['+', '-'].all signs.contains = true := by decide
    have hnext : (Scan.code st b).next c l = Scan.code st false :=
      next_sign hst (List.all_eq_true.mp hall c (List.contains_iff_mem.mp hc))
    exact ⟨_, walk_single rfl rfl hnext, ends_code l (by simp)⟩
  have hexponent : Lockstep limit n₁ n₂ .sealed st.length
      (all [anyOf ['e', 'E'], .maybe (anyOf ['+', '-']), digits]) (Ends st (some true))
      (Ends st (some true)) :=
    .seq (lockstep_part hst hmark) (skips_ends nofun)
      (.seq (lockstep_maybe_sign hsign) (skips_ends nofun) (lockstep_digits hst nofun))
  exact .lexeme rfl (.seq
    (.either (.seq (lockstep_digits hst nofun) (skips_ends nofun)
      (.maybe (hdot _) fun _ _ => Ends.stay)) (hdot _))
    (skips_ends nofun) (.maybe hexponent fun _ _ => Ends.stay))

theorem isNamePart_of_hexDigit {c : Char} (hc : isHexDigit c = true) : isNamePart c = true := by
  simp only [isHexDigit, Bool.or_eq_true, Bool.and_eq_true, decide_eq_true_eq] at hc
  obtain (hc | ⟨hlo, hhi⟩) | ⟨hlo, hhi⟩ := hc
  · exact isNamePart_of_digit hc
  · have hle : c ≤ 'z' := le_trans hhi (by decide)
    simp [isNamePart, isNameStart, isLetter, hlo, hle]
  · have hle : c ≤ 'Z' := le_trans hhi (by decide)
    simp [isNamePart, isNameStart, isLetter, hlo, hle]

theorem lockstep_number (hst : st.head? ≠ some .template) (hsp : sp ≠ .sealed) :
    Lockstep limit n₁ n₂ sp st.length number (Ends st f) (Ends st (some true)) := by
  refine .rule hsp (.seq (lockstep_maybe_sign (lockstep_signs hst (by decide)))
    (skips_ends nofun) (.choice fun x hx => ?_))
  simp only [List.mem_cons, List.not_mem_nil, or_false] at hx
  obtain rfl | rfl | rfl | rfl := hx
  · exact lockstep_radixNumber hst rfl (by decide) (by decide) fun _ => isNamePart_of_hexDigit
  · refine lockstep_radixNumber hst rfl (by decide) (by decide) fun c hc => isNamePart_of_digit ?_
    simp only [Bool.and_eq_true, decide_eq_true_eq] at hc
    have hle : c ≤ '9' := le_trans hc.2 (by decide)
    simp [isDigit, hc.1, hle]
  · refine lockstep_radixNumber hst rfl (by decide) (by decide) fun c hc => ?_
    simp only [Bool.or_eq_true, beq_iff_eq] at hc
    rcases hc with rfl | rfl <;> decide
  · exact lockstep_decimal hst

/-! ## Strings and regular expressions -/

/-- The pass is in a string, a regular expression or another stretch of the text that `mode` tells;
`skipping` tells whether the next character is escaped. -/
def Inside (mode : ScanMode) (st : List Opener) (skipping : Bool) : Stage :=
  fun _ s => s = ⟨mode, st, true, skipping⟩

theorem Inside.stay {mode : ScanMode} {skipping : Bool} {l : List Char} {s : Scan}
    (hs : Inside mode st skipping l s) :
    s.opened.length = st.length ∧ Inside mode st skipping l s := by
  refine ⟨?_, hs⟩
  rw [hs]

theorem skips_inside {mode : ScanMode} {skipping : Bool} (hsp : sp ≠ .free) :
    Skips sp st.length (Inside mode st skipping) (Inside mode st skipping) :=
  .of_ne_free hsp fun l s hs => by rw [hs.stay.1]

/-- A character of a stretch, which leaves the pass where it is, or goes on with an escape. -/
theorem lockstep_escaped (mode : ScanMode) (hmode : mode ≠ .line)
    (hslash : ∀ l, Scan.next ⟨mode, st, true, false⟩ '\\' l = ⟨mode, st, true, true⟩)
    (p : Char → Bool) :
    Lockstep limit n₁ n₂ .sealed st.length (.seq (word "\\") (.one p)) (Inside mode st false)
      (Inside mode st false) := by
  refine .seq (B := Inside mode st true) (.text fun l s hs => ?_) (skips_inside nofun)
    (.one fun c l s hc hs => ?_)
  · rw [hs]
    exact ⟨_, walk_single rfl rfl (hslash l), rfl⟩
  · rw [hs]
    exact ⟨_, walk_single rfl rfl (next_skipping hmode), rfl⟩

theorem lockstep_quotedBody {r : Rule} (hr : r.opens = false) (q : Char) :
    Lockstep limit n₁ n₂ sp st.length (quotedBody r q) (Inside (.quoted q) st false)
      (Inside (.quoted q) st false) := by
  have hone : Lockstep limit n₁ n₂ .sealed st.length (.either (noneOf [q, '\\']) escaped)
      (Inside (.quoted q) st false) (Inside (.quoted q) st false) := by
    refine .either (.one fun c l s hc hs => ?_)
      (lockstep_escaped (.quoted q) nofun (fun _ => next_quoted_escape) _)
    rw [hs]
    refine ⟨_, walk_single rfl rfl (next_quoted ?_ ?_), rfl⟩
    all_goals
      rintro rfl
      simp at hc
  exact .lexeme hr (.many hone (skips_inside nofun) hone fun _ _ => Inside.stay)

theorem lockstep_string (hst : st.head? ≠ some .template) (hsp : sp ≠ .sealed) :
    Lockstep limit n₁ n₂ sp st.length string (Ends st f) (Ends st (some true)) := by
  have hquoted : ∀ {q r}, q = '\x27' ∨ q = '"' → Rule.opens r = false →
      Lockstep limit n₁ n₂ .tight st.length (all [.text [q], quotedBody r q, .text [q]]) (Ends st f)
        (Ends st (some true)) := by
    intro q r hq hr
    refine .seq (B := Inside (.quoted q) st false) (.text fun l s hs => ?_) (skips_inside nofun)
      (.seq (lockstep_quotedBody hr q) (skips_inside nofun) (.text fun l s hs => ?_))
    · obtain ⟨b, -, rfl⟩ := hs.code
      exact ⟨_, walk_single rfl rfl (next_quote hst hq), rfl⟩
    · rw [hs]
      refine ⟨_, walk_single rfl rfl (next_quoted_end ?_), ends_code l (by simp)⟩
      rcases hq with rfl | rfl <;> decide
  exact .rule hsp (.either (hquoted (.inr rfl) rfl) (hquoted (.inl rfl) rfl))

/-- Where an operand is to come, a slash that begins no blank begins a regular expression. -/
theorem lockstep_regexp (hst : st.head? ≠ some .template) :
    Lockstep limit n₁ n₂ .free st.length regexp (Starts st (some false)) (Ends st (some true)) := by
  have hone : Lockstep limit n₁ n₂ .sealed st.length
      (.either (noneOf ['/', '\\', '\n', '\r']) (.seq (word "\\") (noneOf ['\n', '\r'])))
      (Inside .regexp st false) (Inside .regexp st false) := by
    refine .either (.one fun c l s hc hs => ?_)
      (lockstep_escaped .regexp (by decide) (fun _ => next_regexp_escape) _)
    rw [hs]
    refine ⟨_, walk_single rfl rfl (next_regexp_text ?_ ?_ ?_), rfl⟩
    all_goals
      rintro rfl
      simp at hc
  have hletter : ∀ c, isLetter c = true → isNamePart c = true := by
    intro c hc
    simp [isNamePart, isNameStart, hc]
  refine .rule (by decide) (.seq (B := Inside .regexp st false) (.text fun l s hs => ?_)
      (skips_inside (by decide))
    (.seq (.lexeme rfl (.seq hone (skips_inside (by decide))
        (.many hone (skips_inside (by decide)) hone fun _ _ => Inside.stay)))
      (skips_inside (by decide))
      (.seq (B := Ends st (some true)) (.text fun l s hs => ?_) (skips_ends (by decide))
        (.lexeme rfl (.many (lockstep_part hst hletter) (skips_ends (by decide))
          (lockstep_part hst hletter) fun _ _ => Ends.stay)))))
  · obtain ⟨hs, hzero⟩ := hs
    obtain ⟨b, hb, rfl⟩ := hs.code
    rw [hb false rfl]
    obtain ⟨hline, hblock⟩ := slash_of_blankLength_eq_zero hzero
    exact ⟨_, walk_single rfl rfl (next_regexp hst hline hblock), rfl⟩
  · rw [hs]
    exact ⟨_, walk_single rfl rfl next_regexp_end, ends_code l (by simp)⟩

end ExprLang
