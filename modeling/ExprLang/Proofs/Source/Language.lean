import ExprLang.Proofs.Source.Words

/-!
# ExprLang.Proofs.Source.Language

The rules of the grammar, one after the other, in step with the pass over the text.

Operands and steps lead to where an operand has ended, operators to where one is to begin, and every
bracket, template and conditional closes what it opened.  The rule that contains itself is taken as
given (`Nests`) for the levels further in.
-/

namespace ExprLang

open ExprLang.Language Scan Pattern

/-- The rule that contains itself keeps in step wherever `L` levels or more are open. -/
def Nests (limit : Nat) (n₁ n₂ : Reader) (L : Nat) : Prop :=
  ∀ st, L ≤ st.length → st.head? ≠ some .template →
    Lockstep limit n₁ n₂ .free st.length .recurse (Starts st (some false)) (Ends st (some true))

variable {limit : Nat} {n₁ n₂ : Reader} {sp : Spacing} {h : Nat} {st : List Opener}
  {f : Option Bool} {x : Pattern}

theorem Nests.mono {L L' : Nat} (hn : Nests limit n₁ n₂ L) (hle : L ≤ L') :
    Nests limit n₁ n₂ L' :=
  fun st hL => hn st (Nat.le_trans hle hL)

/-! ## Templates -/

/-- The words that end the plain text of a template. -/
theorem templateText_begins {c : Char} {l : List Char}
    (h : (choice [word "\x60", word "$\x7b", word "\\"]).begins (c :: l) = false) :
    c ≠ '\x60' ∧ ¬ (c = '$' ∧ l.head? = some '\x7b') ∧ c ≠ '\\' := by
  change ((['\x60'] : List Char).isPrefixOf (c :: l) || (['$', '\x7b'].isPrefixOf (c :: l) ||
    ['\\'].isPrefixOf (c :: l))) = false at h
  simp only [List.isPrefixOf, Bool.or_eq_false_iff, Bool.and_true, beq_eq_false_iff_ne] at h
  obtain ⟨htick, hhole, hslash⟩ := h
  refine ⟨htick.symm, ?_, hslash.symm⟩
  rintro ⟨rfl, hl⟩
  cases l with
  | nil => cases hl
  | cons d l =>
    rw [Option.some.inj hl] at hhole
    simp [List.isPrefixOf] at hhole

theorem lockstep_templateText :
    Lockstep limit n₁ n₂ sp (st.length + 1) templateText (Ends (.template :: st) none)
      (Ends (.template :: st) none) := by
  have hplain : Lockstep limit n₁ n₂ .sealed (st.length + 1)
      (.seq (.unless (choice [word "\x60", word "$\x7b", word "\\"])) anyChar)
      (Ends (.template :: st) none) (Ends (.template :: st) none) := by
    refine .seq (B := fun l s => Ends (.template :: st) none l s ∧
        (choice [word "\x60", word "$\x7b", word "\\"]).begins l = false)
      (.ahead rfl fun l s hs hl => ⟨hs.stay.1, hs, hl⟩)
      (.of_ne_free nofun fun l s hs => by rw [hs.1.opened]; rfl) (.one fun c l s _ hs => ?_)
    obtain ⟨hs, hl⟩ := hs
    obtain ⟨b, -, rfl⟩ := hs.code
    obtain ⟨htick, hhole, hslash⟩ := templateText_begins hl
    exact ⟨_, walk_single rfl rfl (next_template_text hslash htick hhole),
      ends_code l nofun⟩
  have hescape : Lockstep limit n₁ n₂ .sealed (st.length + 1) escaped (Ends (.template :: st) none)
      (Ends (.template :: st) none) := by
    refine .seq (B := fun _ s => ∃ b, s = ⟨.code, .template :: st, b, true⟩)
      (.text fun l s hs => ?_)
      (.of_ne_free nofun fun l s hs => by obtain ⟨b, rfl⟩ := hs; exact Nat.le_refl _)
      (.one fun c l s _ hs => ?_)
    · obtain ⟨b, -, rfl⟩ := hs.code
      exact ⟨_, walk_single rfl rfl next_template_escape, b, rfl⟩
    · obtain ⟨b, rfl⟩ := hs
      exact ⟨_, walk_single rfl rfl (next_skipping nofun),
        ends_code l nofun⟩
  have hskip : Skips .sealed (st.length + 1) (Ends (.template :: st) none)
      (Ends (.template :: st) none) := skips_ends nofun
  exact .lexeme rfl (.seq (.either hplain hescape) hskip
    (.many (.either hplain hescape) hskip (.either hplain hescape) fun _ _ => Ends.stay))

theorem lockstep_templateHole (hn : Nests limit n₁ n₂ (st.length + 2)) (hsp : sp ≠ .sealed) :
    Lockstep limit n₁ n₂ sp (st.length + 1) templateHole (Ends (.template :: st) none)
      (Ends (.template :: st) none) := by
  have hst : (Opener.templateHole :: .template :: st).head? ≠ some .template := nofun
  refine .rule hsp (.text_seq (B := Ends (.templateHole :: .template :: st) (some false))
    (fun l s hs => ?_) (skips_free hst (Nat.le_refl _))
    (.seq (hn _ (Nat.le_refl _) hst) (skips_free hst (Nat.le_refl _)) (.text fun l s hs => ?_)))
  · obtain ⟨b, -, rfl⟩ := hs.code
    have w : Walk ('$' :: '\x7b' :: l) (Scan.code (.template :: st) b)
        (max (st.length + 1) (st.length + 2)) l
        (Scan.code (.templateHole :: .template :: st) false) := by
      refine .step ?_
      rw [next_template_hole rfl]
      exact walk_single rfl rfl (next_skipping nofun)
    exact ⟨_, _, by simp [Rule.opens], w, ends_code l (by simp)⟩
  · obtain ⟨b, -, rfl⟩ := hs.1.code
    have hclose : (Scan.code (.templateHole :: .template :: st) b).next '\x7d' l =
        Scan.code (.template :: st) true := next_closing rfl
    exact ⟨_, by simpa [Rule.opens] using Walk.single hclose, ends_code l nofun⟩

theorem lockstep_template (hst : st.head? ≠ some .template) (hn : Nests limit n₁ n₂ (st.length + 2))
    (hsp : sp ≠ .sealed) :
    Lockstep limit n₁ n₂ sp st.length template (Ends st f) (Ends st (some true)) := by
  have hskip : Skips .tight (st.length + 1) (Ends (.template :: st) none)
      (Ends (.template :: st) none) := skips_ends nofun
  have hone : Lockstep limit n₁ n₂ .tight (st.length + 1) (.either templateText templateHole)
      (Ends (.template :: st) none) (Ends (.template :: st) none) :=
    .either lockstep_templateText (lockstep_templateHole hn nofun)
  refine .rule hsp (.text_seq (B := Ends (.template :: st) none) (fun l s hs => ?_) hskip
    (.seq (.many hone hskip hone fun _ _ => Ends.stay) hskip (.text fun l s hs => ?_)))
  · obtain ⟨b, -, rfl⟩ := hs.code
    have hopen : (Scan.code st b).next '\x60' l = Scan.code (.template :: st) b := next_backtick hst
    exact ⟨_, _, by simp [Rule.opens], Walk.single hopen, ends_code l nofun⟩
  · obtain ⟨b, -, rfl⟩ := hs.code
    have hclose : (Scan.code (.template :: st) b).next '\x60' l = Scan.code st true :=
      next_template_end
    exact ⟨_, by simpa [Rule.opens] using Walk.single hclose, ends_code l (by simp)⟩

/-! ## Brackets -/

/-- A bracket, what stands in it, and the bracket that closes it. -/
theorem lockstep_brackets (hst : st.head? ≠ some .template) (o : Opener) {c d : Char}
    (ho : opening o = some c) (hd : closing o = some d)
    (hx : Lockstep limit n₁ n₂ .free (st.length + 1) x (Starts (o :: st) (some false))
      (Ends (o :: st) none)) :
    Lockstep limit n₁ n₂ .free (st.length + 1) (all [.text [c], x, .text [d]]) (Ends st f)
      (Ends st (some true)) := by
  have htop : (o :: st).head? ≠ some .template := by
    rintro ⟨⟩
    cases ho
  refine .text_seq (B := Ends (o :: st) (some false)) (fun l s hs => ?_)
    (skips_free htop (Nat.le_refl _)) (.seq hx (skips_free htop (Nat.le_refl _))
      (.text fun l s hs => ?_))
  · obtain ⟨b, -, rfl⟩ := hs.code
    have hopen : (Scan.code st b).next c l = Scan.code (o :: st) false := next_opening hst ho
    exact ⟨_, _, by simp, Walk.single hopen, ends_code l (by simp)⟩
  · obtain ⟨b, -, rfl⟩ := hs.1.code
    have hclose : (Scan.code (o :: st) b).next d l = Scan.code st true := next_closing hd
    exact ⟨_, by simpa using Walk.single hclose, ends_code l (by simp)⟩

theorem lockstep_comma (hst : st.head? ≠ some .template) :
    Lockstep limit n₁ n₂ sp st.length (word ",") (Ends st f) (Ends st (some false)) :=
  lockstep_signs hst (by decide)

/-- What follows a comma begins where an operand is to come. -/
theorem lockstep_commaList (hst : st.head? ≠ some .template)
    (hx : Lockstep limit n₁ n₂ .free st.length x (Starts st (some false)) (Ends st (some true))) :
    Lockstep limit n₁ n₂ .free st.length (commaList x) (Starts st (some false)) (Ends st none) := by
  have hmore : Lockstep limit n₁ n₂ .free st.length (.seq (word ",") x) (Starts st (some true))
      (Ends st (some true)) :=
    .seq ((lockstep_comma hst).mono (fun _ _ hs => hs.1) fun _ _ => id)
      (skips_free hst (Nat.le_refl _)) hx
  refine .seq hx (skips_free hst (Nat.le_refl _)) (.seq
    (.many hmore (skips_free hst (Nat.le_refl _)) hmore fun _ _ => Starts.stay)
    (skips_free hst (Nat.le_refl _)) (.maybe ?_ fun _ _ hs => ⟨hs.stay.1, hs.1.weaken⟩))
  exact (lockstep_comma hst).mono (fun _ _ hs => hs.1) fun _ _ => Ends.weaken

theorem lockstep_maybe_commaList (hst : st.head? ≠ some .template)
    (hx : Lockstep limit n₁ n₂ .free st.length x (Starts st (some false)) (Ends st (some true))) :
    Lockstep limit n₁ n₂ .free st.length (.maybe (commaList x)) (Starts st (some false))
      (Ends st none) :=
  .maybe (lockstep_commaList hst hx) fun _ _ hs => ⟨hs.stay.1, hs.1.weaken⟩

section Nested

variable (hst : st.head? ≠ some .template) (hn : Nests limit n₁ n₂ (st.length + 1))
include hst hn

theorem lockstep_grouped :
    Lockstep limit n₁ n₂ .free st.length grouped (Ends st f) (Ends st (some true)) :=
  .rule nofun (lockstep_brackets hst .paren rfl rfl
    ((hn (.paren :: st) (Nat.le_refl _) nofun).mono (fun _ _ => id) fun _ _ => Ends.weaken))

theorem lockstep_array :
    Lockstep limit n₁ n₂ .free st.length array (Ends st f) (Ends st (some true)) :=
  .rule nofun (lockstep_brackets hst .bracket rfl rfl
    (lockstep_maybe_commaList nofun (hn (.bracket :: st) (Nat.le_refl _) nofun)))

theorem lockstep_computedKey :
    Lockstep limit n₁ n₂ .free st.length computedKey (Ends st f) (Ends st (some true)) :=
  .rule nofun (lockstep_brackets hst .bracket rfl rfl
    ((hn (.bracket :: st) (Nat.le_refl _) nofun).mono (fun _ _ => id) fun _ _ => Ends.weaken))

theorem lockstep_arguments :
    Lockstep limit n₁ n₂ .free (st.length + 1) arguments (Ends st f) (Ends st (some true)) :=
  lockstep_brackets hst .paren rfl rfl
    (lockstep_maybe_commaList nofun (hn (.paren :: st) (Nat.le_refl _) nofun))

theorem lockstep_index :
    Lockstep limit n₁ n₂ .free (st.length + 1) (all [word "[", .recurse, word "]"]) (Ends st f)
      (Ends st (some true)) :=
  lockstep_brackets hst .bracket rfl rfl
    ((hn (.bracket :: st) (Nat.le_refl _) nofun).mono (fun _ _ => id) fun _ _ => Ends.weaken)

omit hst in
/-- In an object, which is open where its items stand, a colon closes nothing. -/
theorem lockstep_objectItem :
    Lockstep limit n₁ n₂ .free (st.length + 1) objectItem (Starts (.brace :: st) (some false))
      (Ends (.brace :: st) (some true)) := by
  have hbrace : (Opener.brace :: st).head? ≠ some .template := nofun
  have hkey : Lockstep limit n₁ n₂ .free (st.length + 1)
      (choice [computedKey, string, number, name]) (Ends (.brace :: st) (some false))
      (Ends (.brace :: st) (some true)) := by
    refine .choice fun x hx => ?_
    simp only [List.mem_cons, List.not_mem_nil, or_false] at hx
    obtain rfl | rfl | rfl | rfl := hx
    · exact lockstep_computedKey hbrace (hn.mono (Nat.le_succ _))
    · exact lockstep_string hbrace nofun
    · exact lockstep_number hbrace nofun
    · exact lockstep_name hbrace
  have hcolon : Lockstep limit n₁ n₂ .free (st.length + 1) (word ":")
      (Starts (.brace :: st) (some true)) (Ends (.brace :: st) (some false)) := by
    refine .text fun l s hs => ?_
    obtain ⟨b, -, rfl⟩ := hs.1.code
    have hnext : (Scan.code (.brace :: st) b).next ':' l = Scan.code (.brace :: st) false :=
      next_colon hbrace
    exact ⟨_, walk_single rfl rfl hnext, ends_code l (by simp)⟩
  exact .rule nofun (.seq (hkey.mono (fun _ _ hs => hs.1) fun _ _ => id)
    (skips_free hbrace (Nat.le_refl _)) (.seq hcolon (skips_free hbrace (Nat.le_refl _))
      (hn _ (Nat.le_refl _) hbrace)))

theorem lockstep_object :
    Lockstep limit n₁ n₂ .free st.length object (Ends st f) (Ends st (some true)) :=
  .rule nofun (lockstep_brackets hst .brace rfl rfl
    (lockstep_maybe_commaList nofun (lockstep_objectItem hn)))

/-! ## Operands, operators and steps -/

theorem lockstep_operand :
    Lockstep limit n₁ n₂ .free st.length operand (Starts st (some false))
      (Ends st (some true)) := by
  have hends : ∀ {x}, Lockstep limit n₁ n₂ .free st.length x (Ends st (some false))
      (Ends st (some true)) → Lockstep limit n₁ n₂ .free st.length x (Starts st (some false))
      (Ends st (some true)) := fun hx => hx.mono (fun _ _ hs => hs.1) fun _ _ => id
  refine .choice fun x hx => ?_
  simp only [List.mem_cons, List.not_mem_nil, or_false] at hx
  obtain rfl | rfl | rfl | rfl | rfl | rfl | rfl | rfl | rfl := hx
  · exact hends (lockstep_grouped hst hn)
  · exact hends (lockstep_template hst (hn.mono (Nat.le_succ _)) nofun)
  · exact hends (lockstep_array hst hn)
  · exact hends (lockstep_object hst hn)
  · exact lockstep_regexp hst
  · exact hends (lockstep_number hst nofun)
  · exact hends (lockstep_string hst nofun)
  · exact hends (lockstep_literal hst)
  · exact hends (lockstep_variableName hst)

omit hst hn in
theorem skips_starts (hst : st.head? ≠ some .template) (hh : st.length ≤ h) :
    Skips .free h (Starts st f) (Starts st f) :=
  fun k s hs => skips_free hst hh k s hs.1

omit hn in
/-- A question mark that takes the next character along. -/
theorem walk_mark {c : Char} (hc : c = ':' ∨ c = '.') (b : Bool) (l : List Char) :
    Walk ('?' :: c :: l) (Scan.code st b) st.length l (Scan.code st false) := by
  have hmark : (Scan.code st b).next '?' (c :: l) = ⟨.code, st, false, true⟩ :=
    next_mark hst (hc.imp (congrArg some) (congrArg some))
  have w : Walk (c :: l) ⟨.code, st, false, true⟩ st.length l (Scan.code st false) :=
    walk_single rfl rfl (next_skipping nofun)
  rw [← hmark] at w
  have w' := Walk.step w
  rwa [opened_code, Nat.max_self] at w'

omit hn in
theorem lockstep_optional (hh : st.length ≤ h) {B : Stage}
    (hx : Lockstep limit n₁ n₂ .free h x (Starts st (some false)) B) :
    Lockstep limit n₁ n₂ .free h (.seq (word "?.") x) (Starts st f) B := by
  refine .text_seq (B := Ends st (some false)) (fun l s hs => ?_) (skips_free hst hh) hx
  obtain ⟨b, -, rfl⟩ := hs.1.code
  exact ⟨_, _, hh, walk_mark hst (.inr rfl) b l, ends_code l (by simp)⟩

theorem lockstep_steps :
    Lockstep limit n₁ n₂ .free st.length steps (Starts st f) (Ends st (some true)) := by
  refine .choice fun x hx => ?_
  simp only [List.mem_cons, List.not_mem_nil, or_false] at hx
  obtain rfl | rfl | rfl | rfl | rfl | rfl := hx
  · exact .rule nofun (lockstep_optional hst (Nat.le_succ _)
      ((lockstep_arguments hst hn).mono (fun _ _ hs => hs.1) fun _ _ => id))
  · exact .rule nofun (lockstep_optional hst (Nat.le_succ _)
      ((lockstep_index hst hn).mono (fun _ _ hs => hs.1) fun _ _ => id))
  · exact .rule nofun (lockstep_optional hst (Nat.le_refl _)
      ((lockstep_name hst).mono (fun _ _ hs => hs.1) fun _ _ => id))
  · exact .rule nofun ((lockstep_arguments hst hn).mono (fun _ _ hs => hs.1) fun _ _ => id)
  · exact .rule nofun ((lockstep_index hst hn).mono (fun _ _ hs => hs.1) fun _ _ => id)
  · exact .rule nofun (.seq
      ((lockstep_signs hst (by decide)).mono (fun _ _ hs => hs.1) fun _ _ => id)
      (skips_free hst (Nat.le_refl _))
      ((lockstep_name hst).mono (fun _ _ hs => hs.1) fun _ _ => id))

omit hn in
theorem lockstep_unaryOps :
    Lockstep limit n₁ n₂ .free st.length unaryOps (Starts st f) (Ends st (some false)) := by
  have hop : ∀ op : UnaryOp, isSigns op.symbol.toList = true := by
    intro op
    cases op <;> decide
  have hone : ∀ op, Lockstep limit n₁ n₂ .free st.length (unaryOp op) (Starts st f)
      (Ends st (some false)) := fun op =>
    .rule nofun ((lockstep_signs hst (hop op)).mono (fun _ _ hs => hs.1) fun _ _ => id)
  exact .either (hone _) (hone _)

/-- After a question mark: it opened a conditional, or it goes with the next character. -/
def Marked (st : List Opener) : Stage := fun l s =>
  Ends (.choice :: st) (some false) l s ∨
    s.opened = st ∧ (l.head? = some ':' ∨ l.head? = some '.')

omit hn in
theorem walk_question (b : Bool) (l : List Char) :
    ∃ s' h', h' ≤ st.length + 1 ∧ Walk ('?' :: l) (Scan.code st b) h' l s' ∧ Marked st l s' := by
  by_cases hl : l.head? = some ':' ∨ l.head? = some '.'
  · have hmark : (Scan.code st b).next '?' l = ⟨.code, st, false, true⟩ := next_mark hst hl
    exact ⟨_, _, by simp, Walk.single hmark, .inr ⟨rfl, hl⟩⟩
  · rw [not_or] at hl
    have hopen : (Scan.code st b).next '?' l = Scan.code (.choice :: st) false :=
      next_choice hst hl.1 hl.2
    exact ⟨_, _, by simp, Walk.single hopen, .inl (ends_code l (by simp))⟩

omit hst hn in
/-- Blanks, which neither a colon nor a dot begins. -/
theorem skips_marked :
    Skips .free (st.length + 1) (Marked st) fun l s => Starts (.choice :: st) (some false) l s ∨
      (word ":").begins l = true ∨ (word ".").begins l = true := by
  rintro k s (hs | ⟨hst, hl⟩)
  · obtain ⟨s', h', hle, w, hs'⟩ :=
      skips_free (by simp) (Nat.le_refl _) k s hs
    exact ⟨s', h', hle, w, .inl hs'⟩
  · rw [Cursor.rest_skip_free]
    generalize k.rest = l at hl ⊢
    cases l with
    | nil => simp at hl
    | cons c l =>
      have hzero : blankLength (c :: l) = 0 := by
        simp only [List.head?_cons, Option.some.injEq] at hl
        rcases hl with rfl | rfl <;> simp [blankLength, blankRun, BlankState.atStart, isBlank]
      have hbegins : (word ":").begins (c :: l) = true ∨ (word ".").begins (c :: l) = true := by
        simp only [List.head?_cons, Option.some.injEq] at hl
        exact hl.imp (fun h => by rw [h]; rfl) (fun h => by rw [h]; rfl)
      rw [hzero, List.drop_zero]
      exact ⟨s, _, by rw [hst]; exact Nat.le_succ _, .refl _ _, .inr hbegins⟩

/-- A conditional opens a level where its mark begins no other operator, and closes it with its
colon. -/
theorem lockstep_choiceOp :
    Lockstep limit n₁ n₂ .free st.length choiceOp (Starts st f) (Ends st (some false)) := by
  have htop : (Opener.choice :: st).head? ≠ some .template := nofun
  refine .rule nofun (.text_seq (fun l s hs => ?_) skips_marked
    (.seq (B := Starts (.choice :: st) (some false)) (.ahead rfl fun l s hs hl => ?_)
      (skips_starts htop (Nat.le_refl _)) (.seq (hn _ (Nat.le_refl _) htop)
        (skips_free htop (Nat.le_refl _)) (.text fun l s hs => ?_))))
  · obtain ⟨b, -, rfl⟩ := hs.1.code
    exact walk_question hst b l
  · simp only [begins, Bool.or_eq_false_iff] at hl
    obtain hs | hword | hword := hs
    · exact ⟨hs.stay.1, hs⟩
    · rw [hl.1] at hword
      cases hword
    · rw [hl.2] at hword
      cases hword
  · obtain ⟨b, -, rfl⟩ := hs.1.code
    have hclose : (Scan.code (.choice :: st) b).next ':' l = Scan.code st false := next_colon htop
    exact ⟨_, by simpa [Rule.opens] using Walk.single hclose, ends_code l (by simp)⟩

omit hn in
/-- An operator of signs. -/
theorem lockstep_infixOp {op : InfixOp} {symbol : String} (hop : Rule.opens (.between op) = false)
    (hsigns : isSigns symbol.toList = true) :
    Lockstep limit n₁ n₂ .free st.length (infixOp op symbol) (Starts st f)
      (Ends st (some false)) := by
  refine .rule nofun ?_
  rw [hop]
  exact (lockstep_signs hst hsigns).mono (fun _ _ hs => hs.1) fun _ _ => id

omit hn in
/-- After an operand a slash that begins no blank divides. -/
theorem lockstep_div :
    Lockstep limit n₁ n₂ .free st.length (infixOp (.arithmetic .div) (ArithmeticOp.symbol .div))
      (Starts st (some true)) (Ends st (some false)) := by
  refine .rule nofun (.text fun l s hs => ?_)
  obtain ⟨hs, hzero⟩ := hs
  obtain ⟨b, hb, rfl⟩ := hs.code
  rw [hb true rfl]
  obtain ⟨hline, hblock⟩ := slash_of_blankLength_eq_zero hzero
  exact ⟨_, walk_single rfl rfl (next_slash hst hline hblock), ends_code l (by simp)⟩

theorem lockstep_infixOps :
    Lockstep limit n₁ n₂ .free st.length infixOps (Starts st (some true))
      (Ends st (some false)) := by
  have hlogical : ∀ op : LogicalOp, isSigns op.symbol.toList = true := by
    intro op
    cases op <;> decide
  have hbitwise : ∀ op : BitwiseOp, isSigns op.symbol.toList = true := by
    intro op
    cases op <;> decide
  have hrelational : ∀ op : RelationalOp, isSigns op.symbol.toList = true := by
    intro op
    cases op <;> decide
  have harithmetic : ∀ op : ArithmeticOp, op ≠ .div →
      isSigns op.symbol.toList = true := by
    intro op hop
    cases op <;> first | exact absurd rfl hop | decide
  refine .choice fun x hx => ?_
  simp only [List.mem_append, List.mem_map, or_assoc] at hx
  obtain hx | ⟨op, -, rfl⟩ | ⟨op, -, rfl⟩ | ⟨op, -, rfl⟩ | ⟨op, -, rfl⟩ | ⟨op, -, rfl⟩ |
    ⟨op, -, rfl⟩ := hx
  · simp only [List.mem_cons, List.not_mem_nil, or_false] at hx
    obtain rfl | rfl := hx
    · refine .rule nofun (.text fun l s hs => ?_)
      obtain ⟨b, -, rfl⟩ := hs.1.code
      exact ⟨_, walk_mark hst (.inl rfl) b l, ends_code l (by simp)⟩
    · exact lockstep_choiceOp hst hn
  · exact lockstep_infixOp hst rfl (hlogical op)
  · exact lockstep_infixOp hst rfl (hbitwise op)
  · exact lockstep_infixOp hst rfl (hrelational op)
  · exact lockstep_infixOp hst rfl (hbitwise op)
  · exact lockstep_infixOp hst rfl (hrelational op)
  · by_cases hop : op = .div
    · subst hop
      exact lockstep_div hst
    · exact lockstep_infixOp hst rfl (harithmetic op hop)

/-! ## Expressions -/

theorem lockstep_expression :
    Lockstep limit n₁ n₂ .free st.length expression (Starts st (some false))
      (Ends st (some true)) := by
  have hskip : ∀ {f}, Skips .free st.length (Ends st f) (Starts st f) :=
    skips_free hst (Nat.le_refl _)
  have hops : Lockstep limit n₁ n₂ .free st.length (.many unaryOps) (Starts st (some false))
      (Ends st (some false)) :=
    .many (lockstep_unaryOps hst) hskip (lockstep_unaryOps hst) fun _ _ => Starts.stay
  have hsteps : Lockstep limit n₁ n₂ .free st.length (.many steps) (Starts st (some true))
      (Ends st (some true)) :=
    .many (lockstep_steps hst hn) hskip (lockstep_steps hst hn) fun _ _ => Starts.stay
  have hmore : Lockstep limit n₁ n₂ .free st.length
      (all [infixOps, .many unaryOps, operand, .many steps]) (Starts st (some true))
      (Ends st (some true)) :=
    .seq (lockstep_infixOps hst hn) hskip
      (.seq hops hskip (.seq (lockstep_operand hst hn) hskip hsteps))
  exact .rule nofun (.seq hops hskip (.seq (lockstep_operand hst hn) hskip (.seq hsteps hskip
    (.many hmore hskip hmore fun _ _ => Starts.stay))))

end Nested

/-! ## Statements and programs -/

section Program

variable (hn : Nests limit n₁ n₂ 0)
include hn

/-- The equals sign of an assignment is a sign like any other. -/
theorem lockstep_assignment :
    Lockstep limit n₁ n₂ .free 0 assignment (Starts [] (some false)) (Ends [] (some true)) := by
  have htop : ([] : List Opener).head? ≠ some .template := by decide
  have hskip : ∀ {f}, Skips .free 0 (Ends [] f) (Starts [] f) := skips_free htop (Nat.le_refl _)
  exact .rule nofun (.seq ((lockstep_identifier htop).mono (fun _ _ hs => hs.1) fun _ _ => id) hskip
    (.seq ((lockstep_signs htop (by decide)).mono (fun _ _ hs => hs.1) fun _ _ => id) hskip
      (.seq (.ahead rfl fun _ _ hs _ => hs.stay) hskip (hn [] (Nat.le_refl _) htop))))

theorem lockstep_statements :
    Lockstep limit n₁ n₂ .free 0 statements (Starts [] (some false)) (Ends [] none) := by
  have htop : ([] : List Opener).head? ≠ some .template := by decide
  have hskip : ∀ {f}, Skips .free 0 (Ends [] f) (Starts [] f) := skips_free htop (Nat.le_refl _)
  have hone : Lockstep limit n₁ n₂ .free 0 statement (Starts [] (some false))
      (Ends [] (some true)) :=
    .either (lockstep_assignment hn) (hn [] (Nat.le_refl _) htop)
  have hsemicolon : Lockstep limit n₁ n₂ .free 0 (word ";") (Starts [] (some true))
      (Ends [] (some false)) :=
    (lockstep_signs htop (by decide)).mono (fun _ _ hs => hs.1) fun _ _ => id
  have hmore : Lockstep limit n₁ n₂ .free 0 (.seq (word ";") statement) (Starts [] (some true))
      (Ends [] (some true)) := .seq hsemicolon hskip hone
  refine .rule nofun (.seq hone hskip (.seq (.many hmore hskip hmore fun _ _ => Starts.stay) hskip
    (.maybe ?_ fun _ _ hs => ⟨hs.stay.1, hs.1.weaken⟩)))
  exact hsemicolon.mono (fun _ _ => id) fun _ _ => Ends.weaken

/-- A whole text: at its end nothing is open any more. -/
theorem lockstep_program :
    Lockstep limit n₁ n₂ .free 0 program (fun _ s => s = .initial)
      (fun l s => l = [] ∧ s.opened = []) := by
  have htop : ([] : List Opener).head? ≠ some .template := by decide
  have hskip : ∀ {f}, Skips .free 0 (Ends [] f) (Starts [] f) := skips_free htop (Nat.le_refl _)
  refine .rule nofun (.seq (B := Ends [] (some false)) (.text fun l s hs => ?_) hskip
    (.seq (lockstep_statements hn) hskip (.rule nofun (.stop fun s hs => ?_))))
  · rw [hs]
    exact ⟨_, .refl _ _, ends_code (b := false) l (by simp)⟩
  · exact ⟨hs.stay.1, rfl, hs.1.opened⟩

end Program

end ExprLang
