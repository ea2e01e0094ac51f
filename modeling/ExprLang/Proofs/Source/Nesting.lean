import ExprLang.Proofs.Source.Comments
import ExprLang.Proofs.Source.Language
import ExprLang.Tree.Parse

/-!
# ExprLang.Proofs.Source.Nesting

What the pass over a text is for: a text that passes it nests no deeper than the limit, so that the
grammar can read it with bounded recursion, and no other text is refused.

With comments as in the grammar this holds of every text (`nesting_eq_truePeak`,
`read_eq_readProgram`).  The pass itself keeps to it exactly where it finds as much nesting as with
comments as in the grammar (`nesting_guard`), which it does if all comments end where they seem to
(`Scan.commentsEnd`).
-/

namespace ExprLang

open ExprLang.Language

/-! ## Reading with bounded recursion -/

/-- Reads by `body` with its own recursion unfolded `depth` times and `bottom` in place of anything
that is nested deeper. -/
def readNestedOver (bottom : Reader) (body : Pattern) : Nat → Reader
  | 0 => bottom
  | depth + 1 => fun m a p => body.read (readNestedOver bottom body depth) m a p

theorem readNestedOver_succ (bottom : Reader) (body : Pattern) (depth : Nat) :
    readNestedOver bottom body (depth + 1) = body.read (readNestedOver bottom body depth) := rfl

theorem readNested_eq_over (body : Pattern) (depth : Nat) :
    readNested body depth = readNestedOver (fun _ a _ => ⟨a, none⟩) body depth := by
  induction depth with
  | zero => rfl
  | succ depth ih =>
    funext m a p
    rw [readNested, readNestedOver, ih]

/-- A text that keeps to the limit does not tell two readers apart that both unfold the recursion
often enough for it, whatever they do further down. -/
theorem nests_over (limit : Nat) (b₁ b₂ : Reader) {d₁ d₂ L : Nat} (h₁ : limit + 1 ≤ L + d₁)
    (h₂ : limit + 1 ≤ L + d₂) :
    Nests limit (readNestedOver b₁ expression d₁) (readNestedOver b₂ expression d₂) L := by
  have hdeep : ∀ {st l s}, limit + 1 ≤ st.length → Scan.truePeak s l ≤ limit →
      ¬ Starts st (some false) l s := by
    intro st l s hlen hpeak hs
    have hle := Scan.length_opened_le_peakBy Scan.next s l
    rw [hs.1.opened] at hle
    rw [Scan.truePeak] at hpeak
    omega
  induction d₁ generalizing d₂ L with
  | zero =>
    intro st hL hst k s hpeak hs
    exact absurd hs (hdeep (by omega) hpeak)
  | succ d₁ ih =>
    cases d₂ with
    | zero =>
      intro st hL hst k s hpeak hs
      exact absurd hs (hdeep (by omega) hpeak)
    | succ d₂ =>
      intro st hL hst
      rw [readNestedOver_succ, readNestedOver_succ]
      exact .recurse (lockstep_expression hst (ih (by omega) (by omega)))

/-! ## The peak -/

namespace Scan

theorem length_opened_popIf (s : Scan) (os : List Opener) :
    (s.popIf os).opened.length ≤ s.opened.length := by
  unfold popIf
  split
  · next heq =>
    split
    · simp [heq]
    · exact Nat.le_refl _
  · exact Nat.le_refl _

theorem length_opened_stepTemplate (s : Scan) (c : Char) (next : Option Char) :
    (s.stepTemplate c next).opened.length ≤ s.opened.length + 1 := by
  have htail : s.opened.tail.length ≤ s.opened.length + 1 := by
    rw [List.length_tail]
    omega
  unfold stepTemplate
  repeat' split
  all_goals first | exact htail | exact Nat.le_refl _ | exact Nat.le_succ _

theorem length_opened_stepCode (s : Scan) (c : Char) (next : Option Char) :
    (s.stepCode c next).opened.length ≤ s.opened.length + 1 := by
  have hpop : ∀ os, (s.popIf os).opened.length ≤ s.opened.length + 1 := fun os =>
    Nat.le_succ_of_le (s.length_opened_popIf os)
  have hite : ∀ {p : Prop} [Decidable p] {x y : Scan}, x.opened.length ≤ s.opened.length + 1 →
      y.opened.length ≤ s.opened.length + 1 →
      (if p then x else y).opened.length ≤ s.opened.length + 1 := by
    intro p _ x y hx hy
    split
    · exact hx
    · exact hy
  unfold stepCode
  repeat' apply hite
  all_goals first | exact hpop _ | exact Nat.le_refl _ | exact Nat.le_succ _

/-- A character opens one level at most. -/
theorem length_opened_step (s : Scan) (c : Char) (next : Option Char) :
    (s.step c next).opened.length ≤ s.opened.length + 1 := by
  unfold step
  split
  · exact Nat.le_succ _
  · split
    · split
      · exact s.length_opened_stepTemplate c next
      · exact s.length_opened_stepCode c next
    all_goals split_ifs <;> exact Nat.le_succ _

/-- So the peak keeps to the length of the text. -/
theorem peakBy_le_length {next : Scan → Char → List Char → Scan}
    (hnext : ∀ s c rest, (next s c rest).opened.length ≤ s.opened.length + 1) (s : Scan)
    (text : List Char) : peakBy next s text ≤ s.opened.length + text.length := by
  induction text generalizing s with
  | nil => exact Nat.le_refl _
  | cons c rest ih =>
    have hstep := hnext s c rest
    have hrest := ih (next s c rest)
    simp only [peakBy, List.length_cons] at hrest ⊢
    omega

theorem peak_le_length (s : Scan) (text : List Char) :
    s.peak text ≤ s.opened.length + text.length :=
  peakBy_le_length (fun s c rest => length_opened_step s c rest.head?) s text

theorem truePeak_le_length (s : Scan) (text : List Char) :
    s.truePeak text ≤ s.opened.length + text.length := by
  refine peakBy_le_length (fun s c rest => ?_) s text
  unfold next
  split_ifs
  · exact Nat.le_succ _
  · exact length_opened_step _ _ _
  · exact length_opened_step _ _ _

end Scan

/-! ## What passes, and what is refused -/

/-- Whatever stands for the rule that contains itself: if it keeps in step, the text is read alike,
and what is read nests as deeply as the pass finds with comments as in the grammar. -/
theorem read_program {limit : Nat} {n₁ n₂ : Reader} (hn : Nests limit n₁ n₂ 0) {text : List Char}
    (hpeak : Scan.initial.truePeak text ≤ limit) (a : Attempts) :
    program.read n₁ ⟨.free, false⟩ a ⟨.ofText text, []⟩ =
        program.read n₂ ⟨.free, false⟩ a ⟨.ofText text, []⟩ ∧
      ∀ a' q, program.read n₁ ⟨.free, false⟩ a ⟨.ofText text, []⟩ = ⟨a', some q⟩ →
        Scan.initial.truePeak text = Token.nestingAll q.tokens := by
  obtain ⟨heq, hres⟩ := lockstep_program hn (.ofText text) .initial hpeak rfl a []
  refine ⟨heq, fun a' q hq => ?_⟩
  obtain ⟨new, hnew, -, s, w, hend, hs⟩ := hres a' q hq
  have hzero : s.truePeak q.cursor.rest = 0 := by
    rw [hend]
    exact congrArg List.length hs
  rw [hnew, List.append_nil, ← Nat.zero_add (Token.nestingAll new)]
  exact w.truePeak_eq.trans (by rw [hzero, Nat.max_zero])

/-- The length of a text bounds how deeply it nests. -/
theorem nests_readExpression (text : List Char) {limit : Nat}
    (hpeak : Scan.initial.truePeak text ≤ limit) (bottom : Reader) :
    Nests (Scan.initial.truePeak text) (readNestedOver bottom expression (limit + 1))
      (readExpression (text.length + 1)) 0 := by
  have hlen := Scan.initial.truePeak_le_length text
  rw [readExpression, readNested_eq_over]
  refine nests_over _ _ _ (by omega) ?_
  rw [show Scan.initial.opened.length = 0 from rfl] at hlen
  omega

/-- A text that keeps to a limit is read with the recursion cut off one level below it as it is
without: nothing is ever asked of what stands there. -/
theorem read_eq_readProgram {text : List Char} {limit : Nat}
    (hpeak : Scan.initial.truePeak text ≤ limit) (bottom : Reader) :
    program.read (readNestedOver bottom expression (limit + 1)) ⟨.free, false⟩ .empty
      ⟨.ofText text, []⟩ = readProgram text :=
  (read_program (nests_readExpression text hpeak bottom) (Nat.le_refl _) _).1

/-- With comments as in the grammar, the pass finds just the nesting of what the grammar reads. -/
theorem nesting_eq_truePeak {text : List Char} {t : Token} (ht : tokenOf text = .ok t) :
    t.nesting = Scan.initial.truePeak text := by
  have hread : ∀ a q, readProgram text = ⟨a, some q⟩ →
      ∃ t, q.tokens = [t] ∧ t.nesting = Scan.initial.truePeak text := by
    intro a q hq
    have hrule := hq
    rw [readProgram, program] at hrule
    obtain ⟨t, ht⟩ := Pattern.tokens_of_rule rfl hrule
    have heq := read_eq_readProgram (Nat.le_refl (Scan.initial.truePeak text))
      fun _ a _ => ⟨a, none⟩
    have hpeak := (read_program (nests_readExpression text (Nat.le_refl _) fun _ a _ => ⟨a, none⟩)
      (Nat.le_refl _) .empty).2 a q (heq.trans hq)
    refine ⟨t, ht, ?_⟩
    rw [hpeak, ht, Token.nestingAll, Token.nestingAll, Nat.max_zero]
  unfold tokenOf at ht
  split at ht
  · next a k t' ts heq =>
    cases ht
    obtain ⟨t', hq, ht'⟩ := hread _ _ heq
    rw [(List.cons.inj hq).1, ht']
  · cases ht

/-- Whether the pass finds as much nesting as with comments as in the grammar. -/
def CommentsAgree (text : List Char) : Prop :=
  Scan.initial.peak text = Scan.initial.truePeak text

/-- The guard against deep nesting, and when it can be relied on.

For a text that the grammar accepts, the pass lets through what nests no deeper than the limit, and
nothing else, exactly if it finds as much nesting as with comments as in the grammar.  Then a text
that passes is also read with bounded recursion, be it accepted or not: `bottom`, which stands for
all expressions that are nested deeper, is never asked.  This is so whenever each line comment of
the pass ends where it ends for the grammar, up to blanks and further comments, and each block
comment is closed. -/
theorem nesting_guard (text : List Char) :
    (∀ t, tokenOf text = .ok t →
      ((∀ limit, deepOpener? limit text = none ↔ t.nesting ≤ limit) ↔ CommentsAgree text)) ∧
    (CommentsAgree text → ∀ limit, deepOpener? limit text = none → ∀ bottom,
      program.read (readNestedOver bottom expression (limit + 1)) ⟨.free, false⟩ .empty
        ⟨.ofText text, []⟩ = readProgram text) ∧
    (Scan.initial.commentsEnd text = true → CommentsAgree text) := by
  refine ⟨fun t ht => ?_, fun hagree limit hnone bottom => ?_, fun hend => ?_⟩
  · rw [nesting_eq_truePeak ht]
    simp only [deepOpener?_eq_none_iff]
    constructor
    · intro h
      have hle := (h (Scan.initial.peak text)).mp (Nat.le_refl _)
      have hge := (h (Scan.initial.truePeak text)).mpr (Nat.le_refl _)
      exact Nat.le_antisymm hge hle
    · intro hagree limit
      rw [hagree]
  · rw [deepOpener?_eq_none_iff, hagree] at hnone
    exact read_eq_readProgram hnone bottom
  · exact (truePeak_eq_peak hend).symm

/-- A conditional with a template, strings, brackets in comments and a regular expression. -/
theorem nesting_guard_mixed :
    ∃ text : List Char, text = "x ? `a${[b /* ( */]}` : /[(]/ // (\n + {k: 1}[\"]\"]".toList ∧
      (tokenOf text).toOption.map Token.nesting = some 4 ∧ deepOpener? 4 text = none ∧
      ∀ bottom, program.read (readNestedOver bottom expression (4 + 1)) ⟨.free, false⟩ .empty
        ⟨.ofText text, []⟩ = readProgram text := by
  refine ⟨_, rfl, by decide +kernel, by decide +kernel, ?_⟩
  exact (nesting_guard _).2.1 ((nesting_guard _).2.2 (by decide +kernel)) 4 (by decide +kernel)

/-! ## Where comments do not agree -/

/-- Two texts at which the guard errs: the first nests no deeper than a list, but closing brackets
after carriage returns are passed over with the comments before them; in the second the comment that
is passed over is a regular expression. -/
theorem nesting_guard_errs :
    (∃ text : List Char, text = "[1 //\r]\n; [2 //\r]\n; [3]".toList ∧
      ¬ ∀ t, tokenOf text = .ok t → ∀ limit, deepOpener? limit text = none ↔ t.nesting ≤ limit) ∧
    ∃ text : List Char, text = "/*a/; [[1]]".toList ∧
      ¬ ∀ t, tokenOf text = .ok t → ∀ limit, deepOpener? limit text = none ↔ t.nesting ≤ limit := by
  have herrs : ∀ (text : List Char) (n limit : Nat),
      (tokenOf text).toOption.map Token.nesting = some n →
      ¬ (deepOpener? limit text = none ↔ n ≤ limit) →
      ¬ ∀ t, tokenOf text = .ok t → ∀ limit, deepOpener? limit text = none ↔ t.nesting ≤ limit := by
    intro text n limit hn herr h
    cases ht : tokenOf text with
    | error e =>
      rw [ht] at hn
      cases hn
    | ok t =>
      rw [ht] at hn
      cases hn
      exact herr (h t ht limit)
  constructor
  · exact ⟨_, rfl, herrs _ 1 2 (by decide +kernel) (by decide +kernel)⟩
  · exact ⟨_, rfl, herrs _ 2 1 (by decide +kernel) (by decide +kernel)⟩

/-- After a line comment that ends with a carriage return alone, anything passes on that line. -/
theorem deepOpener?_after_return (limit : Nat) {text : List Char} (htext : '\n' ∉ text) :
    deepOpener? limit ('/' :: '/' :: '\r' :: text) = none := by
  have hline : ∀ {l : List Char}, '\n' ∉ l → Scan.peak ⟨.line, [], false, false⟩ l = 0 := by
    intro l hl
    induction l with
    | nil => rfl
    | cons c l ih =>
      rw [List.mem_cons, not_or] at hl
      have hstep : Scan.step ⟨.line, [], false, false⟩ c l.head? = ⟨.line, [], false, false⟩ := by
        simp [Scan.step, Ne.symm hl.1]
      rw [Scan.peak, Scan.peakBy, hstep]
      simpa [Scan.peak] using ih hl.2
  have hrest : '\n' ∉ '/' :: '\r' :: text := by simpa using htext
  rw [deepOpener?_eq_none_iff]
  exact Nat.le_trans (Nat.le_of_eq (Nat.max_eq_right (Nat.zero_le _) |>.trans (hline hrest)))
    (Nat.zero_le _)

end ExprLang
