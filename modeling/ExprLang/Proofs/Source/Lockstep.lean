import ExprLang.Proofs.Grammar.Steps
import ExprLang.Proofs.Source.Blanks

/-!
# ExprLang.Proofs.Source.Lockstep

Reading by the grammar and passing over the text, side by side.

`Lockstep` is a Hoare triple about a pattern: where the stage `A` holds of what is left of the
text and of the state of the pass, a successful reading takes the pass to a state where `B` holds,
and the levels open at once on the way are those that the tokens read stand for.  Its rules follow
the constructors of `Pattern`.
-/

namespace ExprLang

/-! ## Nesting of tokens -/

/-- Whether a rule's token opens a level of nesting. -/
def Rule.opens : Rule → Bool
  | .grouped | .array | .object | .computedKey | .index _ | .call _ | .template | .templateHole
  | .between .choice => true
  | _ => false

mutual

/-- The most levels that any point of a token lies in. -/
def Token.nesting : Token → Nat
  | .mk r _ _ inner => (if r.opens then 1 else 0) + nestingAll inner

/-- The most levels that any point of some tokens lies in. -/
def Token.nestingAll : List Token → Nat
  | [] => 0
  | t :: ts => max t.nesting (nestingAll ts)

end

theorem Token.nestingAll_append (ts us : List Token) :
    nestingAll (ts ++ us) = max (nestingAll ts) (nestingAll us) := by
  induction ts with
  | nil => simp [nestingAll]
  | cons t ts ih => rw [List.cons_append, nestingAll, nestingAll, ih, Nat.max_assoc]

@[simp] theorem Token.nestingAll_reverse (ts : List Token) :
    nestingAll ts.reverse = nestingAll ts := by
  induction ts with
  | nil => rfl
  | cons t ts ih =>
    rw [List.reverse_cons, nestingAll_append, ih, Nat.max_comm]
    simp [nestingAll]

/-! ## Triples -/

/-- What holds of the text that is left and of the state of the pass there. -/
abbrev Stage := List Char → Scan → Prop

/-- Blanks, where they may be skipped, lead from `A` to `B` with at most `h` levels open. -/
def Skips (sp : Spacing) (h : Nat) (A B : Stage) : Prop :=
  ∀ (k : Cursor) (s : Scan), A k.rest s →
    ∃ s' h', h' ≤ h ∧ Walk k.rest s h' (k.skip sp).rest s' ∧ B (k.skip sp).rest s'

/-- From `A` the pattern reads in step with the pass, alike for both readers, and leads to `B`, with
`h` levels open at once and those that the tokens read stand for.  All this is said of texts that
keep to the limit. -/
def Lockstep (limit : Nat) (n₁ n₂ : Reader) (sp : Spacing) (h : Nat) (x : Pattern)
    (A B : Stage) : Prop :=
  ∀ (k : Cursor) (s : Scan), s.truePeak k.rest ≤ limit → A k.rest s →
    x.Leads n₁ n₂ ⟨sp, false⟩ k fun ts k' =>
      (sp = .sealed → ts = []) ∧
        ∃ s', Walk k.rest s (h + Token.nestingAll ts) k'.rest s' ∧ B k'.rest s'

variable {limit : Nat} {n₁ n₂ : Reader} {sp : Spacing} {h : Nat} {x y : Pattern}
  {A A' B B' C : Stage}

theorem Skips.of_ne_free (hsp : sp ≠ .free) (hA : ∀ l s, A l s → s.opened.length ≤ h) :
    Skips sp h A A := by
  intro k s ha
  have hk : k.skip sp = k := by cases sp <;> simp_all [Cursor.skip]
  rw [hk]
  exact ⟨s, _, hA _ _ ha, .refl _ _, ha⟩

namespace Lockstep

theorem mono (hx : Lockstep limit n₁ n₂ sp h x A B) (hA : ∀ l s, A' l s → A l s)
    (hB : ∀ l s, B l s → B' l s) : Lockstep limit n₁ n₂ sp h x A' B' := by
  intro k s hpeak ha
  refine (hx k s hpeak (hA _ _ ha)).mono ?_
  rintro ts k' ⟨hts, s', w, hb⟩
  exact ⟨hts, s', w, hB _ _ hb⟩

theorem text {w : List Char}
    (hw : ∀ l s, A (w ++ l) s → ∃ s', Walk (w ++ l) s h l s' ∧ B l s') :
    Lockstep limit n₁ n₂ sp h (.text w) A B := by
  intro k s hpeak ha
  refine .text fun l hl => ⟨fun _ => rfl, ?_⟩
  rw [hl] at ha ⊢
  obtain ⟨s', walk, hb⟩ := hw l s ha
  simpa [Token.nestingAll, hl] using ⟨s', walk, hb⟩

theorem one {f : Char → Bool}
    (hf : ∀ c l s, f c = true → A (c :: l) s → ∃ s', Walk (c :: l) s h l s' ∧ B l s') :
    Lockstep limit n₁ n₂ sp h (.one f) A B := by
  intro k s hpeak ha
  refine .one fun c l hl hc => ⟨fun _ => rfl, ?_⟩
  rw [hl] at ha ⊢
  obtain ⟨s', walk, hb⟩ := hf c l s hc ha
  simpa [Token.nestingAll, hl] using ⟨s', walk, hb⟩

/-- Where nothing is read. -/
theorem post_nil {k : Cursor} {s : Scan} (hh : s.opened.length = h) (hb : B k.rest s) :
    (sp = .sealed → ([] : List Token) = []) ∧
      ∃ s', Walk k.rest s (h + Token.nestingAll []) k.rest s' ∧ B k.rest s' := by
  refine ⟨fun _ => rfl, s, ?_, hb⟩
  rw [Token.nestingAll, Nat.add_zero, ← hh]
  exact .refl _ _

theorem stop (hA : ∀ s, A [] s → s.opened.length = h ∧ B [] s) :
    Lockstep limit n₁ n₂ sp h .stop A B := by
  intro k s hpeak ha
  refine .stop fun hk => ?_
  rw [hk] at ha
  refine post_nil (hA s ha).1 ?_
  rw [hk]
  exact (hA s ha).2

theorem seq (hx : Lockstep limit n₁ n₂ sp h x A B) (hskip : Skips sp h B B')
    (hy : Lockstep limit n₁ n₂ sp h y B' C) : Lockstep limit n₁ n₂ sp h (.seq x y) A C := by
  intro k s hpeak ha
  refine .seq (hx k s hpeak ha) ?_
  rintro ts k₁ ⟨hts, s₁, w₁, hb⟩
  obtain ⟨s₂, h₂, hle, w₂, hb'⟩ := hskip k₁ s₁ hb
  have w := w₁.trans w₂
  refine (hy (k₁.skip sp) s₂ (w.truePeak_le hpeak) hb').mono ?_
  rintro us k₃ ⟨hus, s₃, w₃, hc⟩
  refine ⟨fun hsp => by rw [hus hsp, hts hsp]; rfl, s₃, ?_, hc⟩
  have w' := w.trans w₃
  have hmax : max (max (h + Token.nestingAll ts) h₂) (h + Token.nestingAll us) =
      h + Token.nestingAll (us ++ ts) := by
    rw [Token.nestingAll_append]
    omega
  rwa [hmax] at w'

/-- A sequence that begins with given characters, on which fewer levels may be open. -/
theorem text_seq {w : List Char}
    (hw : ∀ l s, A (w ++ l) s → ∃ s' h', h' ≤ h ∧ Walk (w ++ l) s h' l s' ∧ B l s')
    (hskip : Skips sp h B B') (hy : Lockstep limit n₁ n₂ sp h y B' C) :
    Lockstep limit n₁ n₂ sp h (.seq (.text w) y) A C := by
  intro k s hpeak ha
  have hfirst : (Pattern.text w).Leads n₁ n₂ ⟨sp, false⟩ k fun ts k' => ts = [] ∧
      ∃ s' h', h' ≤ h ∧ Walk k.rest s h' k'.rest s' ∧ B k'.rest s' := by
    refine .text fun l hl => ?_
    rw [hl] at ha ⊢
    obtain ⟨s', h', hle, walk, hb⟩ := hw l s ha
    simpa [hl] using ⟨s', h', hle, walk, hb⟩
  refine .seq hfirst ?_
  rintro ts k₁ ⟨rfl, s₁, h₁, hle₁, w₁, hb⟩
  obtain ⟨s₂, h₂, hle₂, w₂, hb'⟩ := hskip k₁ s₁ hb
  have w := w₁.trans w₂
  refine (hy (k₁.skip sp) s₂ (w.truePeak_le hpeak) hb').mono ?_
  rintro us k₃ ⟨hus, s₃, w₃, hc⟩
  rw [List.append_nil]
  refine ⟨hus, s₃, ?_, hc⟩
  have w' := w.trans w₃
  rwa [Nat.max_eq_right (by omega)] at w'

theorem either (hx : Lockstep limit n₁ n₂ sp h x A B) (hy : Lockstep limit n₁ n₂ sp h y A B) :
    Lockstep limit n₁ n₂ sp h (.either x y) A B :=
  fun k s hpeak ha => .either (hx k s hpeak ha) (hy k s hpeak ha)

theorem choice {xs : List Pattern} (hxs : ∀ x ∈ xs, Lockstep limit n₁ n₂ sp h x A B) :
    Lockstep limit n₁ n₂ sp h (.choice xs) A B := by
  induction xs with
  | nil => exact one fun c l s hc => by cases hc
  | cons x xs ih =>
    cases xs with
    | nil => exact hxs x List.mem_cons_self
    | cons y ys =>
      exact either (hxs x List.mem_cons_self) (ih fun z hz => hxs z (List.mem_cons_of_mem _ hz))

theorem maybe (hx : Lockstep limit n₁ n₂ sp h x A B)
    (hA : ∀ l s, A l s → s.opened.length = h ∧ B l s) :
    Lockstep limit n₁ n₂ sp h (.maybe x) A B :=
  fun k s hpeak ha => .maybe (hx k s hpeak ha) (post_nil (hA _ _ ha).1 (hA _ _ ha).2)

/-- What each reading of a repetition takes from `B'` to `B`, all of them do. -/
theorem many (hfirst : Lockstep limit n₁ n₂ sp h x A B) (hskip : Skips sp h B B')
    (hx : Lockstep limit n₁ n₂ sp h x B' B) (hA : ∀ l s, A l s → s.opened.length = h ∧ B l s) :
    Lockstep limit n₁ n₂ sp h (.many x) A B := by
  intro k s hpeak ha
  refine .many (post_nil (hA _ _ ha).1 (hA _ _ ha).2) (hfirst k s hpeak ha) ?_
  rintro ts k₁ ⟨hts, s₁, w₁, hb⟩
  obtain ⟨s₂, h₂, hle, w₂, hb'⟩ := hskip k₁ s₁ hb
  have w := w₁.trans w₂
  refine (hx (k₁.skip sp) s₂ (w.truePeak_le hpeak) hb').mono ?_
  rintro us k₃ ⟨hus, s₃, w₃, hb⟩
  refine ⟨fun hsp => by rw [hus hsp, hts hsp]; rfl, s₃, ?_, hb⟩
  have w' := w.trans w₃
  have hmax : max (max (h + Token.nestingAll ts) h₂) (h + Token.nestingAll us) =
      h + Token.nestingAll (us ++ ts) := by
    rw [Token.nestingAll_append]
    omega
  rwa [hmax] at w'

/-- Looking ahead, which the pass does not do. -/
theorem ahead (hflat : x.flat = true)
    (hA : ∀ l s, A l s → x.begins l = false → s.opened.length = h ∧ B l s) :
    Lockstep limit n₁ n₂ sp h (.unless x) A B :=
  fun _ _ _ ha => .ahead hflat fun hx => post_nil (hA _ _ ha hx).1 (hA _ _ ha hx).2

/-- A rule whose token counts. -/
theorem rule {r : Rule} {kind : RuleKind} (hsp : sp ≠ .sealed)
    (hx : Lockstep limit n₁ n₂ (kind.body sp) (h + if r.opens then 1 else 0) x A B) :
    Lockstep limit n₁ n₂ sp h (.rule r kind x) A B := by
  intro k s hpeak ha
  have hvis : Mode.visible ⟨kind.outer sp, false⟩ = true := by
    cases kind <;> cases sp <;> simp_all [Mode.visible, RuleKind.outer]
  refine .rule ((hx k s hpeak ha).mono ?_)
  rintro ts k' ⟨-, s', w, hb⟩
  refine ⟨fun h => absurd h hsp, s', ?_, hb⟩
  rw [if_pos hvis, Token.nestingAll, Token.nesting, Token.nestingAll, Token.nestingAll_reverse,
    Nat.max_zero, ← Nat.add_assoc]
  exact w

/-- A rule that is one word, and opens nothing. -/
theorem lexeme {r : Rule} (hr : r.opens = false) (hx : Lockstep limit n₁ n₂ .sealed h x A B) :
    Lockstep limit n₁ n₂ sp h (.rule r .lexeme x) A B := by
  by_cases hsp : sp = .sealed
  · subst hsp
    intro k s hpeak ha
    refine .rule ((hx k s hpeak ha).mono ?_)
    rintro ts k' ⟨hts, s', w, hb⟩
    rw [hts rfl] at w
    exact ⟨fun _ => rfl, s', w, hb⟩
  · refine rule hsp ?_
    rw [hr]
    exact hx

/-- What a pattern does, the rule that contains itself does where the pattern stands for it. -/
theorem recurse (hx : Lockstep limit n₁ n₂ sp h x A B) :
    Lockstep limit (x.read n₁) (x.read n₂) sp h .recurse A B :=
  fun k s hpeak ha => .recurse (hx k s hpeak ha)

end Lockstep

end ExprLang
