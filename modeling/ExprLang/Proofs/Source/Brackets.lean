import ExprLang.Proofs.Source.Pass
import ExprLang.Proofs.Tree.Phrase

/-!
# ExprLang.Proofs.Source.Brackets

How many levels the pass over a text finds in a piece of it.  `Scan.Passes` says that a piece opens
at most so many levels further and closes them all, whatever is open before it and whatever follows;
such pieces can be put one behind the other and between brackets.  A text that is such a piece is not
too deep for a limit it keeps to (`deepOpener?_of_passes`).
-/

namespace ExprLang

open ExprLang.Language

namespace Scan

/-- Outside comments, and at no slash in the code, the pass does as the grammar does. -/
theorem step_eq_next {s : Scan} {c : Char} (hmode : s.mode ≠ .line)
    (hslash : s.mode = .code → c ≠ '/') (rest : List Char) :
    s.step c rest.head? = s.next c rest := by
  rw [next, if_neg fun h => hmode h.1, if_neg fun h => hslash h.1 h.2.1]

/-- A piece of code that has at most `h` levels open beyond those that were open, and closes them. -/
def Passes (h : Nat) (l : List Char) : Prop :=
  ∀ st b rest, st.head? ≠ some .template → st.head? ≠ some .choice →
    ∃ b', (code st b).peak (l ++ rest) ≤ max (st.length + h) ((code st b').peak rest)

variable {st : List Opener} {b : Bool} {c : Char} {h h' : Nat} {l l' rest : List Char}

theorem peak_cons (s : Scan) (c : Char) (rest : List Char) :
    s.peak (c :: rest) = max s.opened.length ((s.step c rest.head?).peak rest) := rfl

/-- A character other than a slash that leads from code to code. -/
theorem peak_code_cons {st' : List Opener} {b' : Bool} (hc : c ≠ '/')
    (hnext : (code st b).next c rest = code st' b') :
    (code st b).peak (c :: rest) = max st.length ((code st' b').peak rest) := by
  rw [peak_cons, step_eq_next (by simp [code]) (fun _ => hc), hnext, opened_code]

/-- The inside of a string literal. -/
theorem peak_quoted {q : Char} (hq : q ≠ '\\') (hl : isQuotable q l = true) :
    Scan.peak ⟨.quoted q, st, b, false⟩ (l ++ q :: rest) ≤
      max st.length ((code st b).peak rest) := by
  induction l using isQuotable.induct with
  | case1 =>
    rw [List.nil_append, peak_cons, step_eq_next (by simp) (by simp), next_quoted_end hq]
  | case2 => simp [isQuotable] at hl
  | case3 c l ih =>
    rw [isQuotable, if_pos rfl] at hl
    have hle := ih hl
    rw [List.cons_append, List.cons_append, peak_cons, step_eq_next (by simp) (by simp),
      next_quoted_escape, peak_cons, step_eq_next (by simp) (by simp), next_skipping (by simp)]
    simp only
    omega
  | case4 c l hc ih =>
    unfold isQuotable at hl
    rw [if_neg hc, Bool.and_eq_true, bne_iff_ne] at hl
    have hle := ih hl.2
    rw [List.cons_append, peak_cons, step_eq_next (by simp) (by simp), next_quoted hc hl.1]
    simp only
    omega

namespace Passes

theorem nil : Passes 0 [] := fun _ b _ _ _ => ⟨b, Nat.le_max_right _ _⟩

theorem mono (hl : Passes h l) (hle : h ≤ h') : Passes h' l := by
  intro st b rest htemplate hchoice
  obtain ⟨b', hb'⟩ := hl st b rest htemplate hchoice
  exact ⟨b', by omega⟩

theorem append (hl : Passes h l) (hl' : Passes h l') : Passes h (l ++ l') := by
  intro st b rest htemplate hchoice
  obtain ⟨b₁, hb₁⟩ := hl st b (l' ++ rest) htemplate hchoice
  obtain ⟨b', hb'⟩ := hl' st b₁ rest htemplate hchoice
  refine ⟨b', ?_⟩
  rw [List.append_assoc]
  omega

/-- A character that is neither a bracket nor a quote nor begins an operator of two. -/
theorem cons (hc : isMark c = false ∨ c = ':') (hl : Passes h l) : Passes h (c :: l) := by
  intro st b rest htemplate hchoice
  obtain ⟨b₁, hb₁⟩ : ∃ b₁, (code st b).next c (l ++ rest) = code st b₁ := by
    rcases hc with hc | rfl
    · rw [next_code_of_not_mark htemplate hc]
      split
      · exact ⟨_, rfl⟩
      · exact ⟨_, rfl⟩
    · rw [next_colon htemplate, if_neg hchoice]
      exact ⟨_, rfl⟩
  have hslash : c ≠ '/' := by
    rintro rfl
    rcases hc with hc | hc
    · exact absurd hc (by decide)
    · exact absurd hc (by decide)
  obtain ⟨b', hb'⟩ := hl st b₁ rest htemplate hchoice
  refine ⟨b', ?_⟩
  rw [List.cons_append, peak_code_cons hslash hb₁]
  omega

theorem chars (hl : l.all (fun c => !isMark c) = true) : Passes 0 l := by
  induction l with
  | nil => exact nil
  | cons c l ih =>
    rw [List.all_cons, Bool.and_eq_true, Bool.not_eq_true'] at hl
    exact .cons (.inl hl.1) (ih hl.2)

/-- What is quoted, by quotes of either kind. -/
theorem between_quotes {q : Char} (hq : q = '\x27' ∨ q = '"') (hl : isQuotable q l = true) :
    Passes 0 (q :: (l ++ [q])) := by
  intro st b rest htemplate _
  refine ⟨true, ?_⟩
  have hne : q ≠ '\\' ∧ q ≠ '/' := by rcases hq with rfl | rfl <;> decide
  have hle : Scan.peak ⟨.quoted q, st, true, false⟩ (l ++ q :: rest) ≤
      max st.length ((code st true).peak rest) := peak_quoted hne.1 hl
  rw [List.cons_append, List.append_assoc, List.singleton_append, peak_cons,
    step_eq_next (by simp [code]) (fun _ => hne.2), next_quote htemplate hq, opened_code]
  omega

theorem quoted (hl : isQuotable '"' l = true) : Passes 0 ('"' :: (l ++ ['"'])) :=
  between_quotes (.inr rfl) hl

/-- A piece between brackets. -/
theorem bracketed {o : Opener} {c' : Char} (ho : opening o = some c) (ho' : closing o = some c')
    (hl : Passes h l) : Passes (h + 1) (c :: (l ++ [c'])) := by
  intro st b rest htemplate _
  have hne : o ≠ .template ∧ o ≠ .choice ∧ c ≠ '/' ∧ c' ≠ '/' := by
    cases o <;> cases ho <;> cases ho' <;> decide
  obtain ⟨b', hb'⟩ := hl (o :: st) false (c' :: rest) (by simpa using hne.1) (by simpa using hne.2.1)
  refine ⟨true, ?_⟩
  rw [peak_code_cons hne.2.2.2 (next_closing ho')] at hb'
  rw [List.cons_append, List.append_assoc, List.singleton_append,
    peak_code_cons hne.2.2.1 (next_opening htemplate ho)]
  rw [List.length_cons] at hb'
  omega

/-- Pieces with commas between them. -/
theorem intercalate {ls : List (List Char)} (hls : ∀ l ∈ ls, Passes h l) :
    Passes h ([','].intercalate ls) := by
  induction ls with
  | nil => exact nil.mono (Nat.zero_le h)
  | cons l ls ih =>
    rw [List.forall_mem_cons] at hls
    cases ls with
    | nil => simpa [List.intercalate] using hls.1
    | cons l' ls =>
      rw [List.intercalate_cons_cons, List.append_assoc, List.singleton_append]
      exact hls.1.append (.cons (.inl (by decide)) (ih hls.2))

end Passes

end Scan

theorem deepOpener?_of_passes {h limit : Nat} {l : List Char} (hl : Scan.Passes h l)
    (hle : h ≤ limit) : deepOpener? limit l = none := by
  obtain ⟨b', hb'⟩ := hl [] false [] nofun nofun
  have hzero : (Scan.code [] b').peak [] = 0 := rfl
  have hpeak : Scan.initial.peak l ≤ max h 0 := by
    rw [List.append_nil, hzero, List.length_nil, Nat.zero_add] at hb'
    exact hb'
  rw [deepOpener?_eq_none_iff]
  omega

end ExprLang
