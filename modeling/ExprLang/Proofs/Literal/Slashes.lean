import ExprLang.Literal.Escape

/-!
# ExprLang.Proofs.Literal.Slashes

Slashes in regular expression literals.

Escapes are read from left to right, a backslash and the character after it, in patterns and in the
bodies of literals alike.  A body is unescaped into a pattern in which no slash is escaped.  Such a
pattern is found again behind its escaped slashes (`unescapeSlashes_escapeSlashes`).
-/

namespace ExprLang

/-- Whether a slash is escaped. -/
def escapesSlash : List Char → Bool
  | [] => false
  | c :: l =>
    if c = '\\' then
      match l with
      | [] => false
      | d :: l => d == '/' || escapesSlash l
    else escapesSlash l

/-- Whether a backslash at the end escapes nothing. -/
def endsInBackslash : List Char → Bool
  | [] => false
  | c :: l =>
    if c = '\\' then
      match l with
      | [] => true
      | _ :: l => endsInBackslash l
    else endsInBackslash l

/-- A pattern with its slashes escaped. -/
def escapeSlashes (p : List Char) : List Char :=
  p.flatMap fun c => if c = '/' then ['\\', '/'] else [c]

/-- Whether a text can stand between the slashes of a regular expression literal: on one line, and
neither slashes nor backslashes but in escapes. -/
def isRegexpBody : List Char → Bool
  | [] => true
  | c :: l =>
    if c = '\\' then
      match l with
      | [] => false
      | d :: l => !(['\n', '\r'].contains d) && isRegexpBody l
    else !(['/', '\n', '\r'].contains c) && isRegexpBody l

variable {c d : Char} {l p : List Char}

theorem unescapeSlashes_cons (hc : c ≠ '\\') (l : List Char) :
    unescapeSlashes (c :: l) = c :: unescapeSlashes l := by
  rw [unescapeSlashes]
  · exact fun _ h => absurd h hc
  · exact fun _ _ h => absurd h hc

theorem unescapeSlashes_escape (hd : d ≠ '/') (l : List Char) :
    unescapeSlashes ('\\' :: d :: l) = '\\' :: d :: unescapeSlashes l := by
  rw [unescapeSlashes]
  exact hd

/-- Where no slash is escaped, nothing is unescaped. -/
theorem unescapeSlashes_of_not_escapesSlash (hp : escapesSlash p = false) :
    unescapeSlashes p = p := by
  induction p using escapesSlash.induct with
  | case1 => rfl
  | case2 => rfl
  | case3 d l ih =>
    rw [escapesSlash, if_pos rfl, Bool.or_eq_false_iff, beq_eq_false_iff_ne] at hp
    rw [unescapeSlashes_escape hp.1, ih hp.2]
  | case4 c l hc ih =>
    rw [escapesSlash.eq_def] at hp
    simp only [if_neg hc] at hp
    rw [unescapeSlashes_cons hc, ih hp]

/-- What is unescaped escapes no slash. -/
theorem not_escapesSlash_unescapeSlashes (l : List Char) :
    escapesSlash (unescapeSlashes l) = false := by
  induction l using escapesSlash.induct with
  | case1 => rfl
  | case2 => rfl
  | case3 d l ih =>
    by_cases hd : d = '/'
    · subst hd
      rw [unescapeSlashes, escapesSlash.eq_def]
      exact ih
    · rw [unescapeSlashes_escape hd, escapesSlash, if_pos rfl, ih, Bool.or_false,
        beq_eq_false_iff_ne]
      exact hd
  | case4 c l hc ih =>
    rw [unescapeSlashes_cons hc, escapesSlash.eq_def]
    simp only [if_neg hc]
    exact ih

theorem unescapeSlashes_unescapeSlashes (l : List Char) :
    unescapeSlashes (unescapeSlashes l) = unescapeSlashes l :=
  unescapeSlashes_of_not_escapesSlash (not_escapesSlash_unescapeSlashes l)

theorem escapeSlashes_slash (l : List Char) :
    escapeSlashes ('/' :: l) = '\\' :: '/' :: escapeSlashes l := rfl

theorem escapeSlashes_cons (hc : c ≠ '/') (l : List Char) :
    escapeSlashes (c :: l) = c :: escapeSlashes l := by
  rw [escapeSlashes, List.flatMap_cons, if_neg hc]
  rfl

/-- A pattern that escapes no slash is found again behind its escaped slashes. -/
theorem unescapeSlashes_escapeSlashes (hp : escapesSlash p = false) :
    unescapeSlashes (escapeSlashes p) = p := by
  induction p using escapesSlash.induct with
  | case1 => rfl
  | case2 => rfl
  | case3 d l ih =>
    rw [escapesSlash, if_pos rfl, Bool.or_eq_false_iff, beq_eq_false_iff_ne] at hp
    rw [escapeSlashes_cons (by decide), escapeSlashes_cons hp.1, unescapeSlashes_escape hp.1,
      ih hp.2]
  | case4 c l hc ih =>
    rw [escapesSlash.eq_def] at hp
    simp only [if_neg hc] at hp
    by_cases hslash : c = '/'
    · subst hslash
      exact congrArg _ (ih hp)
    · rw [escapeSlashes_cons hslash, unescapeSlashes_cons hc, ih hp]

/-- A pattern on one line can stand in a literal with its slashes escaped, if it escapes none itself
and does not end in a backslash. -/
theorem isRegexpBody_escapeSlashes (hline : ∀ c ∈ p, c ≠ '\n' ∧ c ≠ '\r')
    (hp : escapesSlash p = false) (hend : endsInBackslash p = false) :
    isRegexpBody (escapeSlashes p) = true := by
  induction p using escapesSlash.induct with
  | case1 => rfl
  | case2 => cases hend
  | case3 d l ih =>
    rw [escapesSlash, if_pos rfl, Bool.or_eq_false_iff, beq_eq_false_iff_ne] at hp
    rw [endsInBackslash, if_pos rfl] at hend
    rw [List.forall_mem_cons, List.forall_mem_cons] at hline
    rw [escapeSlashes_cons (by decide), escapeSlashes_cons hp.1, isRegexpBody, if_pos rfl,
      ih hline.2.2 hp.2 hend]
    simpa using hline.2.1
  | case4 c l hc ih =>
    rw [escapesSlash.eq_def] at hp
    rw [endsInBackslash.eq_def] at hend
    simp only [if_neg hc] at hp hend
    rw [List.forall_mem_cons] at hline
    have hrest := ih hline.2 hp hend
    by_cases hslash : c = '/'
    · subst hslash
      rw [escapeSlashes_slash, isRegexpBody, if_pos rfl, hrest]
      decide
    · rw [escapeSlashes_cons hslash, isRegexpBody.eq_def]
      simp only [if_neg hc, hrest]
      simpa using ⟨hslash, hline.1⟩

theorem escapeSlashes_ne_nil (hp : p ≠ []) : escapeSlashes p ≠ [] := by
  obtain ⟨c, l, rfl⟩ := List.exists_cons_of_ne_nil hp
  by_cases hc : c = '/'
  · subst hc
    exact List.cons_ne_nil _ _
  · rw [escapeSlashes_cons hc]
    exact List.cons_ne_nil _ _

/-- The first character is an escaping one in place of a slash. -/
theorem head?_escapeSlashes (p : List Char) :
    (escapeSlashes p).head? = p.head?.map fun c => if c = '/' then '\\' else c := by
  cases p with
  | nil => rfl
  | cons c l =>
    by_cases hc : c = '/'
    · subst hc
      rfl
    · rw [escapeSlashes_cons hc, List.head?_cons, List.head?_cons, Option.map_some, if_neg hc]

end ExprLang
