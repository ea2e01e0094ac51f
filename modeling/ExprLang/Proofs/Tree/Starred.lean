import ExprLang.Proofs.Grammar.Carries
import ExprLang.Proofs.Tree.Blame

/-!
# ExprLang.Proofs.Tree.Starred

No tree is built of a regular expression that begins with an asterisk.

Such a pattern has nothing to repeat and is not compiled, and where there is a tree, something is
built of every regular expression in the text (`Token.Formed.sound_of_build`).
-/

namespace ExprLang

/-! ## Patterns -/

namespace RegexReader

theorem branch_star (fuel : Nat) (l : List Char) (f : Flags) :
    branch (fuel + 1) [] ⟨'*' :: l, f, 0, []⟩ = none := by
  have hblank : isWhitespace '*' = false := by decide
  have hpure : ∀ {α : Type} (a : α) (s : State), (pure a : Reader α) s = some (a, s) :=
    fun _ _ => rfl
  have hskip : skip ⟨'*' :: l, f, 0, []⟩ = some ((), ⟨'*' :: l, f, 0, []⟩) := by
    simp [skip, modify, modifyGet, MonadStateOf.modifyGet, StateT.modifyGet, dropBlanks, hblank,
      pure]
  have hfail : ∀ s : State, (failure : Reader (List (Option Part))) s = none := fun _ => rfl
  rw [branch]
  simp [hskip, hfail, hpure, bind, StateT.bind, peek, get, getThe, MonadStateOf.get, StateT.get,
    repeatLast, drop, greediness, modify, modifyGet, MonadStateOf.modifyGet, StateT.modifyGet]

/-- A pattern that begins with an asterisk has nothing to repeat. -/
theorem readPattern?_star (l : List Char) (f : Flags) : readPattern? ('*' :: l) f = none := by
  have hfuel : 4 * ('*' :: l).length + 8 = 4 * l.length + 10 + 1 + 1 := by
    rw [List.length_cons]
    omega
  have hnone : alternatives (4 * l.length + 10 + 1 + 1) [] ⟨'*' :: l, f, 0, []⟩ = none := by
    rw [alternatives]
    simp [bind, StateT.bind, branch_star]
  rw [readPattern?, hfuel, hnone]

end RegexReader

theorem RegExp.head?_source_ne_star (r : RegExp) : r.source.toList.head? ≠ some '*' := by
  intro hstar
  obtain ⟨l, hl⟩ := List.head?_eq_some_iff.mp hstar
  have hcompiled := r.compiled
  unfold RegExp.compileProgram at hcompiled
  split at hcompiled
  · cases hcompiled
  · rw [hl, RegexReader.readPattern?_star] at hcompiled
    cases hcompiled

theorem head?_unescapeSlashes {l : List Char} (h : l.head? = some '*') :
    (unescapeSlashes l).head? = some '*' := by
  obtain ⟨l, rfl⟩ := List.head?_eq_some_iff.mp h
  rfl

/-! ## Tokens -/

namespace Token

variable {source : List Char} {t : Token} {inner : List Token} {k : Cursor} {len limit depth : Nat}

/-- A regular expression that is built does not begin with an asterisk. -/
theorem head?_body_ne_star {n : Node} (h : (mk .regexp k len inner).literalBuild = .ok n) :
    inner.head?.any (fun body => body.chars.head? == some '*') = false := by
  change (mk .regexp k len inner).regexpNode = .ok n at h
  simp only [regexpNode, Token.inner] at h
  cases inner with
  | nil => rfl
  | cons body flags =>
    dsimp only at h
    split at h
    · next r hr =>
      have hne := r.head?_source_ne_star
      have hsource : r.source = String.ofList (unescapeSlashes body.chars) := by
        unfold RegExp.compile at hr
        split at hr
        · cases hr
          rfl
        · cases hr
      rw [hsource, String.toList_ofList] at hne
      simpa using fun hstar => hne (head?_unescapeSlashes hstar)
    · cases h

/-- Where something is built of all regular expressions, none begins with an asterisk. -/
theorem Sound.starred (h : t.Sound) (ht : t.Formed source) : t.starred = false := by
  induction ht with
  | mk place fits inside ih =>
    rename_i r k len inner
    have hinner : anyStarred inner = false := by
      rw [anyStarred_eq_any, List.any_eq_false]
      exact fun u hu => Bool.eq_false_iff.mp (ih u hu fun v hv => h v (.inside hu hv))
    rw [Token.starred, hinner, Bool.or_false, Bool.and_eq_false_iff]
    by_cases hr : r = .regexp
    · subst hr
      obtain ⟨n, hn⟩ := h _ .refl rfl
      exact .inr (head?_body_ne_star hn)
    · exact .inl (beq_eq_false_iff_ne.mpr hr)

/-- What a tree is built of has no regular expression that begins with an asterisk. -/
theorem starred_of_formed (ht : t.Formed source) {n : Node} (h : t.build limit depth = .ok n) :
    t.starred = false :=
  (ht.sound_of_build h).starred ht

end Token

end ExprLang
