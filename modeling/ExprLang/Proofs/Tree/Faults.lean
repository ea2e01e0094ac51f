import ExprLang.Proofs.Tree.Blame
import ExprLang.Proofs.Tree.Limits
import ExprLang.Proofs.Tree.Words

/-!
# ExprLang.Proofs.Tree.Faults

What can be wrong with a text that the grammar accepts.

A token is built of what is inside it, and only literals have faults of their own
(`Token.Formed.tells`).  The grammar lets through no number and no keyword without a value, so these
are the texts, the templates and the regular expressions, and the fault can be told from their
characters (`Token.Fault`).
-/

namespace ExprLang

open ExprLang.Language

/-! ## Literals -/

/-- What is wrong with a literal: an escape between the quotes, an escape in a template, or a
regular expression, of which the flags stand behind the last slash. -/
inductive Token.Fault (t : Token) : ParseError → Prop
  | string {q : Char} {body : List Char} {e : EscapeError} : t.rule = .string →
      t.chars = q :: (body ++ [q]) → unescape body = .error e →
      Fault t ⟨.stringEscape e, t.position⟩
  | template {e : EscapeError} : t.rule = .templateText → unescape t.chars = .error e →
      Fault t ⟨.templateEscape e, t.position⟩
  | regexp {body flags : List Char} {e : RegExpError} : t.rule = .regexp →
      t.chars = '/' :: (body ++ '/' :: flags) → flags.all isLetter = true →
      RegExp.compile (String.ofList (unescapeSlashes body)) (String.ofList flags) = .error e →
      Fault t ⟨.regexp e, t.position⟩

/-- The flags stand behind the last slash. -/
theorem eq_of_append_slash {a b l l' : List Char} (h : a ++ '/' :: l = b ++ '/' :: l')
    (hl : l.all isLetter = true) (hl' : l'.all isLetter = true) : a = b ∧ l = l' := by
  have hslash : ∀ {l : List Char}, l.all isLetter = true → '/' ∉ l := fun hl hmem =>
    absurd (List.all_eq_true.mp hl '/' hmem) (by decide)
  rcases List.append_eq_append_iff.mp h with ⟨c, rfl, hc⟩ | ⟨c, rfl, hc⟩
  · cases c with
    | nil => simpa using hc
    | cons d c =>
      obtain ⟨rfl, rfl⟩ := List.cons.inj hc
      exact absurd (by simp) (hslash hl)
  · cases c with
    | nil => simpa using hc.symm
    | cons d c =>
      obtain ⟨rfl, rfl⟩ := List.cons.inj hc
      exact absurd (by simp) (hslash hl')

namespace Token

variable {t u : Token} {e : ParseError}

/-- Every keyword has a value. -/
theorem exists_keywordValue? : ∀ s ∈ keywords, ∃ v, keywordValue? s = some v := by
  have hsome : ∀ s ∈ keywords, (keywordValue? s).isSome = true := by decide
  exact fun s hs => Option.isSome_iff_exists.mp (hsome s hs)

theorem Descends.of_within {ps : List Production} (ht : t.Descends ps) (hu : u.Within t) :
    u.Descends ps := by
  induction hu with
  | refl => exact ht
  | inside hv _ ih =>
    refine ih ?_
    cases ht with
    | mk _ _ hinside => exact hinside _ (List.mem_reverse.mp hv)

theorem Fault.isLiteral (h : t.Fault e) : t.rule.isLiteral = true := by
  cases h with
  | string hr | template hr | regexp hr => rw [hr]; rfl

theorem stringNode_eq_error_iff {q : Char} {body : Token} (hr : t.rule = .string)
    (hinner : t.inner = [body]) (hchars : t.chars = q :: (body.chars ++ [q])) :
    t.stringNode = .error e ↔ t.Fault e := by
  rw [stringNode, hinner, firstChars]
  constructor
  · intro h
    split at h
    · cases h
    · next hescape =>
      cases h
      exact .string hr hchars hescape
  · intro h
    cases h with
    | string _ hchars' hescape =>
      rw [hchars, List.cons.injEq] at hchars'
      obtain ⟨rfl, hbody⟩ := hchars'
      rw [List.append_cancel_right hbody, hescape]
    | template hr' | regexp hr' => cases hr.symm.trans hr'

theorem templateTextNode_eq_error_iff (hr : t.rule = .templateText) :
    t.templateTextNode = .error e ↔ t.Fault e := by
  rw [templateTextNode]
  constructor
  · intro h
    split at h
    · cases h
    · next hescape =>
      cases h
      exact .template hr hescape
  · intro h
    cases h with
    | template _ hescape => rw [hescape]
    | string hr' | regexp hr' => cases hr.symm.trans hr'

theorem regexpNode_eq_error_iff {body flags : Token} (hr : t.rule = .regexp)
    (hinner : t.inner = [body, flags])
    (hchars : t.chars = '/' :: (body.chars ++ '/' :: flags.chars))
    (hflags : flags.chars.all isLetter = true) : t.regexpNode = .error e ↔ t.Fault e := by
  rw [regexpNode, hinner]
  dsimp only [firstChars]
  constructor
  · intro h
    split at h
    · cases h
    · next hcompile =>
      cases h
      exact .regexp hr hchars hflags hcompile
  · intro h
    cases h with
    | regexp _ hchars' hflags' hcompile =>
      rw [hchars, List.cons.injEq] at hchars'
      obtain ⟨hbody, hflags''⟩ := eq_of_append_slash hchars'.2 hflags hflags'
      rw [hbody, hflags'', hcompile]
    | string hr' | template hr' => cases hr.symm.trans hr'

/-- Numbers and keywords have no faults. -/
theorem not_fault (hr : t.rule = .number ∨ t.rule = .literal) : ¬ t.Fault e := by
  intro h
  rcases hr with hr | hr <;> cases h with
  | string hr' | template hr' | regexp hr' => cases hr.symm.trans hr'

/-- Something is wrong with a literal just if nothing is built of it. -/
theorem Descends.literalBuild_eq_error_iff (ht : t.Descends productions)
    (hliteral : t.rule.isLiteral = true) : t.literalBuild = .error e ↔ t.Fault e := by
  cases hr : t.rule with
  | number =>
    obtain ⟨m, hinner, -⟩ := ht.number hr
    simp only [literalBuild, hr, numberNode, hinner]
    exact iff_of_false (fun h => by cases h) (not_fault (.inl hr))
  | string =>
    obtain ⟨q, body, hinner, hchars⟩ := ht.string hr
    simp only [literalBuild, hr]
    exact stringNode_eq_error_iff hr hinner hchars
  | templateText =>
    simp only [literalBuild, hr]
    exact templateTextNode_eq_error_iff hr
  | regexp =>
    obtain ⟨body, flags, hinner, hchars, hflags⟩ := ht.regexp hr
    simp only [literalBuild, hr]
    exact regexpNode_eq_error_iff hr hinner hchars hflags
  | literal =>
    obtain ⟨v, hv⟩ := exists_keywordValue? _ (ht.literal hr)
    simp only [literalBuild, hr, literalNode, hv]
    exact iff_of_false (fun h => by cases h) (not_fault (.inr hr))
  | _ =>
    rw [hr] at hliteral
    cases hliteral

/-- Something is built of all literals just if nothing is wrong with any. -/
theorem Descends.sound_iff (ht : t.Descends productions) :
    t.Sound ↔ ∀ u : Token, u.Within t → ∀ e, ¬ u.Fault e := by
  constructor
  · intro hsound u hu e hfault
    obtain ⟨n, hn⟩ := hsound u hu hfault.isLiteral
    rw [((ht.of_within hu).literalBuild_eq_error_iff hfault.isLiteral).mpr hfault] at hn
    cases hn
  · intro hnone u hu hliteral
    cases hbuild : u.literalBuild with
    | ok n => exact ⟨n, rfl⟩
    | error e =>
      exact absurd (((ht.of_within hu).literalBuild_eq_error_iff hliteral).mp hbuild) (hnone u hu e)

theorem Descends.exists_fault (ht : t.Descends productions) {limit depth : Nat}
    (h : t.Blamed limit depth e) :
    (∃ u : Token, u.Within t ∧ u.Fault e) ∨ e.cause = .tooDeep limit ∧ limit < depth + t.reach :=
  h.imp_left fun ⟨u, hu, hliteral, hbuild⟩ =>
    ⟨u, hu, ((ht.of_within hu).literalBuild_eq_error_iff hliteral).mp hbuild⟩

/-- What is too deep is no fault of a literal. -/
theorem Fault.cause_ne (h : t.Fault e) (limit : Nat) : e.cause ≠ .tooDeep limit := by
  cases h <;> exact ParseCause.noConfusion

end Token

/-! ## Texts -/

section Texts

variable {source : String} {limit : Nat} {t : Token}

/-- What is not too deep passes the scan of its brackets. -/
theorem deepOpener?_of_not_tooDeep (h : ¬ (parseWithin limit source).TooDeep) :
    deepOpener? limit source.toList = none := by
  cases hopener : deepOpener? limit source.toList with
  | none => rfl
  | some p => exact absurd ⟨limit, p, by simp only [parseWithin, hopener]⟩ h

/-- What is parsed tells of the literals in the text. -/
theorem tells_parseWithin (ht : tokenOf source.toList = .ok t)
    (hopener : deepOpener? limit source.toList = none) :
    (parseWithin limit source).Tells t.Sound (t.Blamed limit 0) := by
  obtain ⟨hformed, hrule⟩ := formed_of_tokenOf ht
  have hbuild : parseWithin limit source = t.build limit 0 := by
    simp only [parseWithin, hopener, ht]
    rfl
  rw [hbuild]
  exact (hformed.tells limit).1 (by rw [hrule]; rfl) 0

/-- A fault of a text that is not too deep is that of a literal. -/
theorem exists_fault_of_parseWithin (ht : tokenOf source.toList = .ok t)
    (hroom : ¬ (parseWithin limit source).TooDeep) {e : ParseError}
    (he : parseWithin limit source = .error e) : ∃ u : Token, u.Within t ∧ u.Fault e := by
  have htells := tells_parseWithin ht (deepOpener?_of_not_tooDeep hroom)
  rw [he] at htells hroom
  rcases (descends_of_tokenOf ht).exists_fault htells with hfault | ⟨hcause, -⟩
  · exact hfault
  · exact absurd ⟨limit, e.position, by rw [← hcause]⟩ hroom

end Texts

/-- A text that the grammar accepts and that is not too deep fails only for a fault of one of its
literals, with this fault, and has a tree just if there are none.  It is not too deep for a limit
that neither its brackets nor the levels of its expressions exceed.  Its numbers are all numerals,
which stand for their numbers. -/
theorem parseWithin_faults {source : String} {t : Token} (ht : tokenOf source.toList = .ok t) :
    (∀ limit, ¬ (parseWithin limit source).TooDeep →
      (∀ e, parseWithin limit source = .error e → ∃ u : Token, u.Within t ∧ u.Fault e) ∧
      ((∃ tree, parseWithin limit source = .ok tree) ↔
        ∀ u : Token, u.Within t → ∀ e, ¬ u.Fault e)) ∧
    (∀ limit, deepOpener? limit source.toList = none → t.reach ≤ limit →
      ¬ (parseWithin limit source).TooDeep) ∧
    ∀ u : Token, u.Within t → u.rule = .number →
      ∃ m, u.inner = [m] ∧ LiteralOf m.chars m.magnitude := by
  have hdescends := descends_of_tokenOf ht
  refine ⟨fun limit hroom => ⟨fun e => exists_fault_of_parseWithin ht hroom, ?_⟩, ?_,
    fun u hu hr => (hdescends.of_within hu).number hr⟩
  · rw [← hdescends.sound_iff]
    constructor
    · exact (tells_parseWithin ht (deepOpener?_of_not_tooDeep hroom)).and.1
    · intro hsound
      cases hparse : parseWithin limit source with
      | ok tree => exact ⟨tree, rfl⟩
      | error e =>
        obtain ⟨u, hu, hfault⟩ := exists_fault_of_parseWithin ht hroom hparse
        exact absurd hfault (hdescends.sound_iff.mp hsound u hu e)
  · rintro limit hopener hreach ⟨limit', pos, hdeep⟩
    have hblamed := (tells_parseWithin ht hopener).and.2 _ hdeep
    rcases hdescends.exists_fault hblamed with ⟨u, -, hfault⟩ | ⟨-, hlimit⟩
    · exact hfault.cause_ne limit' rfl
    · omega

/-- A group that is not closed is a fault, and an escape that is known is none. -/
theorem parseWithin_faults_group :
    (∃ t, tokenOf "[-0x1F, /(/g]".toList = .ok t ∧ ¬ (parseWithin 64 "[-0x1F, /(/g]").TooDeep ∧
      ∃ e, parseWithin 64 "[-0x1F, /(/g]" = .error e ∧ ∃ u : Token, u.Within t ∧ u.Fault e) ∧
    ∃ t, tokenOf "[-0x1F, '\\n']".toList = .ok t ∧
      ¬ (parseWithin 64 "[-0x1F, '\\n']").TooDeep ∧
      ∀ u : Token, u.Within t → ∀ e, ¬ u.Fault e := by
  have htoken : (tokenOf "[-0x1F, /(/g]".toList).isOk = true := by decide +kernel
  have hroom : ¬ (parseWithin 64 "[-0x1F, /(/g]").TooDeep := by decide +kernel
  have herror : (parseWithin 64 "[-0x1F, /(/g]").isOk = false := by decide +kernel
  have htoken' : (tokenOf "[-0x1F, '\\n']".toList).isOk = true := by decide +kernel
  have hroom' : ¬ (parseWithin 64 "[-0x1F, '\\n']").TooDeep := by decide +kernel
  have hok : (parseWithin 64 "[-0x1F, '\\n']").isOk = true := by decide +kernel
  obtain ⟨t, ht⟩ := exists_ok_of_isOk htoken
  obtain ⟨e, he⟩ := exists_error_of_isOk herror
  obtain ⟨t', ht'⟩ := exists_ok_of_isOk htoken'
  obtain ⟨tree, htree⟩ := exists_ok_of_isOk hok
  exact ⟨⟨t, ht, hroom, e, he, ((parseWithin_faults ht).1 64 hroom).1 e he⟩,
    t', ht', hroom', ((parseWithin_faults ht').1 64 hroom').2.mp ⟨tree, htree⟩⟩

end ExprLang
