import ExprLang.Proofs.Literal.Slashes
import ExprLang.Proofs.Source.Brackets
import ExprLang.Proofs.Tree.Data
import ExprLang.Proofs.Tree.Limits
import ExprLang.Proofs.Tree.Single
import ExprLang.Proofs.Tree.Starred

/-!
# ExprLang.Proofs.Tree.Regexps

Regular expressions written as literals.

A pattern is written between slashes, with its own slashes escaped, and its flags behind them.  The
pass over the brackets, the grammar and the unescaping all take the same slash for the end of it, so
that the text has the regular expression for its tree and for its value (`parseWithin_regexpText`).
-/

namespace ExprLang

open ExprLang.Language Pattern

/-! ## Patterns and flags that can be compiled -/

namespace RegExp

variable {source flags : String} {r : RegExp}

theorem compile_eq_ok (h : compile source flags = .ok r) : r.source = source ∧ r.flags = flags := by
  unfold compile at h
  split at h
  · cases h
    exact ⟨rfl, rfl⟩
  · cases h

theorem exists_compile {p : Program} (h : compileProgram source flags = .ok p) :
    ∃ r, compile source flags = .ok r := by
  unfold compile
  split
  · exact ⟨_, rfl⟩
  · next e he =>
    rw [h] at he
    cases he

theorem isLetter_of_readFlags {f f' : RegexReader.Flags} {cs : List Char}
    (h : readFlags f cs = .ok f') : ∀ c ∈ cs, isLetter c = true := by
  induction cs generalizing f with
  | nil => simp
  | cons c cs ih =>
    rw [List.forall_mem_cons]
    unfold readFlags at h
    split at h
    · next heq => cases heq
    · next heq =>
      cases heq
      exact ⟨by decide, ih h⟩
    · next heq =>
      cases heq
      exact ⟨by decide, ih h⟩
    · next heq =>
      cases heq
      exact ⟨by decide, ih h⟩
    · next heq =>
      cases heq
      split at h
      · next hmem =>
        have hall : ['u', 'g', 'y', 'd'].all isLetter = true := by decide
        exact ⟨List.all_eq_true.mp hall _ (List.contains_iff_mem.mp hmem), ih h⟩
      · cases h

theorem isLetter_of_compile (h : compile source flags = .ok r) :
    flags.toList.all isLetter = true := by
  have hcompiled := r.compiled
  rw [(compile_eq_ok h).2, compileProgram] at hcompiled
  split at hcompiled
  · cases hcompiled
  · next hread => exact List.all_eq_true.mpr (isLetter_of_readFlags hread)

end RegExp

/-! ## The pass over brackets -/

namespace Scan

variable {st : List Opener} {b : Bool} {l rest : List Char}

/-- The inside of a regular expression. -/
theorem peak_regexpBody (hl : isRegexpBody l = true) :
    Scan.peak ⟨.regexp, st, b, false⟩ (l ++ '/' :: rest) ≤
      max st.length ((code st b).peak rest) := by
  induction l using isRegexpBody.induct with
  | case1 =>
    rw [List.nil_append, peak_cons, step_eq_next (by simp) (by simp), next_regexp_end]
  | case2 => simp [isRegexpBody] at hl
  | case3 c l ih =>
    rw [isRegexpBody, if_pos rfl, Bool.and_eq_true] at hl
    have hle := ih hl.2
    rw [List.cons_append, List.cons_append, peak_cons, step_eq_next (by simp) (by simp),
      next_regexp_escape, peak_cons, step_eq_next (by simp) (by simp), next_skipping (by simp)]
    simp only
    omega
  | case4 c l hc ih =>
    unfold isRegexpBody at hl
    rw [if_neg hc, Bool.and_eq_true] at hl
    have hle := ih hl.2
    have hne : c ≠ '/' ∧ c ≠ '\n' ∧ c ≠ '\r' := by simpa using hl.1
    rw [List.cons_append, peak_cons, step_eq_next (by simp) (by simp),
      next_regexp_text hc hne.1 hne.2.1]
    simp only
    omega

theorem not_isMark_of_isLetter {c : Char} (hc : isLetter c = true) : isMark c = false := by
  rw [Bool.eq_false_iff]
  intro hmark
  have hall : ['\x27', '"', '/', '\x60', '(', '[', '\x7b', ')', ']', '\x7d', '?', ':'].all
      (fun c => !isLetter c) = true := by decide
  have hnot := List.all_eq_true.mp hall c (List.contains_iff_mem.mp hmark)
  rw [hc] at hnot
  cases hnot

end Scan

/-! ## Reading -/

section Reading

variable {n : Reader} {k : Cursor} {body flags l : List Char}

/-- What stands between the slashes, up to the second. -/
theorem repeats_regexpBody {m : Mode} (hm : m.spacing ≠ .free) (hbody : isRegexpBody body = true)
    (hk : k.rest = body ++ '/' :: l) :
    Repeats n (.either (noneOf ['/', '\\', '\n', '\r']) (.seq (word "\\") (noneOf ['\n', '\r'])))
      m k [] (k.advance body.length) := by
  induction body using isRegexpBody.induct generalizing k with
  | case1 =>
    rw [List.nil_append] at hk
    refine .done ?_
    rw [Cursor.skip_of_ne_free hm]
    refine rejects_either (rejects_one fun c l' hc => ?_) (rejects_seq (rejects_text ?_))
    · rw [hk, List.cons.injEq] at hc
      simp [← hc.1]
    · simp [hk, List.isPrefixOf]
  | case2 => simp [isRegexpBody] at hbody
  | case3 c w ih =>
    rw [isRegexpBody, if_pos rfl, Bool.and_eq_true] at hbody
    have hrest : ((k.advance 1).advance 1).rest = w ++ '/' :: l := by
      rw [Cursor.rest_advance, Cursor.rest_advance, hk]
      rfl
    have hescaped : (Pattern.seq (word "\\") (noneOf ['\n', '\r'])).Accepts n m k []
        ((k.advance 1).advance 1) := by
      have hslash : (word "\\").Accepts n m k [] (k.advance 1) := accepts_text hk
      have hone : (noneOf ['\n', '\r']).Accepts n m (k.advance 1) [] ((k.advance 1).advance 1) :=
        accepts_one (by rw [Cursor.rest_advance, hk]; rfl) hbody.1
      exact accepts_seq hslash (by rw [Cursor.skip_of_ne_free hm]; exact hone)
    have hplain : (noneOf ['/', '\\', '\n', '\r']).Rejects n m k := rejects_one fun d l' hd => by
      rw [hk, List.cons_append, List.cons.injEq] at hd
      simp [← hd.1]
    have hlt : ((k.advance 1).advance 1).rest.length < k.rest.length := by
      rw [hrest, hk]
      simp only [List.cons_append, List.length_cons]
      omega
    have heither := accepts_either_right hplain hescaped
    have hnext := Repeats.next (by rw [Cursor.skip_of_ne_free hm]; exact heither) hlt
      (ih hbody.2 hrest)
    rw [List.length_cons, List.length_cons, Cursor.advance_succ, Cursor.advance_succ]
    exact hnext
  | case4 c w hc ih =>
    unfold isRegexpBody at hbody
    rw [if_neg hc, Bool.and_eq_true] at hbody
    have hrest : (k.advance 1).rest = w ++ '/' :: l := by
      rw [Cursor.rest_advance, hk]
      rfl
    have hone : (noneOf ['/', '\\', '\n', '\r']).Accepts n m k [] (k.advance 1) := by
      refine accepts_one hk ?_
      have hne : c ≠ '/' ∧ c ≠ '\n' ∧ c ≠ '\r' := by simpa using hbody.1
      simp [hne, hc]
    have hlt : (k.advance 1).rest.length < k.rest.length := by
      rw [hrest, hk]
      exact Nat.lt_succ_self _
    have hnext := Repeats.next (by rw [Cursor.skip_of_ne_free hm]; exact accepts_either_left hone)
      hlt (ih hbody.2 hrest)
    rw [List.length_cons, Cursor.advance_succ]
    exact hnext

/-- What is read by repeating is read at least once, if it is not nothing. -/
theorem Pattern.Repeats.accepts_oneOrMore {x : Pattern} {m : Mode} {k' : Cursor} {ts : List Token}
    (h : Repeats n x m k ts k') (hm : m.spacing ≠ .free)
    (hlt : k'.rest.length < k.rest.length) : (oneOrMore x).Accepts n m k ts k' := by
  cases h with
  | done => exact absurd hlt (Nat.lt_irrefl _)
  | next hone _ hrest =>
    rw [Cursor.skip_of_ne_free hm] at hone
    exact accepts_seq hone (accepts_many (by rw [Cursor.skip_of_ne_free hm]; exact hrest)
      (Cursor.skip_of_ne_free hm _))

theorem Token.build_regexp {len limit depth : Nat} {t u : Token} {r : RegExp}
    (hr : RegExp.compile (String.ofList (unescapeSlashes t.chars)) (String.ofList u.chars) =
      .ok r) : (mk .regexp k len [t, u]).build limit depth = .ok (.regexp k.position r) := by
  rw [build, regexpNode]
  simp only [inner, firstChars, hr]
  rfl

end Reading

/-! ## Literals -/

/-- The token is an operand whose tree is the regular expression. -/
def Token.IsRegExp (r : RegExp) (t : Token) : Prop :=
  t.isOperand = true ∧ ∀ limit depth, ∃ pos, t.build limit depth = .ok (.regexp pos r)

/-- A regular expression literal: what stands between its slashes, and its flags. -/
structure RegexpLiteral where
  body : List Char
  flags : List Char
  valid : isRegexpBody body = true
  nonempty : body ≠ []
  /-- It does not begin like a comment. -/
  unstarred : body.head? ≠ some '*'
  letters : flags.all isLetter = true

namespace RegexpLiteral

variable {n : Reader} {k : Cursor} {r : RegExp} (w : RegexpLiteral)

def chars : List Char := '/' :: (w.body ++ '/' :: w.flags)

/-- Neither a slash nor an asterisk follows the first slash. -/
theorem exists_body : ∃ c l, w.body = c :: l ∧ c ≠ '/' ∧ c ≠ '*' := by
  obtain ⟨c, l, hbody⟩ := List.exists_cons_of_ne_nil w.nonempty
  have hvalid := w.valid
  have hunstarred := w.unstarred
  rw [hbody] at hvalid hunstarred
  refine ⟨c, l, hbody, ?_, by simpa using hunstarred⟩
  rintro rfl
  rw [isRegexpBody.eq_def] at hvalid
  simp at hvalid

theorem blankLength_chars : blankLength w.chars = 0 := by
  obtain ⟨c, l, hbody, hslash, hstar⟩ := w.exists_body
  refine blankRun_of_atStart_eq_none ?_ 0 0
  rw [chars, hbody]
  simp [BlankState.atStart, isBlank, hslash, hstar]

/-- No brackets are found in it. -/
theorem peak_chars : Scan.initial.peak w.chars = 0 := by
  obtain ⟨c, l, hbody, hslash, hstar⟩ := w.exists_body
  have hstep : Scan.initial.step '/' (w.body ++ '/' :: w.flags).head? =
      ⟨.regexp, [], true, false⟩ := by
    simp [hbody, Scan.initial, Scan.step, Scan.stepCode, hslash, hstar]
  have hflags : Scan.Passes 0 w.flags := by
    refine .chars (List.all_eq_true.mpr fun c hc => ?_)
    rw [Scan.not_isMark_of_isLetter (List.all_eq_true.mp w.letters c hc)]
    rfl
  obtain ⟨b, hb⟩ := hflags [] true [] (by simp) (by simp)
  have hzero : (Scan.code [] b).peak [] = 0 := rfl
  have hinside : Scan.peak ⟨.regexp, [], true, false⟩ (w.body ++ '/' :: w.flags) ≤
      max 0 ((Scan.code [] true).peak w.flags) := Scan.peak_regexpBody w.valid
  rw [hzero, List.append_nil, List.length_nil] at hb
  rw [chars, Scan.peak_cons, hstep]
  have hinitial : Scan.initial.opened.length = 0 := rfl
  omega

/-- The literal is read up to its end, where the text ends. -/
theorem takes_regexp (hr : RegExp.compile (String.ofList (unescapeSlashes w.body))
    (String.ofList w.flags) = .ok r) : regexp.TakesOne n w.chars [] (Token.IsRegExp r) := by
  have hword : ∀ {k : Cursor} {l}, k.rest = '/' :: l →
      (word "/").Accepts n ⟨.tight, false⟩ k [] (k.advance 1) := fun hk => accepts_text hk
  rw [← List.append_nil w.chars]
  refine .chars (List.cons_ne_nil _ _) fun k hk => ?_
  rw [List.append_nil] at hk
  have hinside : (k.advance 1).rest = w.body ++ '/' :: w.flags := by
    rw [Cursor.rest_advance, hk]
    rfl
  have hpos := List.length_pos_iff.mpr w.nonempty
  have hlt : ((k.advance 1).advance w.body.length).rest.length < (k.advance 1).rest.length := by
    rw [Cursor.rest_advance, hinside, List.drop_left, List.length_append]
    omega
  have hbody : (rule .regexpBody .lexeme (oneOrMore _)).Accepts n ⟨.tight, false⟩ (k.advance 1)
      _ _ := accepts_rule rfl
    ((repeats_regexpBody (by decide) w.valid hinside).accepts_oneOrMore (by decide) hlt)
  have hbehind : ((k.advance 1).advance w.body.length).rest = '/' :: w.flags := by
    rw [Cursor.rest_advance, hinside, List.drop_left]
  have hend : (((k.advance 1).advance w.body.length).advance 1).rest = w.flags ++ [] := by
    rw [Cursor.rest_advance, hbehind, List.append_nil]
    rfl
  have hflags : (rule .regexpFlags .lexeme (many (.one isLetter))).Accepts n ⟨.tight, false⟩
      (((k.advance 1).advance w.body.length).advance 1) _ _ :=
    accepts_rule rfl (accepts_many_one (by decide) hend w.letters rfl)
  have hregexp : regexp.Accepts n .open k _ _ := accepts_rule rfl
    (accepts_seq (hword hk) (accepts_seq hbody (accepts_seq (hword hbehind) hflags)))
  have hlength : (((k.advance 1).advance w.body.length).advance 1).advance w.flags.length =
      k.advance w.chars.length := by
    rw [Cursor.advance_advance, Cursor.advance_advance, Cursor.advance_advance]
    congr 1
    rw [chars, List.length_cons, List.length_append, List.length_cons]
    omega
  rw [← hlength]
  refine ⟨_, hregexp, _, rfl, rfl, fun limit depth => ⟨k.position, Token.build_regexp ?_⟩⟩
  rw [Token.chars_mk_advance hinside, Token.chars_mk_advance hend]
  exact hr

/-- A literal is a statement, with a level for the expression. -/
theorem takes_statement (hr : RegExp.compile (String.ofList (unescapeSlashes w.body))
    (String.ofList w.flags) = .ok r) (d : Nat) :
    statement.TakesOne (readExpression (d + 1)) w.chars [] fun u => ∀ limit, 1 ≤ limit →
      ∃ pos, u.build limit 0 = .ok (.regexp pos r) := by
  have hmisses : ∀ {n : Reader} {x : Pattern},
      (x.eats (some '/') || x.idles (some '/')) = false → x.Misses n w.chars :=
    fun h => .of_first w.blankLength_chars h
  have hoperand : (Pattern.choice ([grouped, template, array, object] ++ regexp ::
      [number, string, literal, variableName])).TakesOne (readExpression d) w.chars []
        (Token.IsRegExp r) := by
    refine .choice (fun z hz => hmisses ?_) (w.takes_regexp hr)
    have hall : [grouped, template, array, object].all
        (fun z => !(z.eats (some '/') || z.idles (some '/'))) = true := by decide
    simpa using List.all_eq_true.mp hall z hz
  have hrecurse := takes_recurse w.blankLength_chars (hmisses (by decide)) hoperand rfl
  show (Pattern.choice ([assignment] ++ .recurse :: [])).TakesOne _ _ _ _
  refine .choice (fun z hz => ?_) (hrecurse.mono ?_)
  · rw [List.mem_singleton.mp hz]
    exact hmisses (by decide)
  · rintro _ ⟨_, rfl, k, k', t, rfl, hoperand, hbuild⟩
    refine ⟨_, rfl, fun limit hlimit => ?_⟩
    rw [Token.build_expressionToken hoperand k k' hlimit]
    exact hbuild limit 1

/-- A literal is parsed as its regular expression. -/
theorem exists_parseWithin (hr : RegExp.compile (String.ofList (unescapeSlashes w.body))
    (String.ofList w.flags) = .ok r) {source : String} (hsource : source.toList = w.chars)
    {limit : Nat} (hlimit : 1 ≤ limit) : ∃ pos, parseWithin limit source = .ok (.regexp pos r) := by
  have hstatement : statement.TakesOne (readExpression (source.toList.length + 1))
      (pastBlanks source.toList) [] fun u => ∀ limit, 1 ≤ limit →
        ∃ pos, u.build limit 0 = .ok (.regexp pos r) := by
    rw [hsource, pastBlanks_of_blankLength_eq_zero w.blankLength_chars]
    exact w.takes_statement hr _
  obtain ⟨u, hu, hparse⟩ := exists_parseWithin_eq_build hstatement
  have hopener : deepOpener? limit source.toList = none := by
    rw [deepOpener?_eq_none_iff, hsource, w.peak_chars]
    exact Nat.zero_le _
  obtain ⟨pos, hpos⟩ := hu limit hlimit
  exact ⟨pos, (hparse limit hopener).trans hpos⟩

end RegexpLiteral

/-! ## Patterns as literals -/

/-- The text of a regular expression as a literal, with the slashes of the pattern escaped. -/
def regexpText (pattern flags : String) : String :=
  "/" ++ String.ofList (escapeSlashes pattern.toList) ++ "/" ++ flags

theorem toList_regexpText (pattern flags : String) : (regexpText pattern flags).toList =
    '/' :: (escapeSlashes pattern.toList ++ '/' :: flags.toList) := by
  simp [regexpText]

/-- Where a pattern on one line, which escapes no slash and does not end in a backslash, can be
compiled with some flags, it can be written as a literal: the text is parsed as the regular
expression and evaluates to it.  No body of a literal is unescaped into a pattern that escapes a
slash, so that unescaping it again does nothing. -/
theorem parseWithin_regexpText {pattern flags : String} {r : RegExp} (hne : pattern ≠ "")
    (hline : ∀ c ∈ pattern.toList, c ≠ '\n' ∧ c ≠ '\r')
    (hslash : escapesSlash pattern.toList = false) (hend : endsInBackslash pattern.toList = false)
    (hr : RegExp.compile pattern flags = .ok r) {limit : Nat} (hlimit : 1 ≤ limit) :
    (r.source = pattern ∧ r.flags = flags ∧
      ∃ pos, parseWithin limit (regexpText pattern flags) = .ok (.regexp pos r) ∧
        ∀ {σ : Type} (s : Surroundings σ) (run : Run σ),
          ((Node.regexp pos r).evaluate s run).1 = .ok (.regexp r)) ∧
      ∀ body, escapesSlash (unescapeSlashes body) = false ∧
        unescapeSlashes (unescapeSlashes body) = unescapeSlashes body := by
  obtain ⟨hsource, hflags⟩ := RegExp.compile_eq_ok hr
  have hstar := r.head?_source_ne_star
  rw [hsource] at hstar
  have hne' : pattern.toList ≠ [] := fun h => hne (String.toList_eq_nil_iff.mp h)
  let w : RegexpLiteral := {
    body := escapeSlashes pattern.toList
    flags := flags.toList
    valid := isRegexpBody_escapeSlashes hline hslash hend
    nonempty := escapeSlashes_ne_nil hne'
    unstarred := by
      rw [head?_escapeSlashes]
      intro h
      obtain ⟨c, hc, hescaped⟩ := Option.map_eq_some_iff.mp h
      split at hescaped
      · cases hescaped
      · exact hstar (hescaped ▸ hc)
    letters := RegExp.isLetter_of_compile hr }
  have hbody : unescapeSlashes w.body = pattern.toList := unescapeSlashes_escapeSlashes hslash
  obtain ⟨pos, hparse⟩ := w.exists_parseWithin (r := r)
    (by rw [hbody, String.ofList_toList, String.ofList_toList]; exact hr)
    (toList_regexpText pattern flags) hlimit
  refine ⟨⟨hsource, hflags, pos, hparse, fun s run => ?_⟩, fun body =>
    ⟨not_escapesSlash_unescapeSlashes body, unescapeSlashes_unescapeSlashes body⟩⟩
  exact (Node.Gives.evaluate (Node.gives_regexp pos r) s run).1

/-- A pattern with a quote, a bracket, slashes and what looks like a comment. -/
theorem parseWithin_regexpText_marks : ∃ r pos, RegExp.compile "a/*[(/\"]" "s" = .ok r ∧
    r.source = "a/*[(/\"]" ∧ parseWithin 1 "/a\\/*[(\\/\"]/s" = .ok (.regexp pos r) := by
  have hok : (RegExp.compileProgram "a/*[(/\"]" "s").isOk = true := by cbv
  have hline : ∀ c ∈ "a/*[(/\"]".toList, c ≠ '\n' ∧ c ≠ '\r' := by simp
  obtain ⟨p, hp⟩ := exists_ok_of_isOk hok
  obtain ⟨r, hr⟩ := RegExp.exists_compile hp
  obtain ⟨⟨hsource, -, pos, hparse, -⟩, -⟩ :=
    parseWithin_regexpText (by decide +kernel) hline (by decide +kernel) (by decide +kernel) hr
      (Nat.le_refl 1)
  have htext : regexpText "a/*[(/\"]" "s" = "/a\\/*[(\\/\"]/s" := by decide +kernel
  rw [htext] at hparse
  exact ⟨r, pos, hr, hsource, hparse⟩

end ExprLang
