import ExprLang.RegExp.Reading
import ExprLang.RegExp.Search

/-!
# ExprLang.RegExp.Basic

Regular expressions as values: a pattern and flags, compiled.  The flags `i`, `m` and `s` change
what the pattern means; `u`, `g`, `y` and `d` are accepted and change nothing, since patterns always
know Unicode and matching keeps no state.

The compiled program is determined by pattern and flags (`RegExp.ext`), and two regular expressions
are equal when those are (`RegExp.beq_eq_true`).
-/

namespace ExprLang

/-- Why a regular expression cannot be made. -/
inductive RegExpError
  /-- The pattern is wrong. -/
  | pattern (source : String)
  /-- A letter that is no flag. -/
  | flag (c : Char)
  /-- The pattern is right but too large. -/
  | size (source : String)
  deriving DecidableEq

/-- The wording of the error. -/
def RegExpError.message : RegExpError → String
  | .pattern source => "invalid regular expression /" ++ source ++ "/: regex parse error:"
  | .flag c => "invalid regular expression flag '" ++ c.toString ++ "'"
  | .size source =>
    "invalid regular expression /" ++ source ++
      "/: Compiled regex exceeds size limit of 10485760 bytes."

namespace RegExp

/-- The modes that the letters of the flags switch on. -/
def readFlags (f : RegexReader.Flags) : List Char → Except RegExpError RegexReader.Flags
  | [] => .ok f
  | 'i' :: cs => readFlags { f with anyCase := true } cs
  | 'm' :: cs => readFlags { f with multiLine := true } cs
  | 's' :: cs => readFlags { f with dotAll := true } cs
  | c :: cs => if ['u', 'g', 'y', 'd'].contains c then readFlags f cs else .error (.flag c)

/-- The modes of a pattern without flags. -/
def defaultFlags : RegexReader.Flags := ⟨false, false, false, false, true, false, false⟩

/-- The program of a pattern and flags; wrong flags are found before a wrong pattern. -/
def compileProgram (source flags : String) : Except RegExpError Program :=
  match readFlags defaultFlags flags.toList with
  | .error e => .error e
  | .ok f =>
    match RegexReader.readPattern? source.toList f with
    | none => .error (.pattern source)
    | some r =>
      match Program.ofRegex? r with
      | none => .error (.size source)
      | some p => .ok p

end RegExp

/-- A compiled regular expression with its pattern and flags. -/
structure RegExp where
  source : String
  flags : String
  program : Program
  compiled : RegExp.compileProgram source flags = .ok program

namespace RegExp

/-- Pattern and flags determine the regular expression. -/
theorem ext {a b : RegExp} (hs : a.source = b.source) (hf : a.flags = b.flags) : a = b := by
  obtain ⟨s, f, p, hp⟩ := a
  obtain ⟨t, g, q, hq⟩ := b
  dsimp only at hs hf
  subst hs; subst hf
  rw [hp] at hq
  cases hq
  rfl

/-- Compiles a pattern under flags. -/
def compile (source flags : String) : Except RegExpError RegExp :=
  match h : compileProgram source flags with
  | .ok p => .ok ⟨source, flags, p, h⟩
  | .error e => .error e

instance : DecidableEq RegExp := fun a b =>
  if h : a.source = b.source ∧ a.flags = b.flags then .isTrue (ext h.1 h.2)
  else .isFalse fun e => h ⟨congrArg source e, congrArg flags e⟩

theorem beq_eq_true {a b : RegExp} :
    (a == b) = true ↔ a.source = b.source ∧ a.flags = b.flags := by
  rw [beq_iff_eq]
  exact ⟨fun e => ⟨congrArg source e, congrArg flags e⟩, fun h => ext h.1 h.2⟩

/-- The form in which a regular expression is written, without escaping slashes. -/
def text (r : RegExp) : String := "/" ++ r.source ++ "/" ++ r.flags

/-- The number of groups, the whole match included. -/
def groupCount (r : RegExp) : Nat := r.program.groups

/-- The groups of the first match in a text; those that took no part are absent. -/
def captures (r : RegExp) (s : String) : Option (List (Option String)) :=
  r.program.captures s.toList

/-- Whether a text holds a match. -/
def isMatch (r : RegExp) (s : String) : Bool := (r.captures s).isSome

end RegExp

end ExprLang
