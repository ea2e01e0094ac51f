import ExprLang.RegExp.Size

/-!
# ExprLang.RegExp.Program

A regular expression as a program: instructions that read a character, fork, note where a group
begins or ends, or test the place.  Programs are laid out from the end, so that each part knows the
instruction that follows it; only a loop refers to an instruction that is filled in later.
-/

namespace ExprLang

/-- One instruction.  The numbers are the places of instructions that may follow. -/
inductive Instr
  | read (s : CharSet) (next : Nat)
  /-- Goes on at either place, preferring the first. -/
  | fork (first second : Nat)
  /-- Notes the place in the text; slots `2 * i` and `2 * i + 1` are the ends of group `i`. -/
  | save (slot : Nat) (next : Nat)
  | test (a : Assertion) (next : Nat)
  | accept

/-- A program, the place where it begins and the number of its groups. -/
structure Program where
  code : Array Instr
  start : Nat
  groups : Nat

namespace Program

/-- A fork to the body of a repetition or past it, preferring the body if `greedy`. -/
def forkInto (greedy : Bool) (body past : Nat) : Instr :=
  if greedy then .fork body past else .fork past body

/-- A part laid out before the instruction `next`: its beginning and the code so far. -/
abbrev Layout := Nat → Array Instr → Nat × Array Instr

/-- One instruction that goes on to what follows. -/
def single (i : Nat → Instr) : Layout := fun next code => (code.size, code.push (i next))

/-- One or more turns: after each turn the fork decides on another. -/
def layoutLoop (greedy : Bool) (body : Layout) : Layout := fun next code =>
  let fork := code.size
  let (start, code) := body fork (code.push .accept)
  (start, code.setIfInBounds fork (forkInto greedy start next))

/-- No turn or one. -/
def layoutMaybe (greedy : Bool) (body : Layout) (past : Nat) : Layout := fun next code =>
  let (start, code) := body next code
  (code.size, code.push (forkInto greedy start past))

/-- Exactly `n` turns, the last laid out first. -/
def layoutTimes (body : Layout) : Nat → Layout
  | 0 => fun next code => (next, code)
  | n + 1 => fun next code =>
    let (start, code) := body next code
    layoutTimes body n start code

/-- Up to `n` turns, each of which can only follow the one before; the last is laid out first. -/
def layoutUpTo (greedy : Bool) (body : Layout) (past : Nat) : Nat → Layout
  | 0 => fun next code => (next, code)
  | n + 1 => fun next code =>
    let (start, code) := layoutMaybe greedy body past next code
    layoutUpTo greedy body past n start code

/-- Lays out a regular expression.  Any number of turns of what may read nothing is no turn or some
turns, so that a turn that reads nothing still counts once. -/
def layout : Regex → Layout
  | .empty => fun next code => (next, code)
  | .set s => single (.read s)
  | .look a => single (.test a)
  | .seq a b => fun next code =>
    let (start, code) := layout b next code
    layout a start code
  | .alt a b => fun next code =>
    let (second, code) := layout b next code
    let (first, code) := layout a next code
    (code.size, code.push (.fork first second))
  | .group i r => fun next code =>
    let (close, code) := single (.save (2 * i + 1)) next code
    let (body, code) := layout r close code
    single (.save (2 * i)) body code
  | .repeated min max greedy r => fun next code =>
    let body := layout r
    match max with
    | none =>
      match min with
      | 0 =>
        if r.alwaysReads then
          let fork := code.size
          let (start, code) := body fork (code.push .accept)
          (fork, code.setIfInBounds fork (forkInto greedy start next))
        else layoutMaybe greedy (layoutLoop greedy body) next next code
      | n + 1 =>
        let (last, code) := layoutLoop greedy body next code
        layoutTimes body n last code
    | some most =>
      let (optional, code) := layoutUpTo greedy body next (most - min) next code
      layoutTimes body min optional code

/-- The program of a regular expression, or nothing if it is too large. -/
def ofRegex? (r : Regex) : Option Program :=
  if r.isSmall then
    let (start, code) := layout (.group 0 r) 0 #[.accept]
    some ⟨code, start, r.groupCount⟩
  else none

end Program

end ExprLang
