import ExprLang.RegExp.Program

/-!
# ExprLang.RegExp.Search

Running a program over a text.  All the ways of going on are followed together, one character at a
time, in order of preference; a way that comes to an instruction where a preferred way already
stands is dropped.  So the search takes time in proportion to program and text, and what it finds
is the match that begins first and, of those, the one that trying the preferred choice first finds.
-/

namespace ExprLang

namespace Program

/-- A place in a text: the number of characters before it, and its neighbours. -/
structure Place where
  index : Nat
  before : Option Char
  after : Option Char

/-- Whether a character, if there is one, is part of a word. -/
def isWord (unicode : Bool) (c : Option Char) : Bool :=
  match c with
  | some c => (CharSet.wordPart unicode).has c
  | none => false

/-- Whether a condition holds at a place. -/
def holdsAt (p : Place) : Assertion → Bool
  | .textStart => p.before.isNone
  | .textEnd => p.after.isNone
  | .lineStart false => p.before.isNone || p.before == some '\n'
  | .lineStart true =>
    p.before.isNone || p.before == some '\n' || (p.before == some '\r' && p.after != some '\n')
  | .lineEnd false => p.after.isNone || p.after == some '\n'
  | .lineEnd true =>
    p.after.isNone || p.after == some '\r' || (p.after == some '\n' && p.before != some '\r')
  | .wordBoundary u => isWord u p.before != isWord u p.after
  | .notWordBoundary u => isWord u p.before == isWord u p.after
  | .wordStart u => !isWord u p.before && isWord u p.after
  | .wordEnd u => isWord u p.before && !isWord u p.after
  | .wordStartHalf u => !isWord u p.before
  | .wordEndHalf u => !isWord u p.after

/-- The ends of the groups noted so far. -/
abbrev Slots := Array (Option Nat)

/-- A way of going on: the instruction it stands at and the ends of its groups. -/
structure Thread where
  pc : Nat
  slots : Slots

/-- The ways of going on at a place, the preferred last, and the instructions they passed. -/
structure Threads where
  waiting : List Thread
  seen : Array Bool

/-- No ways of going on. -/
def noThreads (p : Program) : Threads := ⟨[], Array.replicate p.code.size false⟩

/-- Follows ways of going on, the preferred first, up to instructions that read or accept. -/
def follow (p : Program) (at_ : Place) : (fuel : Nat) → List Thread → Threads → Threads
  | 0, _, ts => ts
  | _, [], ts => ts
  | fuel + 1, t :: rest, ts =>
    if ts.seen.getD t.pc true then follow p at_ fuel rest ts
    else
      let ts := { ts with seen := ts.seen.setIfInBounds t.pc true }
      match p.code.getD t.pc .accept with
      | .read _ _ | .accept => follow p at_ fuel rest { ts with waiting := t :: ts.waiting }
      | .fork a b => follow p at_ fuel (⟨a, t.slots⟩ :: ⟨b, t.slots⟩ :: rest) ts
      | .save i next =>
        follow p at_ fuel (⟨next, t.slots.setIfInBounds i (some at_.index)⟩ :: rest) ts
      | .test a next =>
        if holdsAt at_ a then follow p at_ fuel (⟨next, t.slots⟩ :: rest) ts
        else follow p at_ fuel rest ts

/-- Adds one way of going on, less preferred than those there. -/
def add (p : Program) (at_ : Place) (t : Thread) (ts : Threads) : Threads :=
  follow p at_ (2 * p.code.size + 2) [t] ts

/-- Reads the character `c` on every way, the preferred first, until one accepts; `beyond` is the
place after the character. -/
def advance (p : Program) (c : Char) (beyond : Place) :
    List Thread → Threads → Option Slots × Threads
  | [], ts => (none, ts)
  | t :: rest, ts =>
    match p.code.getD t.pc .accept with
    | .read s next =>
      if s.has c then advance p c beyond rest (p.add beyond ⟨next, t.slots⟩ ts)
      else advance p c beyond rest ts
    | .accept => (some t.slots, ts)
    | _ => advance p c beyond rest ts

/-- The first way that accepts, of those at the end of the text. -/
def accepted (p : Program) (ts : List Thread) : Option Slots :=
  (ts.find? fun t => match p.code.getD t.pc .accept with | .accept => true | _ => false).map (·.slots)

/-- Searches on from a place with the ways of going on there; `found` is the match so far, after
which no new way begins. -/
def searchFrom (p : Program) (found : Option Slots) (ts : Threads) (index : Nat)
    (before : Option Char) : List Char → Option Slots
  | [] =>
    let here : Place := ⟨index, before, none⟩
    let ts := if found.isNone then p.add here ⟨p.start, blank p⟩ ts else ts
    (p.accepted ts.waiting.reverse).or found
  | c :: rest =>
    let here : Place := ⟨index, before, some c⟩
    let ts := if found.isNone then p.add here ⟨p.start, blank p⟩ ts else ts
    if ts.waiting.isEmpty && found.isSome then found
    else
      let (hit, ts') := p.advance c ⟨index + 1, some c, rest.head?⟩ ts.waiting.reverse p.noThreads
      searchFrom p (hit.or found) ts' (index + 1) (some c) rest
where
  /-- No group has begun. -/
  blank (p : Program) : Slots := Array.replicate (2 * p.groups) none

/-- The ends of the groups of the first match. -/
def search (p : Program) (text : List Char) : Option Slots :=
  p.searchFrom none p.noThreads 0 none text

/-- The text of a group that took part in a match. -/
def groupText (text : List Char) (slots : Slots) (i : Nat) : Option String :=
  match slots.getD (2 * i) none, slots.getD (2 * i + 1) none with
  | some a, some b => some (String.ofList ((text.drop a).take (b - a)))
  | _, _ => none

/-- The texts of the groups of the first match; the first is the whole match. -/
def captures (p : Program) (text : List Char) : Option (List (Option String)) :=
  (p.search text).map fun slots => (List.range p.groups).map (groupText text slots)

end Program

end ExprLang
