import ExprLang.RegExp.CharSet.Bounds
import ExprLang.RegExp.Pattern

/-!
# ExprLang.RegExp.Size

How large a pattern is.  The measure is the room in bytes of an automaton that reads the UTF-8 form
of a text backwards byte by byte, and notes the ends of groups: 32 for each state, 8 for each range
of bytes that a state with several ranges reads and 4 for each way out of a state that reads nothing.
Counted repetitions multiply, and so a short pattern may be too large.
-/

namespace ExprLang

/-! ## Byte sequences -/

/-- The ranges of digits, first digit first, that make up the numbers from `lo` to `hi`, where `k`
digits to the base 64 follow the first. -/
def digitRanges : (k : Nat) → (lo hi : Nat) → List (List (Nat × Nat))
  | 0, lo, hi => [[(lo, hi)]]
  | k + 1, lo, hi =>
    let m := Nat.pow 64 (k + 1)
    let (a, b) := (lo / m, hi / m)
    let under (d : Nat) (lo hi : Nat) := (digitRanges k lo hi).map ((d, d) :: ·)
    if a = b then under a (lo % m) (hi % m)
    else
      let low := if lo % m = 0 then [] else under a (lo % m) (m - 1)
      let high := if hi % m = m - 1 then [] else under b 0 (hi % m)
      let first := if lo % m = 0 then a else a + 1
      let last := if hi % m = m - 1 then b else b - 1
      let middle :=
        if first ≤ last then [(first, last) :: List.replicate (k + 1) (0, 63)] else []
      low ++ middle ++ high

/-- The smallest and the largest number of each length in UTF-8, the length less one and what the
first byte adds to the first digit.  The numbers between 0xD800 and 0xDFFF have no such form. -/
def lengths : List (Nat × Nat × Nat × Nat) :=
  [(0x0, 0x7F, 0, 0), (0x80, 0x7FF, 1, 0xC0), (0x800, 0xD7FF, 2, 0xE0), (0xE000, 0xFFFF, 2, 0xE0),
    (0x10000, 0x10FFFF, 3, 0xF0)]

/-- The sequences of ranges of bytes that make up the UTF-8 forms of the numbers from `lo` to
`hi`. -/
def byteSequences (lo hi : Nat) : List (List (Nat × Nat)) :=
  lengths.flatMap fun (least, most, k, lead) =>
    let (lo, hi) := (Nat.max lo least, Nat.min hi most)
    if lo ≤ hi then
      (digitRanges k lo hi).map fun
        | (a, b) :: rest => (a + lead, b + lead) :: rest
        | [] => []
    else []

/-- The ranges of numbers between sorted bounds. -/
def boundRanges : List Nat → List (Nat × Nat)
  | a :: b :: rest => (a, b - 1) :: boundRanges rest
  | _ => []

/-- The number of elements that two lists begin with alike. -/
def sharedLength [BEq α] : List α → List α → Nat
  | a :: as, b :: bs => if a == b then sharedLength as bs + 1 else 0
  | _, _ => 0

/-- The number of states for sequences in order, where what two neighbours begin with alike is
shared. -/
def stateCount (before : List (Nat × Nat)) : List (List (Nat × Nat)) → Nat
  | [] => 0
  | s :: rest => s.length - sharedLength before s + stateCount s rest

/-- The size of a set: one state for each byte of a single character, one that branches for
characters of ASCII, and otherwise the states for the sequences of bytes between a state that
branches and an end. -/
def CharSet.size (s : CharSet) : Nat :=
  match boundRanges s.bounds with
  | [(a, b)] =>
    if a = b then 32 * ((byteSequences a b).map List.length).foldl (· + ·) 0
    else several [(a, b)]
  | ranges => several ranges
where
  /-- The size of a set that is not a single character. -/
  several (ranges : List (Nat × Nat)) : Nat :=
    if ranges.all (·.2 < 128) then 64 + 8 * ranges.length
    else
      let sequences := ranges.flatMap fun (a, b) => byteSequences a b
      64 + 32 * stateCount [] sequences + 4 * sequences.length

namespace Regex

/-- The sets that a regular expression chooses from, if it is a choice between sets. -/
def choice? : Regex → Option CharSet
  | set s => some s
  | alt a b =>
    match a.choice?, b.choice? with
    | some s, some t => some (.union s t)
    | _, _ => none
  | _ => none

mutual

/-- The size of a regular expression, given the size of each set. -/
def size (of : CharSet → Nat) : Regex → Nat
  | empty => 32
  | set s => of s
  | look _ => 32
  | seq a b => a.partSize of + b.partSize of
  | alt a b =>
    match a.choice?, b.choice? with
    | some s, some t => of (.union s t)
    | _, _ => 64 + a.branchSize of + b.branchSize of
  | group _ r => 64 + r.size of
  | repeated min max _ r =>
    let once := r.size of
    match max with
    | none =>
      match min with
      | 0 => if r.alwaysReads then once + 40 else once + 112
      | n => n * once + 40
    | some most => min * once + (if min = most then 0 else 32 + (most - min) * (once + 40))

/-- The size of a part of a sequence, to which what is empty adds nothing. -/
def partSize (of : CharSet → Nat) : Regex → Nat
  | empty => 0
  | r => r.size of

/-- The size of a branch of a choice, with the ways into it. -/
def branchSize (of : CharSet → Nat) : Regex → Nat
  | alt a b => a.branchSize of + b.branchSize of
  | r => 4 + r.size of

end

/-- The size beyond which a pattern is refused. -/
def sizeLimit : Nat := 10485760

/-- The size of what every automaton has: a way to begin anywhere, the ends of the match, and the
state that accepts. -/
def frameSize : Nat := 208

/-- A size that sets with more than one character hardly reach. -/
def roughSize : CharSet → Nat
  | .single _ => 128
  | _ => 400000

/-- Whether a pattern is small enough.  Most patterns are, even if each set is taken to be huge. -/
def isSmall (r : Regex) : Bool :=
  r.size roughSize + frameSize ≤ sizeLimit || r.size CharSet.size + frameSize ≤ sizeLimit

end Regex

end ExprLang
