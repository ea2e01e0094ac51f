import ExprLang.RegExp.CharSet.Basic

/-!
# ExprLang.RegExp.CharSet.Bounds

A set of characters as the sorted list of its bounds: the set holds the characters from the first
bound up to but not including the second, from the third up to the fourth, and so on.  Unlike the
test whether a set has a character, the bounds show how many pieces the set has.
-/

namespace ExprLang.CharSet

/-- The bound of the whole range of characters. -/
def codePoints : Nat := 0x110000

/-- The bounds of what `keep` makes of two sets; `l` and `r` tell whether the place reached lies in
the one and in the other. -/
def combine (keep : Bool → Bool → Bool) (l r : Bool) (as bs : List Nat) : List Nat :=
  let note (n : Nat) (on : Bool) (rest : List Nat) := if on == keep l r then rest else n :: rest
  match as, bs with
  | [], [] => []
  | a :: as, [] => note a (keep (!l) r) (combine keep (!l) r as [])
  | [], b :: bs => note b (keep l !r) (combine keep l (!r) [] bs)
  | a :: as, b :: bs =>
    if a < b then note a (keep (!l) r) (combine keep (!l) r as (b :: bs))
    else if b < a then note b (keep l !r) (combine keep l (!r) (a :: as) bs)
    else note a (keep (!l) !r) (combine keep (!l) (!r) as bs)
termination_by as.length + bs.length

/-- The bounds of the union of two sets. -/
def joinBounds (as bs : List Nat) : List Nat := combine (· || ·) false false as bs

/-- The bounds of some characters. -/
def charBounds (cs : List Char) : List Nat :=
  cs.foldr (fun c bs => joinBounds [c.toNat, c.toNat + 1] bs) []

/-- The bounds of the runs whose label satisfies `p`; `on` tells whether the run before did. -/
def runBounds (p : α → Bool) (on : Bool) : List (Nat × α) → List Nat
  | [] => if on then [codePoints] else []
  | (first, a) :: rest =>
    if p a == on then runBounds p on rest else first :: runBounds p (p a) rest

/-- The bounds of the characters listed with scripts that satisfy `p`. -/
def sharedBounds (p : List Nat → Bool) : List Nat :=
  sharedRuns.toList.foldr
    (fun (first, last, scripts) bs =>
      if p scripts then joinBounds [first, last + 1] bs else bs) []

/-- The bounds of every `step`-th of the numbers from `first` to `last`. -/
def stepBounds (step first last : Nat) : List Nat :=
  (List.range ((last - first) / step + 1)).foldr
    (fun i bs => joinBounds [first + i * step, first + i * step + 1] bs) []

/-- All characters that differ in case from another. -/
def casedLetters : List Char :=
  foldRuns.flatMap fun r =>
    (List.range ((r.last - r.first) / r.step + 1)).flatMap fun i =>
      let n := r.first + i * r.step
      [Char.ofNat n, Char.ofNat ((n : Int) + r.distance).toNat]

/-- The bounds of a set. -/
def bounds : CharSet → List Nat
  | nothing => []
  | anything => [0, codePoints]
  | single c => [c.toNat, c.toNat + 1]
  | range first last => if first ≤ last then [first.toNat, last.toNat + 1] else []
  | every step first last => if first ≤ last then stepBounds step first.toNat last.toNat else []
  | ofClass k => k.bounds.toList
  | category cs => runBounds cs.contains false categoryRuns.toList
  | script i => runBounds (· == i) false scriptRuns.toList
  | usedIn i =>
    let alone := combine (fun a b => a && !b) false false
      (runBounds (· == i) false scriptRuns.toList) (sharedBounds fun _ => true)
    joinBounds alone (sharedBounds (·.contains i))
  | introducedBy v => runBounds (fun a => 0 < a && a ≤ v) false ageRuns.toList
  | union a b => joinBounds a.bounds b.bounds
  | inter a b => combine (· && ·) false false a.bounds b.bounds
  | compl a => combine (· != ·) false false a.bounds [0, codePoints]
  | anyCase (single c) => charBounds (caseVariants c)
  | anyCase a =>
    joinBounds a.bounds (charBounds (casedLetters.filter fun c => (anyCase a).has c))
  | anyAsciiCase (single c) => charBounds (asciiVariants c)
  | anyAsciiCase a =>
    joinBounds a.bounds
      (charBounds ((List.range 128).map Char.ofNat |>.filter fun c => (anyAsciiCase a).has c))

end ExprLang.CharSet
