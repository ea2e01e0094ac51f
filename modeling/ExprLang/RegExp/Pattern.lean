import ExprLang.RegExp.CharSet.Named

/-!
# ExprLang.RegExp.Pattern

Regular expressions: what a pattern means, apart from how it is written.
-/

namespace ExprLang

/-- Conditions on a place in a text, met without reading a character. -/
inductive Assertion
  | textStart
  | textEnd
  /-- The start of a line; `crlf` makes a carriage return end a line too. -/
  | lineStart (crlf : Bool)
  | lineEnd (crlf : Bool)
  | wordBoundary (unicode : Bool)
  | notWordBoundary (unicode : Bool)
  | wordStart (unicode : Bool)
  | wordEnd (unicode : Bool)
  /-- No word before the place. -/
  | wordStartHalf (unicode : Bool)
  /-- No word after the place. -/
  | wordEndHalf (unicode : Bool)

/-- A regular expression.  Alternatives are tried in order, and a repetition prefers more turns or
fewer as `greedy` says. -/
inductive Regex
  | empty
  | set (s : CharSet)
  | look (a : Assertion)
  | seq (a b : Regex)
  | alt (a b : Regex)
  | repeated (min : Nat) (max : Option Nat) (greedy : Bool) (r : Regex)
  | group (index : Nat) (r : Regex)

namespace Regex

/-- Whether every match reads at least one character. -/
def alwaysReads : Regex → Bool
  | empty => false
  | set _ => true
  | look _ => false
  | seq a b => a.alwaysReads || b.alwaysReads
  | alt a b => a.alwaysReads && b.alwaysReads
  | repeated min _ _ r => min != 0 && r.alwaysReads
  | group _ r => r.alwaysReads

/-- Whether no match reads a character. -/
def neverReads : Regex → Bool
  | empty => true
  | set _ => false
  | look _ => true
  | seq a b => a.neverReads && b.neverReads
  | alt a b => a.neverReads && b.neverReads
  | repeated _ max _ r => max == some 0 || r.neverReads
  | group _ r => r.neverReads

/-- A repetition.  One turn of what reads nothing is as good as many; no turns are nothing, the
groups inside included; exactly one turn is no repetition. -/
def repeating (min : Nat) (max : Option Nat) (greedy : Bool) (r : Regex) : Regex :=
  let (min, max) :=
    if r.neverReads then (Nat.min min 1, some (Nat.min (max.getD 1) 1)) else (min, max)
  if min = 0 ∧ max = some 0 then empty
  else if min = 1 ∧ max = some 1 then r
  else repeated min max greedy r

/-- Some expressions one after the other. -/
def seqs : List Regex → Regex
  | [] => empty
  | [r] => r
  | r :: rs => seq r (seqs rs)

/-- Some alternatives, the preferred first. -/
def alts : List Regex → Regex
  | [] => empty
  | [r] => r
  | r :: rs => alt r (alts rs)

/-- The number of groups, counting the whole match, up to the last one that can take part. -/
def groupCount : Regex → Nat
  | empty | set _ | look _ => 1
  | seq a b | alt a b => Nat.max a.groupCount b.groupCount
  | repeated _ _ _ r => r.groupCount
  | group index r => Nat.max (index + 1) r.groupCount

end Regex

end ExprLang
