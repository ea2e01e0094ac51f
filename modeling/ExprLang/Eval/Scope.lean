import ExprLang.Value.Basic

/-!
# ExprLang.Eval.Scope

The variables that an expression sees.  Those of the caller can only be read; the state is read
first, and it alone is written: by assignments, and by regular expression matches, which leave the
groups of the match in the ten capture variables `$0` to `$9`.
-/

namespace ExprLang

/-- The number of capture variables. -/
def captureSlots : Nat := 10

/-- The name of a capture variable. -/
def captureKey (slot : Nat) : String := "$" ++ toString slot

/-- The groups of a match by number; a failed match has none. -/
def groupText (groups : Option (List (Option String))) (slot : Nat) : Option String :=
  groups.bind fun gs => gs[slot]?.join

namespace Bag

/-- Sets a capture variable to the text of its group, or removes it if the group took no part. -/
def setCapture (state : Bag) (slot : Nat) (text : Option String) : Bag :=
  match text with
  | some s => state.insert (captureKey slot) (.string s)
  | none => state.erase (captureKey slot)

/-- Sets all capture variables after a match. -/
def setCaptures (state : Bag) (groups : Option (List (Option String))) : Bag :=
  (List.range captureSlots).foldl (fun s slot => setCapture s slot (groupText groups slot)) state

end Bag

/-- The variables in sight: those of the caller, and the state. -/
structure Scope where
  vars : Bag
  state : Bag

namespace Scope

/-- The value of a variable. -/
def lookup (s : Scope) (name : String) : Option Value :=
  (s.state.get? name).or (s.vars.get? name)

/-- Gives a variable of the state a value. -/
def assign (s : Scope) (name : String) (v : Value) : Scope :=
  { s with state := s.state.insert name v }

/-- Leaves the groups of a match in the capture variables. -/
def recordCaptures (s : Scope) (groups : Option (List (Option String))) : Scope :=
  { s with state := Bag.setCaptures s.state groups }

end Scope

end ExprLang
