import ExprLang.Text.Quoted
import ExprLang.Value.Basic

/-!
# ExprLang.Function.Registry

The functions that expressions can call by name.  A registry also counts the functions made in it,
so that each gets a serial number of its own.
-/

namespace ExprLang

/-- Functions under the names they are called by. -/
structure Registry where
  functions : Entries Function
  /-- The serial number of the next function. -/
  nextSerial : Nat

namespace Registry

/-- A registry without functions. -/
def empty : Registry := ⟨[], 0⟩

/-- Puts a function under a name, in place of the one that was there. -/
def register (r : Registry) (name : String) (f : Function) : Registry :=
  { r with functions := r.functions.insert name f }

/-- Makes a function. -/
def make (r : Registry) (name : String) (behaviour : Behaviour) : Function × Registry :=
  (⟨name, behaviour, r.nextSerial⟩, { r with nextSerial := r.nextSerial + 1 })

/-- Makes a function and puts it under its name. -/
def define (r : Registry) (name : String) (behaviour : Behaviour) : Registry :=
  let (f, r) := r.make name behaviour
  r.register name f

/-- Defines functions of the library. -/
def defineAll (r : Registry) (fs : List LibraryFunction) (name : LibraryFunction → String) :
    Registry :=
  fs.foldl (fun r f => r.define (name f) (.library f)) r

/-- The function under a name. -/
def resolve (r : Registry) (name : String) : Option Function := r.functions.get? name

/-- Whether there is a function under a name. -/
def contains (r : Registry) (name : String) : Bool := (r.resolve name).isSome

/-- The names of the functions, in order. -/
def names (r : Registry) : List String := r.functions.names

/-- The number of functions. -/
def size (r : Registry) : Nat := r.functions.length

/-- The debugging form of a registry. -/
def debug (r : Registry) : String :=
  "FunctionRegistry \x7b functions: [" ++ String.intercalate ", " (r.names.map debugQuoted)
    ++ "] \x7d"

end Registry

end ExprLang
