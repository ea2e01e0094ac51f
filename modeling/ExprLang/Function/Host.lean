import ExprLang.Function.Library
import ExprLang.Function.Registry

/-!
# ExprLang.Function.Host

Calling functions.  The functions of a host have effects on the host's own state, of which the
language knows nothing; `Host` is how it calls them.
-/

namespace ExprLang

/-- How the functions of a host are called: by number, with a receiver and arguments. -/
structure Host (σ : Type) where
  call : Nat → Value → List Value → σ → Except FunctionError Value × σ

/-- A host without functions of its own. -/
def Host.none : Host Unit := ⟨fun _ _ _ s => (.ok .undefined, s)⟩

/-- Calls a function. -/
def Function.call {σ : Type} (f : Function) (host : Host σ) (receiver : Value)
    (args : List Value) (s : σ) : Except FunctionError Value × σ :=
  match f.behaviour with
  | .library g => (g.call receiver args, s)
  | .host i => host.call i receiver args s

namespace Registry

/-- Defines the functions on containers. -/
def addCollections (r : Registry) : Registry :=
  r.defineAll LibraryFunction.onCollections LibraryFunction.name

/-- Defines the functions on texts. -/
def addTexts (r : Registry) : Registry :=
  r.defineAll LibraryFunction.onTexts LibraryFunction.name

/-- Defines all functions of the library. -/
def addLibrary (r : Registry) : Registry := r.addCollections.addTexts

/-- A registry with the functions of the library. -/
def standard : Registry := empty.addLibrary

end Registry

end ExprLang
