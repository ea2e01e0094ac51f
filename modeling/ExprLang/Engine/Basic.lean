import ExprLang.Engine.Options
import ExprLang.Error.Basic
import ExprLang.Eval.Evaluate
import ExprLang.Tree.Outline

/-!
# ExprLang.Engine.Basic

The engine compiles texts, keeps what it has compiled, and evaluates it against variables and a
state.
-/

namespace ExprLang

/-- The version of the language. -/
def version : String := "0.1.0"

/-- A compiled expression.  Its serial number tells it from the results of other compilations of the
same text. -/
structure Compiled where
  source : String
  tree : Node
  serial : Nat

namespace Compiled

/-- Compiles a text; `serial` is the number of the next compiled expression. -/
def ofText (maxDepth : Nat) (source : String) (serial : Nat) : Except Error Compiled × Nat :=
  match parseWithin maxDepth source with
  | .ok tree => (.ok ⟨source, tree, serial⟩, serial + 1)
  | .error e => (.error (.ofParse source e), serial)

/-- Whether two compiled expressions have the same text and equal trees. -/
def equals (a b : Compiled) : Bool := a.source == b.source && a.tree.equals b.tree

/-- The outline of the tree. -/
def outline (c : Compiled) : String := c.tree.outline

end Compiled

/-- What an evaluation leaves: its value or error, the state, what the host keeps, and the events if
it was traced. -/
structure Outcome (σ : Type) where
  result : Except Error Value
  state : Bag
  host : σ
  events : Array Event

/-- Evaluates the tree of a text. -/
def Node.outcome {σ : Type} (tree : Node) (source : String) (s : Surroundings σ) (state : Bag)
    (host : σ) (traced : Bool) : Outcome σ :=
  let (result, r) := tree.evaluate s ⟨state, host, if traced then some #[] else none⟩
  ⟨result.mapError (.ofFailure source), r.state, r.host, r.events.getD #[]⟩

/-- An engine. -/
structure Engine where
  options : Options
  functions : Registry
  cache : Cache Compiled
  /-- The serial number of the next compiled expression. -/
  nextSerial : Nat

namespace Engine

/-- An engine with the functions of the library. -/
def ofOptions (o : Options) : Engine := ⟨o, .standard, .empty o.cacheLimit, 0⟩

/-- An engine with the standard options. -/
def standard : Engine := ofOptions .standard

/-- Makes a host's function and puts it under its name. -/
def define (e : Engine) (name : String) (index : Nat) : Engine :=
  { e with functions := e.functions.define name (.host index) }

/-- Compiles a text, or finds what it was compiled to before. -/
def compile (e : Engine) (text : String) : Except Error Compiled × Engine :=
  let (result, cache, serial) :=
    e.cache.getOrCompile text (Compiled.ofText e.options.maxDepth text) e.nextSerial
  (result, { e with cache := cache, nextSerial := serial })

variable {σ : Type}

/-- Evaluates a compiled expression. -/
def execute (e : Engine) (c : Compiled) (calls : Host σ) (vars state : Bag) (host : σ)
    (traced : Bool) : Outcome σ :=
  c.tree.outcome c.source ⟨vars, e.functions, calls⟩ state host traced

/-- Compiles and evaluates a text. -/
def evaluate (e : Engine) (text : String) (calls : Host σ) (vars state : Bag) (host : σ) :
    Outcome σ × Engine :=
  match e.compile text with
  | (.ok c, e) => (e.execute c calls vars state host false, e)
  | (.error err, e) => (⟨.error err, state, host, #[]⟩, e)

/-- Changes the number of compiled expressions that are kept. -/
def setCacheLimit (e : Engine) (limit : Nat) : Engine := { e with cache := e.cache.setLimit limit }

/-- Forgets all compiled expressions. -/
def clearCache (e : Engine) : Engine := { e with cache := e.cache.clear }

/-- The debugging form of an engine. -/
def debug (e : Engine) : String :=
  "Engine \x7b options: " ++ e.options.debug ++ ", functions: " ++ e.functions.debug ++ ", .. \x7d"

end Engine

end ExprLang
