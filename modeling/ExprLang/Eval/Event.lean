import ExprLang.Tree.Node
import ExprLang.Value.Display

/-!
# ExprLang.Eval.Event

What an evaluation reports as it goes: each node when it is entered, and again when it is left with
a value.  A node whose evaluation fails is not left.
-/

namespace ExprLang

/-- A step of an evaluation. -/
inductive Event
  | enter (kind : NodeKind) (depth : Nat) (position : Position)
  /-- A node is left with a value, of which there is a summary. -/
  | exit (kind : NodeKind) (depth : Nat) (summary : String)
  deriving DecidableEq

namespace Event

/-- How many nodes enclose the node. -/
def depth : Event → Nat
  | enter _ d _ => d
  | exit _ d _ => d

/-- The line of an event in a trace, without its indentation. -/
def label : Event → String
  | enter kind _ _ => kind.name ++ " \x7b"
  | exit _ _ summary => "\x7d: " ++ summary

/-- The line of an event in a trace. -/
def text (e : Event) : String :=
  String.ofList (List.replicate (4 * e.depth) ' ') ++ e.label

end Event

end ExprLang
