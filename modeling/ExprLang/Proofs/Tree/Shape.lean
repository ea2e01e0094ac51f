import ExprLang.Proofs.Tree.Tokens

/-!
# ExprLang.Proofs.Tree.Shape

Which trees a text can have, and what of them stands where in the text.

Every node has a role, given by the node around it (`Node.parts`), and the role decides which nodes
may stand there (`Node.Lawful`).  A tree read from a text also points at the text: names at names,
operators, steps and calls at their signs (`Node.Placed`).  `Node.Each` says such a thing of a node
and of everything inside it.
-/

namespace ExprLang

/-! ## Nodes inside nodes -/

/-- Where a node stands. -/
inductive Role
  /-- The whole tree. -/
  | root
  /-- One of the statements of a sequence. -/
  | statement
  /-- What is assigned to. -/
  | target
  /-- Directly inside an object. -/
  | entry
  /-- The key of an item or of a step. -/
  | key
  /-- Everywhere else. -/
  | operand
  deriving DecidableEq

namespace Node

/-- The nodes directly inside, with their roles. -/
def parts : Node → List (Role × Node)
  | sequence _ ns => ns.map (.statement, ·)
  | assignment _ a b => [(.target, a), (.operand, b)]
  | fallback _ a b => [(.operand, a), (.operand, b)]
  | choice _ a b c => [(.operand, a), (.operand, b), (.operand, c)]
  | logical _ _ a b | bitwise _ _ a b | relational _ _ a b | arithmetic _ _ a b =>
    [(.operand, a), (.operand, b)]
  | unary _ _ a => [(.operand, a)]
  | select _ base steps => (.operand, base) :: steps.map fun s => (.key, s.key)
  | call _ callee args _ => (.operand, callee) :: args.map (.operand, ·)
  | array _ ns | template _ ns => ns.map (.operand, ·)
  | object _ ns => ns.map (.entry, ·)
  | item _ a b => [(.key, a), (.operand, b)]
  | identifier .. | var .. | string .. | regexp .. | number .. | literal .. => []

/-- The parts are the nodes directly inside. -/
theorem map_snd_parts (n : Node) : n.parts.map Prod.snd = n.children := by
  cases n <;> simp [parts, children, Function.comp_def]

/-- The node `m` is `n` or stands somewhere inside it. -/
inductive Within (m : Node) : Node → Prop
  | refl : Within m m
  | inside {c n : Node} (hc : c ∈ n.children) (h : Within m c) : Within m n

theorem Within.of_mem {c n : Node} (h : c ∈ n.children) : c.Within n := .inside h .refl

theorem Within.trans {l m n : Node} (h : l.Within m) (h' : m.Within n) : l.Within n := by
  induction h' with
  | refl => exact h
  | inside hc _ ih => exact .inside hc ih

/-- The node has the property in its role, and so has everything inside it. -/
inductive Each (P : Role → Node → Prop) : Role → Node → Prop
  | mk {role : Role} {n : Node} (here : P role n) (parts : ∀ part ∈ n.parts, Each P part.1 part.2) :
    Each P role n

namespace Each

variable {P Q : Role → Node → Prop} {role role' : Role} {n : Node}

theorem here (h : n.Each P role) : P role n := by
  cases h with
  | mk here _ => exact here

theorem part (h : n.Each P role) {p : Role × Node} (hp : p ∈ n.parts) : p.2.Each P p.1 := by
  cases h with
  | mk _ parts => exact parts p hp

theorem mono (h : n.Each P role) (hPQ : ∀ role n, P role n → Q role n) : n.Each Q role := by
  induction h with
  | mk here _ ih => exact .mk (hPQ _ _ here) ih

/-- Only the role of the node itself is changed. -/
theorem change (h : n.Each P role) (hn : P role n → P role' n) : n.Each P role' :=
  .mk (hn h.here) fun _ hp => h.part hp

theorem of_within {m : Node} (h : n.Each P role) (hm : m.Within n) : ∃ role, m.Each P role := by
  induction hm generalizing role with
  | refl => exact ⟨role, h⟩
  | inside hc _ ih =>
    rw [← map_snd_parts] at hc
    obtain ⟨p, hp, rfl⟩ := List.mem_map.mp hc
    exact ih (h.part hp)

end Each

/-! ## Which node may stand where -/

/-- Whether a node may have a role: sequences stand at the root and have two statements or more,
assignments are statements and assign to plain names, objects hold items and nothing else does,
bare names are targets and keys, and a selection takes all steps that follow one another. -/
def Lawful (role : Role) (n : Node) : Prop :=
  (role = .entry ↔ n.kind = .item) ∧
  match n with
  | sequence _ ns => role = .root ∧ 2 ≤ ns.length
  | assignment _ target _ =>
    (role = .root ∨ role = .statement) ∧
      ∃ pos name, target = .identifier pos name ∧ IsPlain name.toList
  | identifier .. => role = .target ∨ role = .key
  | select _ base steps => steps ≠ [] ∧ base.kind ≠ .select
  | _ => True

/-- A tree as texts have them. -/
def WellFormed (tree : Node) : Prop := tree.Each Lawful .root

/-- What may be an operand may also stand in any other role but that of an entry. -/
theorem Lawful.of_operand {n : Node} (h : n.Lawful .operand) {role : Role} (hrole : role ≠ .entry) :
    n.Lawful role := by
  cases n <;> simp_all [Lawful, kind]

/-- What may be a statement may also be the whole tree. -/
theorem Lawful.of_statement {n : Node} (h : n.Lawful .statement) : n.Lawful .root := by
  cases n <;> simp_all [Lawful, kind]

end Node

/-! ## What stands in the text -/

/-- A word stands at a place of the text. -/
def Position.Stands (source : List Char) (p : Position) (w : List Char) : Prop :=
  p.In source ∧ w <+: textAt source p

theorem Position.Marks.stands {source rest w : List Char} {p : Position} (h : p.Marks source rest)
    (hw : w <+: rest) : p.Stands source w :=
  ⟨h.isIn, h.textAt_eq ▸ hw⟩

/-- How a step begins: a field with a point, an index with a bracket. -/
def Step.sign (s : Step Node) : List Char :=
  match s.key with
  | .identifier .. => (Rule.field s.optional).sign
  | _ => (Rule.index s.optional).sign

/-- A step points at its sign, and a field is written with its name. -/
def Step.Placed (source : List Char) (s : Step Node) : Prop :=
  s.position.Stands source s.sign ∧
  ∀ p name, s.key = .identifier p name →
    BeginsField s.sign name.toList (textAt source s.position)

namespace Node

/-- The word that the place of a node points at: the name of a name, the sign of an operator or of
a call, and nothing in particular for other nodes. -/
def sign : Node → List Char
  | identifier _ name | var _ name => name.toList
  | fallback .. => InfixOp.fallback.symbol.toList
  | choice .. => InfixOp.choice.symbol.toList
  | logical _ op _ _ => op.symbol.toList
  | bitwise _ op _ _ => op.symbol.toList
  | relational _ op _ _ => op.symbol.toList
  | arithmetic _ op _ _ => op.symbol.toList
  | unary _ op _ => op.symbol.toList
  | call _ _ _ optional => (Rule.call optional).sign
  | _ => []

/-- The node and its steps point at their signs, and an assignment begins where its target does. -/
def Placed (source : List Char) (n : Node) : Prop :=
  n.position.Stands source n.sign ∧
  match n with
  | select _ _ steps => ∀ s ∈ steps, s.Placed source
  | assignment _ target _ => BeginsAssignment target.sign (textAt source target.position)
  | _ => True

/-- A node as the text has it. -/
structure Sound (source : List Char) (role : Role) (n : Node) : Prop where
  lawful : n.Lawful role
  placed : n.Placed source

theorem Each.wellFormed {source : List Char} {n : Node} (h : n.Each (Sound source) .root) :
    n.WellFormed :=
  h.mono fun _ _ hn => hn.lawful

theorem Each.of_operand {source : List Char} {n : Node} (h : n.Each (Sound source) .operand)
    {role : Role} (hrole : role ≠ .entry) : n.Each (Sound source) role :=
  h.change fun hn => ⟨hn.lawful.of_operand hrole, hn.placed⟩

theorem Each.of_statement {source : List Char} {n : Node} (h : n.Each (Sound source) .statement) :
    n.Each (Sound source) .root :=
  h.change fun hn => ⟨hn.lawful.of_statement, hn.placed⟩

end Node

end ExprLang
