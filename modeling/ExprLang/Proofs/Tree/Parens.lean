import Mathlib.Logic.Relation
import ExprLang.Proofs.Tree.Phrase

/-!
# ExprLang.Proofs.Tree.Parens

Where parentheses are needed and where they may be added.  A phrase is grouped when each operand
binds tightly enough for where it stands; `Phrase.minimal` puts parentheses around the operands that
do not and around no others, and `Phrase.AddsParens` adds a pair anywhere.  Neither changes the tree
(`Phrase.minimal_node`, `Phrase.AddsParens.node_eq`), and both leave a grouped phrase.
-/

namespace ExprLang

/-! ## Levels -/

/-- The level that a left operand must exceed: the operator's own when it groups from the right, and
one below it else. -/
def InfixOp.leftLevel (op : InfixOp) : Nat := if op.rightAssociative then op.level else op.level - 1

/-- Steps bind tighter than every operator. -/
theorem InfixOp.level_lt (op : InfixOp) : op.level < InfixOp.stepLevel := by
  cases op with
  | fallback | choice => decide
  | logical op | bitwise op | relational op | arithmetic op => cases op <;> decide

theorem InfixOp.leftLevel_lt (op : InfixOp) : op.leftLevel < InfixOp.stepLevel := by
  have := op.level_lt
  unfold leftLevel
  split <;> omega

theorem InfixOp.rightLevel_lt (op : InfixOp) : op.rightLevel < InfixOp.stepLevel := by
  have := op.level_lt
  unfold rightLevel
  split <;> omega

namespace Phrase

/-- How tightly the phrase binds. -/
def level : Phrase → Nat
  | .unary .. => UnaryOp.level
  | .between op .. => op.1.level
  | .choice .. => InfixOp.choice.level
  | .atom _ | .paren _ | .array _ | .object _ | .field .. | .index .. | .call .. => InfixOp.stepLevel

/-- How tightly the phrase binds as a right operand.  There a unary operator needs no parentheses,
since nothing else can be meant. -/
def rightOperandLevel : Phrase → Nat
  | .unary .. => InfixOp.stepLevel
  | p => p.level

end Phrase

mutual

/-- Whether each operand binds tightly enough for where it stands. -/
def Phrase.Grouped : Phrase → Prop
  | .atom _ => True
  | .paren p => p.Grouped
  | .array ps => Phrase.AllGrouped ps
  | .object is => Phrase.ItemsGrouped is
  | .unary _ x => x.Grouped ∧ UnaryOp.level ≤ x.level
  | .between op l r =>
    l.Grouped ∧ r.Grouped ∧ op.1.leftLevel < l.level ∧ op.1.rightLevel < r.rightOperandLevel
  | .choice c m r =>
    c.Grouped ∧ m.Grouped ∧ r.Grouped ∧ InfixOp.choice.leftLevel < c.level ∧
      InfixOp.choice.rightLevel < r.rightOperandLevel
  | .field b _ _ => b.Grouped ∧ InfixOp.stepLevel ≤ b.level
  | .index b _ k => b.Grouped ∧ k.Grouped ∧ InfixOp.stepLevel ≤ b.level
  | .call f _ args => f.Grouped ∧ Phrase.AllGrouped args ∧ InfixOp.stepLevel ≤ f.level

def Phrase.AllGrouped : List Phrase → Prop
  | [] => True
  | p :: ps => p.Grouped ∧ Phrase.AllGrouped ps

def Item.Grouped : Item → Prop
  | .plain _ v => v.Grouped
  | .computed k v => k.Grouped ∧ v.Grouped

def Phrase.ItemsGrouped : List Item → Prop
  | [] => True
  | i :: is => i.Grouped ∧ Phrase.ItemsGrouped is

end

/-- The phrase where it binds tightly enough, and in parentheses else. -/
def Phrase.parenUnless (p : Phrase) (tight : Prop) [Decidable tight] : Phrase :=
  if tight then p else .paren p

mutual

/-- The phrase with parentheses around the operands that need them alone. -/
def Phrase.minimal : Phrase → Phrase
  | .atom a => .atom a
  | .paren p => p.minimal
  | .array ps => .array (Phrase.minimalEach ps)
  | .object is => .object (Phrase.minimalItems is)
  | .unary op x => .unary op (x.minimal.parenUnless (UnaryOp.level ≤ x.minimal.level))
  | .between op l r =>
    .between op (l.minimal.parenUnless (op.1.leftLevel < l.minimal.level))
      (r.minimal.parenUnless (op.1.rightLevel < r.minimal.rightOperandLevel))
  | .choice c m r =>
    .choice (c.minimal.parenUnless (InfixOp.choice.leftLevel < c.minimal.level)) m.minimal
      (r.minimal.parenUnless (InfixOp.choice.rightLevel < r.minimal.rightOperandLevel))
  | .field b optional w =>
    .field (b.minimal.parenUnless (InfixOp.stepLevel ≤ b.minimal.level)) optional w
  | .index b optional k =>
    .index (b.minimal.parenUnless (InfixOp.stepLevel ≤ b.minimal.level)) optional k.minimal
  | .call f optional args =>
    .call (f.minimal.parenUnless (InfixOp.stepLevel ≤ f.minimal.level)) optional
      (Phrase.minimalEach args)

def Phrase.minimalEach : List Phrase → List Phrase
  | [] => []
  | p :: ps => p.minimal :: Phrase.minimalEach ps

def Item.minimal : Item → Item
  | .plain k v => .plain k v.minimal
  | .computed k v => .computed k.minimal v.minimal

def Phrase.minimalItems : List Item → List Item
  | [] => []
  | i :: is => i.minimal :: Phrase.minimalItems is

end

namespace Phrase

theorem level_le (p : Phrase) : p.level ≤ InfixOp.stepLevel := by
  cases p with
  | between op l r => exact Nat.le_of_lt op.1.level_lt
  | unary op x => exact (by decide : UnaryOp.level ≤ InfixOp.stepLevel)
  | choice c m r => exact (by decide : InfixOp.choice.level ≤ InfixOp.stepLevel)
  | _ => exact Nat.le_refl _

theorem level_le_rightOperandLevel (p : Phrase) : p.level ≤ p.rightOperandLevel := by
  cases p with
  | unary op x => exact (by decide : UnaryOp.level ≤ InfixOp.stepLevel)
  | _ => exact Nat.le_refl _

theorem rightOperandLevel_le (p : Phrase) : p.rightOperandLevel ≤ InfixOp.stepLevel := by
  unfold rightOperandLevel
  split
  · exact Nat.le_refl _
  · exact level_le _

/-! ## Parentheses where they are needed -/

section ParenUnless

variable (p : Phrase) (tight : Prop) [Decidable tight]

@[simp] theorem node_parenUnless : (p.parenUnless tight).node = p.node := by
  unfold parenUnless
  split
  · rfl
  · rw [node]

theorem Grouped.parenUnless {p : Phrase} (hp : p.Grouped) : (p.parenUnless tight).Grouped := by
  unfold Phrase.parenUnless
  split
  · exact hp
  · rwa [Grouped]

/-- A pair of parentheses makes up for what is missing. -/
theorem lt_level_parenUnless {n : Nat} (hn : n < InfixOp.stepLevel) :
    n < (p.parenUnless (n < p.level)).level := by
  unfold parenUnless
  split
  · next h => exact h
  · exact hn

theorem lt_rightOperandLevel_parenUnless {n : Nat} (hn : n < InfixOp.stepLevel) :
    n < (p.parenUnless (n < p.rightOperandLevel)).rightOperandLevel := by
  unfold parenUnless
  split
  · next h => exact h
  · exact hn

theorem le_level_parenUnless {n : Nat} (hn : n ≤ InfixOp.stepLevel) :
    n ≤ (p.parenUnless (n ≤ p.level)).level := by
  unfold parenUnless
  split
  · next h => exact h
  · exact hn

end ParenUnless

mutual

/-- Parentheses do not change the tree. -/
theorem node_minimal (p : Phrase) : p.minimal.node = p.node := by
  cases p with
  | atom a => rfl
  | paren p => rw [minimal, node, node_minimal p]
  | array ps => rw [minimal, node, node, nodes_minimalEach ps]
  | object is => rw [minimal, node, node, itemNodes_minimalItems is]
  | unary op x => rw [minimal, node, node, node_parenUnless, node_minimal x]
  | between op l r =>
    rw [minimal, node, node, node_parenUnless, node_parenUnless, node_minimal l, node_minimal r]
  | choice c m r =>
    rw [minimal, node, node, node_parenUnless, node_parenUnless, node_minimal c, node_minimal m,
      node_minimal r]
  | field b optional w => rw [minimal, node, node, node_parenUnless, node_minimal b]
  | index b optional k =>
    rw [minimal, node, node, node_parenUnless, node_minimal b, node_minimal k]
  | call f optional args =>
    rw [minimal, node, node, node_parenUnless, node_minimal f, nodes_minimalEach args]

theorem nodes_minimalEach (ps : List Phrase) : nodes (minimalEach ps) = nodes ps := by
  cases ps with
  | nil => rfl
  | cons p ps => rw [minimalEach, nodes, nodes, node_minimal p, nodes_minimalEach ps]

theorem item_node_minimal (i : Item) : i.minimal.node = i.node := by
  cases i with
  | plain k v => rw [Item.minimal, Item.node, Item.node, node_minimal v]
  | computed k v => rw [Item.minimal, Item.node, Item.node, node_minimal k, node_minimal v]

theorem itemNodes_minimalItems (is : List Item) : itemNodes (minimalItems is) = itemNodes is := by
  cases is with
  | nil => rfl
  | cons i is =>
    rw [minimalItems, itemNodes, itemNodes, item_node_minimal i, itemNodes_minimalItems is]

end

mutual

theorem grouped_minimal (p : Phrase) : p.minimal.Grouped := by
  cases p with
  | atom a => trivial
  | paren p =>
    rw [minimal]
    exact grouped_minimal p
  | array ps =>
    rw [minimal, Grouped]
    exact allGrouped_minimalEach ps
  | object is =>
    rw [minimal, Grouped]
    exact itemsGrouped_minimalItems is
  | unary op x =>
    rw [minimal, Grouped]
    exact ⟨(grouped_minimal x).parenUnless _, le_level_parenUnless _ (by decide)⟩
  | between op l r =>
    rw [minimal, Grouped]
    exact ⟨(grouped_minimal l).parenUnless _, (grouped_minimal r).parenUnless _,
      lt_level_parenUnless _ op.1.leftLevel_lt, lt_rightOperandLevel_parenUnless _ op.1.rightLevel_lt⟩
  | choice c m r =>
    rw [minimal, Grouped]
    exact ⟨(grouped_minimal c).parenUnless _, grouped_minimal m, (grouped_minimal r).parenUnless _,
      lt_level_parenUnless _ (by decide), lt_rightOperandLevel_parenUnless _ (by decide)⟩
  | field b optional w =>
    rw [minimal, Grouped]
    exact ⟨(grouped_minimal b).parenUnless _, le_level_parenUnless _ (Nat.le_refl _)⟩
  | index b optional k =>
    rw [minimal, Grouped]
    exact ⟨(grouped_minimal b).parenUnless _, grouped_minimal k,
      le_level_parenUnless _ (Nat.le_refl _)⟩
  | call f optional args =>
    rw [minimal, Grouped]
    exact ⟨(grouped_minimal f).parenUnless _, allGrouped_minimalEach args,
      le_level_parenUnless _ (Nat.le_refl _)⟩

theorem allGrouped_minimalEach (ps : List Phrase) : AllGrouped (minimalEach ps) := by
  cases ps with
  | nil => trivial
  | cons p ps =>
    rw [minimalEach, AllGrouped]
    exact ⟨grouped_minimal p, allGrouped_minimalEach ps⟩

theorem item_grouped_minimal (i : Item) : i.minimal.Grouped := by
  cases i with
  | plain k v =>
    rw [Item.minimal, Item.Grouped]
    exact grouped_minimal v
  | computed k v =>
    rw [Item.minimal, Item.Grouped]
    exact ⟨grouped_minimal k, grouped_minimal v⟩

theorem itemsGrouped_minimalItems (is : List Item) : ItemsGrouped (minimalItems is) := by
  cases is with
  | nil => trivial
  | cons i is =>
    rw [minimalItems, ItemsGrouped]
    exact ⟨item_grouped_minimal i, itemsGrouped_minimalItems is⟩

end

/-! ## More parentheses -/

theorem nodes_eq_map (ps : List Phrase) : nodes ps = ps.map node := by
  induction ps with
  | nil => rfl
  | cons p ps ih => rw [nodes, ih, List.map_cons]

theorem itemNodes_eq_map (is : List Item) : itemNodes is = is.map Item.node := by
  induction is with
  | nil => rfl
  | cons i is ih => rw [itemNodes, ih, List.map_cons]

theorem allGrouped_iff (ps : List Phrase) : AllGrouped ps ↔ ∀ p ∈ ps, p.Grouped := by
  induction ps with
  | nil => simp [AllGrouped]
  | cons p ps ih => simp [AllGrouped, ih]

theorem itemsGrouped_iff (is : List Item) : ItemsGrouped is ↔ ∀ i ∈ is, i.Grouped := by
  induction is with
  | nil => simp [ItemsGrouped]
  | cons i is ih => simp [ItemsGrouped, ih]

/-- The second phrase is the first with a pair of parentheses around one of its phrases. -/
inductive AddsParens : Phrase → Phrase → Prop
  | here (p : Phrase) : AddsParens p (.paren p)
  | paren {p q : Phrase} : AddsParens p q → AddsParens (.paren p) (.paren q)
  | element {p q : Phrase} (ps rs : List Phrase) : AddsParens p q →
      AddsParens (.array (ps ++ p :: rs)) (.array (ps ++ q :: rs))
  | plainValue {p q : Phrase} (is js : List Item) (k : Key) : AddsParens p q →
      AddsParens (.object (is ++ .plain k p :: js)) (.object (is ++ .plain k q :: js))
  | computedKey {p q : Phrase} (is js : List Item) (v : Phrase) : AddsParens p q →
      AddsParens (.object (is ++ .computed p v :: js)) (.object (is ++ .computed q v :: js))
  | computedValue {p q : Phrase} (is js : List Item) (k : Phrase) : AddsParens p q →
      AddsParens (.object (is ++ .computed k p :: js)) (.object (is ++ .computed k q :: js))
  | operand {p q : Phrase} (op : UnaryOp) : AddsParens p q →
      AddsParens (.unary op p) (.unary op q)
  | left {p q : Phrase} (op : Operator) (r : Phrase) : AddsParens p q →
      AddsParens (.between op p r) (.between op q r)
  | right {p q : Phrase} (op : Operator) (l : Phrase) : AddsParens p q →
      AddsParens (.between op l p) (.between op l q)
  | condition {p q : Phrase} (m r : Phrase) : AddsParens p q →
      AddsParens (.choice p m r) (.choice q m r)
  | middle {p q : Phrase} (c r : Phrase) : AddsParens p q →
      AddsParens (.choice c p r) (.choice c q r)
  | otherwise {p q : Phrase} (c m : Phrase) : AddsParens p q →
      AddsParens (.choice c m p) (.choice c m q)
  | fieldBase {p q : Phrase} (optional : Bool) (w : Name) : AddsParens p q →
      AddsParens (.field p optional w) (.field q optional w)
  | indexBase {p q : Phrase} (optional : Bool) (k : Phrase) : AddsParens p q →
      AddsParens (.index p optional k) (.index q optional k)
  | indexKey {p q : Phrase} (optional : Bool) (b : Phrase) : AddsParens p q →
      AddsParens (.index b optional p) (.index b optional q)
  | callee {p q : Phrase} (optional : Bool) (args : List Phrase) : AddsParens p q →
      AddsParens (.call p optional args) (.call q optional args)
  | argument {p q : Phrase} (optional : Bool) (f : Phrase) (ps rs : List Phrase) : AddsParens p q →
      AddsParens (.call f optional (ps ++ p :: rs)) (.call f optional (ps ++ q :: rs))

namespace AddsParens

variable {p q : Phrase}

theorem node_eq (h : AddsParens p q) : q.node = p.node := by
  induction h with
  | here p => rw [node]
  | _ => simp_all only [node, nodes_eq_map, itemNodes_eq_map, List.map_append, List.map_cons,
      Item.node]

/-- Parentheses make nothing bind less tightly. -/
theorem level_le (h : AddsParens p q) :
    p.level ≤ q.level ∧ p.rightOperandLevel ≤ q.rightOperandLevel := by
  cases h with
  | here => exact ⟨p.level_le, p.rightOperandLevel_le⟩
  | _ => exact ⟨Nat.le_refl _, Nat.le_refl _⟩

theorem grouped (h : AddsParens p q) (hp : p.Grouped) : q.Grouped := by
  induction h with
  | here p => rwa [Grouped]
  | paren _ ih =>
    rw [Grouped] at hp ⊢
    exact ih hp
  | element ps rs _ ih | argument optional f ps rs _ ih =>
    simp only [Grouped, allGrouped_iff, List.forall_mem_append, List.forall_mem_cons] at hp ⊢
    grind
  | plainValue is js k _ ih | computedKey is js v _ ih | computedValue is js k _ ih =>
    simp only [Grouped, itemsGrouped_iff, List.forall_mem_append, List.forall_mem_cons,
      Item.Grouped] at hp ⊢
    grind
  | operand _ h ih | left _ _ h ih | right _ _ h ih | condition _ _ h ih | otherwise _ _ h ih
  | fieldBase _ _ h ih | indexBase _ _ h ih | callee _ _ h ih =>
    have hle := h.level_le
    simp only [Grouped] at hp ⊢
    grind
  | middle _ _ _ ih | indexKey _ _ _ ih =>
    simp only [Grouped] at hp ⊢
    grind

/-- What adding pairs of parentheses, one after the other, keeps. -/
theorem reflTransGen (h : Relation.ReflTransGen AddsParens p q) (hp : p.Grouped) :
    q.Grouped ∧ q.node = p.node := by
  induction h with
  | refl => exact ⟨hp, rfl⟩
  | tail _ h ih => exact ⟨h.grouped ih.1, h.node_eq.trans ih.2⟩

end AddsParens

end Phrase

end ExprLang
