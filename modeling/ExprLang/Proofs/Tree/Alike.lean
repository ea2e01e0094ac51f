import Mathlib.Data.List.Forall2
import ExprLang.Proofs.Grammar.Shapes
import ExprLang.Proofs.Tree.Moved
import ExprLang.Proofs.Tree.Runs

/-!
# ExprLang.Proofs.Tree.Alike

Tokens that are alike stand for the same tree.

A tree shows nothing of where its tokens stand but its places.  So what is built from one token is
built from any token of the same shape, with its places changed as they are in the shape, if there is
no less room for it (`Token.agrees_build`).  `Parsed.Agrees` compares what was parsed on the two
sides; where something was wrong on the first side, nothing is said of the second.
-/

namespace ExprLang

/-! ## What was parsed on two sides -/

/-- Whatever was parsed on the first side was parsed on the second, with the same image under `f`. -/
def Parsed.Agrees {α β : Type} (f : α → β) (x y : Parsed α) : Prop :=
  ∀ a, x = .ok a → ∃ b, y = .ok b ∧ f b = f a

namespace Parsed.Agrees

variable {α β γ δ : Type} {f : α → β} {g : γ → δ} {x y : Parsed α}

theorem error {e : ParseError} : Parsed.Agrees f (.error e) y := fun _ h => by cases h

theorem ok {a b : α} (h : f b = f a) : Parsed.Agrees f (.ok a) (.ok b) := by
  rintro _ ⟨⟩
  exact ⟨b, rfl, h⟩

theorem bind {F G : α → Parsed γ} (h : Parsed.Agrees f x y)
    (hF : ∀ a b, f b = f a → Parsed.Agrees g (F a) (G b)) :
    Parsed.Agrees g (x >>= F) (y >>= G) := by
  cases x with
  | error e => exact error
  | ok a =>
    obtain ⟨b, rfl, hb⟩ := h a rfl
    exact hF a b hb

theorem map {F G : α → γ} (h : Parsed.Agrees f x y) (hF : ∀ a b, f b = f a → g (G b) = g (F a)) :
    Parsed.Agrees g (x.map F) (y.map G) := by
  cases x with
  | error e => exact error
  | ok a =>
    obtain ⟨b, rfl, hb⟩ := h a rfl
    exact ok (hF a b hb)

end Parsed.Agrees

open Parsed (Agrees)

/-! ## Nodes with other places -/

namespace Node

variable {g : Position → Position} {n n' : Node} {ms : List Node}

theorem exists_singleton (h : movedAll g ms = movedAll g [n]) :
    ∃ m, ms = [m] ∧ m.moved g = n.moved g := by
  rw [movedAll_eq_map, movedAll_eq_map, List.map_singleton, List.map_eq_singleton_iff] at h
  exact h

theorem exists_pair (h : movedAll g ms = movedAll g [n, n']) :
    ∃ m m', ms = [m, m'] ∧ m.moved g = n.moved g ∧ m'.moved g = n'.moved g := by
  rw [movedAll_eq_map, movedAll_eq_map, List.map_cons, List.map_singleton,
    List.map_eq_cons_iff] at h
  obtain ⟨m, ms', rfl, hm, hms⟩ := h
  obtain ⟨m', rfl, hm'⟩ := List.map_eq_singleton_iff.mp hms
  exact ⟨m, m', rfl, hm, hm'⟩

end Node

/-! ## Pieces -/

namespace Piece

/-- The same pieces, with places changed by `g`. -/
inductive Alike (g : Position → Position) : Piece → Piece → Prop
  | operand {x y : Parsed Node} : Agrees (Node.moved g) x y → Alike g (.operand x) (.operand y)
  | unary {p q : Position} (op : UnaryOp) : g q = g p → Alike g (.unary p op) (.unary q op)
  | step {x y : Parsed (Step Node)} : Agrees (Node.movedStep g) x y → Alike g (.step x) (.step y)
  | call {x y : Parsed (List Node)} {p q : Position} (optional : Bool) : g q = g p →
      Agrees (Node.movedAll g) x y → Alike g (.call p x optional) (.call q y optional)
  | between {p q : Position} (op : InfixOp) : g q = g p → Alike g (.between p op) (.between q op)
  | choice {x y : Parsed Node} {p q : Position} : g q = g p → Agrees (Node.moved g) x y →
      Alike g (.choice p x) (.choice q y)

variable {g : Position → Position}

/-- What was taken off the front on the two sides, and what is left. -/
def TakenAlike (g : Position → Position) (r r' : Parsed Node × List Piece) : Prop :=
  Agrees (Node.moved g) r.1 r'.1 ∧ List.Forall₂ (Alike g) r.2 r'.2

variable {x y left left' : Parsed Node} {ps qs : List Piece} {p q : Position}

theorem agrees_step {s s' : Parsed (Step Node)} (h : Agrees (Node.moved g) left left')
    (hs : Agrees (Node.movedStep g) s s') : Agrees (Node.moved g)
      (do return addStep (← left) (← s)) (do return addStep (← left') (← s')) := by
  refine h.bind fun a b hab => hs.bind fun s s' hss => .ok ?_
  rw [moved_addStep, moved_addStep, hab, hss]

theorem agrees_call {args args' : Parsed (List Node)} (hpos : g q = g p) (optional : Bool)
    (h : Agrees (Node.moved g) left left') (hargs : Agrees (Node.movedAll g) args args') :
    Agrees (Node.moved g) (do return .call p (← left) (← args) optional)
      (do return .call q (← left') (← args') optional) := by
  refine h.bind fun a b hab => hargs.bind fun as bs habs => .ok ?_
  rw [Node.moved, Node.moved, hpos, hab, habs]

theorem agrees_between (hpos : g q = g p) (op : InfixOp) (h : Agrees (Node.moved g) left left')
    (hright : Agrees (Node.moved g) x y) : Agrees (Node.moved g)
      (do return joinOperands p op (← left) (← x))
      (do return joinOperands q op (← left') (← y)) := by
  refine h.bind fun a b hab => hright.bind fun c d hcd => .ok ?_
  rw [moved_joinOperands, moved_joinOperands, hpos, hab, hcd]

theorem agrees_choice {m m' : Parsed Node} (hpos : g q = g p) (h : Agrees (Node.moved g) left left')
    (hm : Agrees (Node.moved g) m m') (hright : Agrees (Node.moved g) x y) : Agrees (Node.moved g)
      (do let l ← left; let r ← x; return .choice p l (← m) r)
      (do let l ← left'; let r ← y; return .choice q l (← m') r) := by
  refine h.bind fun a b hab => hright.bind fun c d hcd => hm.bind fun e f hef => .ok ?_
  rw [Node.moved, Node.moved, hpos, hab, hcd, hef]

/-- Grouping goes the same way on the two sides. -/
theorem takenAlike (fuel : Nat) :
    (∀ level ps qs, List.Forall₂ (Alike g) ps qs →
      TakenAlike g (takeExpression fuel level ps) (takeExpression fuel level qs)) ∧
    ∀ level left left' ps qs, Agrees (Node.moved g) left left' → List.Forall₂ (Alike g) ps qs →
      TakenAlike g (takeOperators fuel level left ps) (takeOperators fuel level left' qs) := by
  induction fuel with
  | zero => exact ⟨fun _ _ _ h => ⟨.error, h⟩, fun _ _ _ _ _ hleft h => ⟨hleft, h⟩⟩
  | succ fuel ih =>
    obtain ⟨ihExpression, ihOperators⟩ := ih
    constructor
    · intro level ps qs h
      cases h with
      | nil => exact ⟨.error, .nil⟩
      | cons hp hrest =>
        cases hp with
        | operand hx => exact ihOperators level _ _ _ _ hx hrest
        | unary op hpos =>
          obtain ⟨hx, hrest'⟩ := ihExpression (UnaryOp.level - 1) _ _ hrest
          refine ihOperators level _ _ _ _ (hx.map fun a b hab => ?_) hrest'
          rw [Node.moved, Node.moved, hpos, hab]
        | step hs => exact ⟨.error, .cons (.step hs) hrest⟩
        | call optional hpos hargs => exact ⟨.error, .cons (.call optional hpos hargs) hrest⟩
        | between op hpos => exact ⟨.error, .cons (.between op hpos) hrest⟩
        | choice hpos hm => exact ⟨.error, .cons (.choice hpos hm) hrest⟩
    · intro level left left' ps qs hleft h
      cases h with
      | nil => exact ⟨hleft, .nil⟩
      | cons hp hrest =>
        cases hp with
        | operand hx => exact ⟨hleft, .cons (.operand hx) hrest⟩
        | unary op hpos => exact ⟨hleft, .cons (.unary op hpos) hrest⟩
        | step hs =>
          rw [takeOperators, takeOperators]
          split
          · exact ihOperators level _ _ _ _ (agrees_step hleft hs) hrest
          · exact ⟨hleft, .cons (.step hs) hrest⟩
        | call optional hpos hargs =>
          rw [takeOperators, takeOperators]
          split
          · exact ihOperators level _ _ _ _ (agrees_call hpos optional hleft hargs) hrest
          · exact ⟨hleft, .cons (.call optional hpos hargs) hrest⟩
        | between op hpos =>
          rw [takeOperators, takeOperators]
          split
          · obtain ⟨hright, hrest'⟩ := ihExpression op.rightLevel _ _ hrest
            exact ihOperators level _ _ _ _ (agrees_between hpos op hleft hright) hrest'
          · exact ⟨hleft, .cons (.between op hpos) hrest⟩
        | choice hpos hm =>
          rw [takeOperators, takeOperators]
          split
          · obtain ⟨hright, hrest'⟩ := ihExpression InfixOp.choice.rightLevel _ _ hrest
            exact ihOperators level _ _ _ _ (agrees_choice hpos hleft hm hright) hrest'
          · exact ⟨hleft, .cons (.choice hpos hm) hrest⟩

theorem agrees_toTree (h : List.Forall₂ (Alike g) ps qs) :
    Agrees (Node.moved g) (toTree ps) (toTree qs) := by
  rw [toTree, toTree, h.length_eq]
  exact ((takenAlike _).1 0 ps qs h).1

end Piece

/-! ## Tokens -/

namespace Token

variable {α β : Type} {f f' : Cursor → α} {g : Position → Position} {t u : Token}
  {ts us : List Token} {limit depth limit' depth' : Nat}

theorem rule_eq_of_shape_eq (h : t.shape f = u.shape f') : t.rule = u.rule := by
  obtain ⟨r, k, len, inner⟩ := t
  obtain ⟨r', k', len', inner'⟩ := u
  unfold shape at h
  split at h <;> split at h <;> simp only [Shape.word.injEq, Shape.around.injEq, reduceCtorEq] at h
  all_goals exact h.1

theorem mark_eq_of_shape_eq (h : t.shape f = u.shape f') : f t.start = f' u.start := by
  obtain ⟨r, k, len, inner⟩ := t
  obtain ⟨r', k', len', inner'⟩ := u
  unfold shape at h
  split at h <;> split at h <;> simp only [Shape.word.injEq, Shape.around.injEq, reduceCtorEq] at h
  all_goals exact h.2.1

/-- Words of one shape say the same. -/
theorem word_of_shape_eq (h : t.shape f = u.shape f') (hword : t.rule.isWord = true) :
    t.chars = u.chars ∧ t.inner.map label = u.inner.map label := by
  have hrule := rule_eq_of_shape_eq h
  obtain ⟨r, k, len, inner⟩ := t
  obtain ⟨r', k', len', inner'⟩ := u
  obtain rfl : r = r' := hrule
  simp only [rule] at hword
  simp only [shape, hword, if_true, Shape.word.injEq] at h
  exact ⟨h.2.2.1, h.2.2.2⟩

/-- Other tokens of one shape hold tokens of the same shapes. -/
theorem inner_of_shape_eq (h : t.shape f = u.shape f') (hword : t.rule.isWord = false) :
    shapes f t.inner = shapes f' u.inner := by
  have hrule := rule_eq_of_shape_eq h
  obtain ⟨r, k, len, ts⟩ := t
  obtain ⟨r', k', len', us⟩ := u
  obtain rfl : r = r' := hrule
  simp only [rule] at hword
  simp only [shape, hword, Bool.false_eq_true, if_false, Shape.around.injEq] at h
  exact h.2.2

mutual

/-- What is marked alike may be marked with less. -/
theorem shape_comp_eq (F : α → β) (t u : Token) (h : t.shape f = u.shape f') :
    t.shape (F ∘ f) = u.shape (F ∘ f') := by
  have hrule := rule_eq_of_shape_eq h
  have hmark := mark_eq_of_shape_eq h
  match t, u with
  | mk r k len ts, mk r' k' len' us =>
    obtain rfl : r = r' := hrule
    have hmark' : F (f k) = F (f' k') := congrArg F hmark
    cases hword : r.isWord with
    | true =>
      obtain ⟨hchars, hinner⟩ := word_of_shape_eq h hword
      simp only [shape, hword, if_true, Function.comp_apply, hmark', hchars]
      rw [show ts.map label = us.map label from hinner]
    | false =>
      have hshapes : shapes f ts = shapes f' us := inner_of_shape_eq h hword
      simp only [shape, hword, Bool.false_eq_true, if_false, Function.comp_apply, hmark',
        shapes_comp_eq F ts us hshapes]

theorem shapes_comp_eq (F : α → β) (ts us : List Token) (h : shapes f ts = shapes f' us) :
    shapes (F ∘ f) ts = shapes (F ∘ f') us := by
  match ts, us with
  | [], [] => rfl
  | t :: ts, u :: us =>
    simp only [shapes, List.cons.injEq] at h
    rw [shapes, shapes, shape_comp_eq F t u h.1, shapes_comp_eq F ts us h.2]

end

theorem levels_eq_of_shapes_eq (h : shapes f ts = shapes f' us) : levels ts = levels us := by
  have hcount : ts.countP addsLevel = us.countP addsLevel := by
    induction ts generalizing us with
    | nil =>
      cases us with
      | nil => rfl
      | cons u us => cases h
    | cons t ts ih =>
      cases us with
      | nil => cases h
      | cons u us =>
        simp only [shapes, List.cons.injEq] at h
        have hrule := rule_eq_of_shape_eq h.1
        have hadds : t.addsLevel = u.addsLevel := by rw [addsLevel, addsLevel, hrule]
        rw [List.countP_cons, List.countP_cons, ih h.2, hadds]
  rw [levels, levels, hcount]

/-! ### Words -/

theorem firstChars_eq (h : ts.map label = us.map label) : firstChars ts = firstChars us := by
  cases ts with
  | nil =>
    cases us with
    | nil => rfl
    | cons u us => cases h
  | cons t ts =>
    cases us with
    | nil => cases h
    | cons u us =>
      simp only [List.map_cons, List.cons.injEq, label, Prod.mk.injEq] at h
      exact h.1.2

theorem magnitude_eq (h : t.label = u.label) : t.magnitude = u.magnitude := by
  simp only [label, Prod.mk.injEq] at h
  rw [magnitude, magnitude, h.1, h.2]

/-- The node of a word depends on where the word stands by its place alone. -/
theorem agrees_word (h : t.shape (fun k => g k.position) = u.shape fun k => g k.position)
    (hword : t.rule.isWord = true) (limit depth limit' depth' : Nat) :
    Agrees (Node.moved g) (t.build limit depth) (u.build limit' depth') := by
  obtain ⟨hchars, hinner⟩ := word_of_shape_eq h hword
  have hrule := rule_eq_of_shape_eq h
  have hmark := mark_eq_of_shape_eq h
  obtain ⟨r, k, len, ts⟩ := t
  obtain ⟨r', k', len', us⟩ := u
  obtain rfl : r = r' := hrule
  have hpos : g k.position = g k'.position := hmark
  have htext : (Token.mk r k len ts).text = (Token.mk r k' len' us).text := by
    rw [text, text, hchars]
  simp only [inner] at hinner
  cases r with
  | number =>
    rw [build, build, numberNode, numberNode]
    simp only [inner]
    cases ts with
    | nil => exact .error
    | cons t ts =>
      cases us with
      | nil => cases hinner
      | cons u us =>
        simp only [List.map_cons, List.cons.injEq] at hinner
        exact .ok (by simp only [Node.moved, position, start, hpos, hchars, magnitude_eq hinner.1])
  | string =>
    rw [build, build, stringNode, stringNode]
    simp only [inner, firstChars_eq hinner]
    split
    · exact .ok (by simp only [Node.moved, position, start, hpos])
    · exact .error
  | templateText =>
    rw [build, build, templateTextNode, templateTextNode, hchars]
    split
    · exact .ok (by simp only [Node.moved, position, start, hpos])
    · exact .error
  | regexp =>
    rw [build, build, regexpNode, regexpNode]
    simp only [inner]
    cases ts with
    | nil => exact .error
    | cons t ts =>
      cases us with
      | nil => cases hinner
      | cons u us =>
        simp only [List.map_cons, List.cons.injEq, label, Prod.mk.injEq] at hinner
        simp only [hinner.1.2, firstChars_eq hinner.2]
        split
        · exact .ok (by simp only [Node.moved, position, start, hpos])
        · exact .error
  | literal =>
    rw [build, build, literalNode, literalNode, htext]
    split
    · exact .ok (by simp only [Node.moved, position, start, hpos])
    · exact .error
  | «variable» | identifier | name =>
    rw [build, build, htext]
    exact .ok (by rw [Node.moved, Node.moved, hpos])
  | _ => cases hword

/-! ### Tokens around tokens -/

/-- Tokens that stand for the same nodes, one by one, and make up the same pieces. -/
def BuiltAlike (g : Position → Position) (ts us : List Token) : Prop :=
  ∀ ⦃limit depth limit' depth' : Nat⦄, limit + depth' ≤ limit' + depth →
    Agrees (Node.movedAll g) (buildAll limit depth ts) (buildAll limit' depth' us) ∧
    (∀ p q, Agrees (Node.moved g) (buildFirst limit depth p ts) (buildFirst limit' depth' q us)) ∧
    List.Forall₂ (Piece.Alike g) (pieces limit depth ts) (pieces limit' depth' us)

theorem agrees_around {r : Rule} {k k' : Cursor} {len len' : Nat} (hword : r.isWord = false)
    (hpos : g k.position = g k'.position) (hlevels : levels ts = levels us) (h : BuiltAlike g ts us)
    (hroom : limit + depth' ≤ limit' + depth) :
    Agrees (Node.moved g) ((Token.mk r k len ts).build limit depth)
      ((Token.mk r k' len' us).build limit' depth') := by
  obtain ⟨hall, hfirst, -⟩ := h hroom
  cases r with
  | program | grouped | computedKey | templateHole =>
    rw [build, build]
    exact hfirst _ _
  | statements =>
    rw [build, build]
    refine hall.bind fun ns ms hns => ?_
    split
    · next n =>
      obtain ⟨m, rfl, hm⟩ := Node.exists_singleton hns
      exact .ok hm
    · next hmany =>
      split
      · next m =>
        obtain ⟨n, rfl, -⟩ := Node.exists_singleton hns.symm
        exact absurd rfl (hmany n)
      · exact .ok (by rw [Node.moved, Node.moved, hpos, hns])
  | assignment | objectItem =>
    rw [build, build]
    refine hall.bind fun ns ms hns => ?_
    split
    · obtain ⟨m, m', rfl, hm, hm'⟩ := Node.exists_pair hns
      exact .ok (by rw [Node.moved, Node.moved, hpos, hm, hm'])
    · exact .error
  | array | object | template =>
    rw [build, build]
    exact hall.bind fun ns ms hns => .ok (by rw [Node.moved, Node.moved, hpos, hns])
  | expression =>
    rw [build, build, hlevels]
    split
    · exact .error
    · next hlimit =>
      have hroom' : limit + (depth' + levels us) ≤ limit' + (depth + levels us) := by omega
      rw [if_neg (by omega)]
      exact Piece.agrees_toTree (h hroom').2.2
  | number | string | regexp | templateText | literal | «variable» | identifier | name =>
    cases hword
  | _ => exact Parsed.Agrees.error

/-- The pieces of two tokens. -/
theorem alike_pieces_singleton (hrule : t.rule = u.rule) (hpos : g t.position = g u.position)
    (hbuild : Agrees (Node.moved g) (t.build limit depth) (u.build limit' depth'))
    (hinner : t.rule.isWord = false → BuiltAlike g t.inner u.inner)
    (hroom : limit + depth' ≤ limit' + depth) :
    List.Forall₂ (Piece.Alike g) (pieces limit depth [t]) (pieces limit' depth' [u]) := by
  obtain ⟨r, k, len, ts⟩ := t
  obtain ⟨r', k', len', us⟩ := u
  obtain rfl : r = r' := hrule
  rw [pieces, pieces, pieces, pieces]
  refine .cons ?_ .nil
  cases r with
  | unary op => exact .unary op hpos.symm
  | between op =>
    cases op with
    | choice => exact .choice hpos.symm ((hinner rfl hroom).2.1 _ _)
    | _ => exact .between _ hpos.symm
  | field optional | index optional =>
    refine .step (((hinner rfl hroom).2.1 _ _).map fun a b hab => ?_)
    rw [Node.movedStep, Node.movedStep, hpos, hab]
  | call optional => exact .call optional hpos.symm (hinner rfl hroom).1
  | _ => exact .operand hbuild

mutual

theorem agrees_token (t u : Token)
    (h : t.shape (fun k => g k.position) = u.shape fun k => g k.position) :
    (∀ ⦃limit depth limit' depth'⦄, limit + depth' ≤ limit' + depth →
      Agrees (Node.moved g) (t.build limit depth) (u.build limit' depth')) ∧
    (t.rule.isWord = false → BuiltAlike g t.inner u.inner) := by
  have hrule := rule_eq_of_shape_eq h
  have hmark := mark_eq_of_shape_eq h
  match t, u with
  | mk r k len ts, mk r' k' len' us =>
    obtain rfl : r = r' := hrule
    cases hword : r.isWord with
    | true =>
      refine ⟨fun limit depth limit' depth' _ => agrees_word h hword _ _ _ _, fun hnot => ?_⟩
      cases hword.symm.trans hnot
    | false =>
      have hshapes : shapes (fun k => g k.position) ts = shapes (fun k => g k.position) us :=
        inner_of_shape_eq h hword
      have hinner := builtAlike_tokens ts us hshapes
      exact ⟨fun _ _ _ _ hroom =>
        agrees_around hword hmark (levels_eq_of_shapes_eq hshapes) hinner hroom, fun _ => hinner⟩

theorem builtAlike_tokens (ts us : List Token)
    (h : shapes (fun k => g k.position) ts = shapes (fun k => g k.position) us) :
    BuiltAlike g ts us := by
  match ts, us with
  | [], [] =>
    intro limit depth limit' depth' _
    rw [buildAll, buildAll, pieces, pieces]
    refine ⟨.ok rfl, fun p q => ?_, .nil⟩
    rw [buildFirst]
    exact .error
  | t :: ts, u :: us =>
    simp only [shapes, List.cons.injEq] at h
    obtain ⟨hbuild, hinner⟩ := agrees_token t u h.1
    have hrest := builtAlike_tokens ts us h.2
    intro limit depth limit' depth' hroom
    obtain ⟨hall, -, hpieces⟩ := hrest hroom
    refine ⟨?_, fun p q => ?_, ?_⟩
    · rw [buildAll, buildAll]
      refine (hbuild hroom).bind fun a b hab => hall.bind fun as bs habs => .ok ?_
      rw [Node.movedAll, Node.movedAll, hab, habs]
    · rw [buildFirst, buildFirst]
      exact hbuild hroom
    · have hfirst := alike_pieces_singleton (rule_eq_of_shape_eq h.1) (mark_eq_of_shape_eq h.1)
        (hbuild hroom) hinner hroom
      rw [← List.singleton_append, ← List.singleton_append (l := us), pieces_append, pieces_append]
      exact List.rel_append hfirst hpieces

end

/-- Tokens of one shape stand for one tree. -/
theorem agrees_build (h : t.shape (fun k => g k.position) = u.shape fun k => g k.position)
    (hroom : limit + depth' ≤ limit' + depth) :
    Agrees (Node.moved g) (t.build limit depth) (u.build limit' depth') :=
  (agrees_token t u h).1 hroom

end Token

end ExprLang
