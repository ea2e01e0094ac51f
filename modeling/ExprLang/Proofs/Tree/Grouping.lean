import ExprLang.Proofs.Tree.Parens

/-!
# ExprLang.Proofs.Tree.Grouping

How a flat run of operators and operands is grouped.  `Spells` says of some pieces that they are a
phrase written out flat, and `Spells.toTree` that the levels of the operators give its tree back, if
the phrase is grouped.

Two levels decide how far `Piece.takeExpression` goes.  It must go over the whole phrase, so that the
phrase has to bind tighter than the level given; and it must stop there, so that what follows has to
bind no tighter than the phrase's last operator, wherever that one is nested (`Phrase.edge`).

Whatever the levels are, what is taken off the front is made of the pieces that are gone, put
together in one of seven ways (`Piece.Groups`, `Piece.takesOff`).  What has to hold of every tree that
is grouped follows by induction on these.
-/

namespace ExprLang

/-! ## Flat phrases -/

/-- The pieces are the phrase written out flat, with the trees of what is nested in it. -/
inductive Spells : Phrase → List Piece → Prop
  | operand {p : Phrase} {n : Node} : n.unplaced = p.node → Spells p [.operand (.ok n)]
  | unary {x : Phrase} {ps : List Piece} (pos : Position) (op : UnaryOp) : Spells x ps →
      Spells (.unary op x) (.unary pos op :: ps)
  | between {l r : Phrase} {ps qs : List Piece} (pos : Position) (op : Operator) : Spells l ps →
      Spells r qs → Spells (.between op l r) (ps ++ .between pos op.1 :: qs)
  | choice {c m r : Phrase} {ps qs : List Piece} {n : Node} (pos : Position) : Spells c ps →
      n.unplaced = m.node → Spells r qs →
      Spells (.choice c m r) (ps ++ .choice pos (.ok n) :: qs)
  | field {b : Phrase} {ps : List Piece} {w : Name} {n : Node} (pos : Position) (optional : Bool) :
      Spells b ps → n.unplaced = .identifier .first (String.ofList w.chars) →
      Spells (.field b optional w) (ps ++ [.step (.ok ⟨n, optional, pos⟩)])
  | index {b k : Phrase} {ps : List Piece} {n : Node} (pos : Position) (optional : Bool) :
      Spells b ps → n.unplaced = k.node →
      Spells (.index b optional k) (ps ++ [.step (.ok ⟨n, optional, pos⟩)])
  | call {f : Phrase} {ps : List Piece} {args : List Phrase} {ns : List Node} (pos : Position)
      (optional : Bool) : Spells f ps → Node.unplacedAll ns = Phrase.nodes args →
      Spells (.call f optional args) (ps ++ [.call pos (.ok ns) optional])

namespace Piece

/-- How tightly the first of some pieces binds to what is before it. -/
def headLevel : List Piece → Nat
  | .step _ :: _ | .call .. :: _ => InfixOp.stepLevel
  | .between _ op :: _ => op.level
  | .choice .. :: _ => InfixOp.choice.level
  | _ => 0

/-- Nothing is taken that does not bind tighter than the level. -/
theorem takeOperators_of_le {fuel level : Nat} {left : Parsed Node} {ps : List Piece}
    (h : headLevel ps ≤ level) : takeOperators fuel level left ps = (left, ps) := by
  cases fuel with
  | zero => rw [takeOperators]
  | succ fuel =>
    unfold takeOperators
    split
    all_goals
      simp only [headLevel] at h
      first | rfl | rw [if_neg (by omega)]

end Piece

/-! ## The last operator of a phrase -/

/-- How tightly what follows a phrase may bind without being drawn into it. -/
def Phrase.edge : Phrase → Nat
  | .unary _ x => min (UnaryOp.level - 1) x.edge
  | .between op _ r => min op.1.rightLevel r.edge
  | .choice _ _ r => min InfixOp.choice.rightLevel r.edge
  | .atom _ | .paren _ | .array _ | .object _ | .field .. | .index .. | .call .. => InfixOp.stepLevel

namespace InfixOp

theorem level_pos (op : InfixOp) : 0 < op.level := by
  cases op with
  | fallback | choice => decide
  | logical op | bitwise op | relational op | arithmetic op => cases op <;> decide

theorem level_le_succ_rightLevel (op : InfixOp) : op.level ≤ op.rightLevel + 1 := by
  unfold rightLevel
  split <;> omega

theorem level_le_succ_leftLevel (op : InfixOp) : op.level ≤ op.leftLevel + 1 := by
  unfold leftLevel
  split <;> omega

/-- Only powers bind tighter than the unary operators. -/
theorem level_cases (op : InfixOp) : op = .arithmetic .pow ∨ op.level < UnaryOp.level := by
  cases op with
  | fallback | choice => decide
  | logical op | bitwise op | relational op | arithmetic op => cases op <;> decide

/-- Operators of one level group from the same side. -/
theorem rightAssociative_eq_of_level_eq {op op' : InfixOp} (h : op.level = op'.level) :
    op.rightAssociative = op'.rightAssociative := by
  have hiff : ∀ op : InfixOp, op.rightAssociative = (op.level == 10 || op.level == 120) := by
    intro op
    cases op with
    | fallback | choice => decide
    | logical op | bitwise op | relational op | arithmetic op => cases op <;> decide
  rw [hiff, hiff, h]

end InfixOp

namespace Phrase

theorem edge_of_stepLevel_le {p : Phrase} (h : InfixOp.stepLevel ≤ p.level) :
    p.edge = InfixOp.stepLevel := by
  cases p with
  | unary op x => exact absurd h (by decide : ¬ InfixOp.stepLevel ≤ UnaryOp.level)
  | between op l r => exact absurd h (Nat.not_le.mpr op.1.level_lt)
  | choice c m r => exact absurd h (by decide : ¬ InfixOp.stepLevel ≤ InfixOp.choice.level)
  | _ => rfl

theorem level_le_pow_or (p : Phrase) :
    p.level ≤ InfixOp.level (.arithmetic .pow) ∨ InfixOp.stepLevel ≤ p.level := by
  cases p with
  | unary op x => exact .inl (by decide : UnaryOp.level ≤ _)
  | choice c m r => exact .inl (by decide : InfixOp.choice.level ≤ _)
  | between op l r =>
    left
    rcases op.1.level_cases with h | h
    · exact Nat.le_of_eq (congrArg InfixOp.level h)
    · exact Nat.le_trans (Nat.le_of_lt h) (by decide)
  | _ => exact .inr (Nat.le_refl _)

theorem lt_level_of_lt_rightOperandLevel {p : Phrase} {e : Nat} (hunary : e < UnaryOp.level)
    (h : e < p.rightOperandLevel) : e < p.level := by
  cases p with
  | unary op x => exact hunary
  | _ => exact h

/-- What follows may bind less tightly than the phrase, up to the unary operators: these draw in
whatever binds tighter than themselves. -/
theorem le_edge (p : Phrase) {e : Nat} (hp : p.Grouped) (he : e < p.level)
    (hunary : e < UnaryOp.level) : e ≤ p.edge := by
  cases p with
  | unary op x =>
    rw [Grouped] at hp
    have hx := le_edge x hp.1 (Nat.lt_of_lt_of_le hunary hp.2) hunary
    rw [edge]
    omega
  | between op l r =>
    rw [Grouped] at hp
    obtain ⟨-, hgrouped, -, hlt⟩ := hp
    have hle : e ≤ op.1.rightLevel := by
      have := op.1.level_le_succ_rightLevel
      rw [level] at he
      omega
    have hr := lt_level_of_lt_rightOperandLevel hunary (Nat.lt_of_le_of_lt hle hlt)
    have hedge := le_edge r hgrouped hr hunary
    rw [edge]
    omega
  | choice c m r =>
    rw [Grouped] at hp
    obtain ⟨-, -, hgrouped, -, hlt⟩ := hp
    have hle : e ≤ InfixOp.choice.rightLevel := by
      have := InfixOp.choice.level_le_succ_rightLevel
      rw [level] at he
      omega
    have hr := lt_level_of_lt_rightOperandLevel hunary (Nat.lt_of_le_of_lt hle hlt)
    have hedge := le_edge r hgrouped hr hunary
    rw [edge]
    omega
  | _ =>
    rw [edge]
    exact Nat.le_of_lt (Nat.lt_trans hunary (by decide))

/-- An operator that groups from the left is not drawn into an operand of its own level. -/
theorem level_le_edge_of_level_eq {op : InfixOp} {l : Phrase} (hl : l.Grouped)
    (heq : l.level = op.level) (hassoc : op.rightAssociative = false)
    (hunary : op.level < UnaryOp.level) : op.level ≤ l.edge := by
  cases l with
  | unary _ x =>
    rw [level] at heq
    omega
  | choice c m r =>
    rw [level] at heq
    rw [← InfixOp.rightAssociative_eq_of_level_eq heq] at hassoc
    exact absurd hassoc (by decide)
  | between op' l' r =>
    rw [level] at heq
    rw [← InfixOp.rightAssociative_eq_of_level_eq heq] at hassoc
    have hright : op'.1.rightLevel = op.level := by
      rw [InfixOp.rightLevel, if_neg (by simp [hassoc]), heq]
    rw [Grouped, hright] at hl
    obtain ⟨-, hgrouped, -, hlt⟩ := hl
    have hedge := le_edge r hgrouped (lt_level_of_lt_rightOperandLevel hunary hlt) hunary
    rw [edge, hright]
    omega
  | _ =>
    rw [edge]
    exact Nat.le_of_lt op.level_lt

/-- An operator is not drawn into its left operand. -/
theorem level_le_edge_of_left {op : InfixOp} {l : Phrase} (hl : l.Grouped)
    (h : op.leftLevel < l.level) : op.level ≤ l.edge := by
  rcases op.level_cases with rfl | hunary
  · have hstep : InfixOp.stepLevel ≤ l.level :=
      l.level_le_pow_or.resolve_left (Nat.not_le.mpr h)
    rw [edge_of_stepLevel_le hstep]
    exact Nat.le_of_lt (InfixOp.level_lt _)
  · rcases Nat.lt_or_ge op.level l.level with hlt | hge
    · exact le_edge l hl hlt hunary
    · unfold InfixOp.leftLevel at h
      split at h
      · omega
      · next hassoc => exact level_le_edge_of_level_eq hl (by omega) (by simpa using hassoc) hunary

end Phrase

/-! ## Trees up to places -/

theorem Node.unplacedSteps_append (ss ts : List (Step Node)) :
    unplacedSteps (ss ++ ts) = unplacedSteps ss ++ unplacedSteps ts := by
  induction ss with
  | nil => rfl
  | cons s ss ih => rw [List.cons_append, unplacedSteps, unplacedSteps, ih, List.cons_append]

namespace Piece

theorem unplaced_addStep (n key : Node) (optional : Bool) (pos : Position) :
    (addStep n ⟨key, optional, pos⟩).unplaced = n.unplaced.selecting key.unplaced optional := by
  cases n with
  | select p base steps =>
    simp only [addStep, Node.unplaced, Node.unplacedSteps_append, Node.unplacedSteps,
      Node.unplacedStep, Node.selecting]
  | _ =>
    simp only [addStep, Node.unplaced, Node.unplacedSteps, Node.unplacedStep, Node.selecting]

theorem unplaced_joinOperands (pos : Position) (op : Operator) (l r : Node) :
    (joinOperands pos op.1 l r).unplaced = op.node l.unplaced r.unplaced := by
  obtain ⟨op, hop⟩ := op
  cases op with
  | choice => exact absurd rfl hop
  | _ => simp only [joinOperands, Node.unplaced, Operator.node]

end Piece

/-! ## Grouping -/

/-- From the pieces of a phrase, with enough fuel, its tree is taken as the operand that is then
continued by what binds tighter than the level, if the phrase binds tighter than the level itself
and what follows is not drawn into it. -/
def Takes (p : Phrase) (ps : List Piece) (n : Node) : Prop :=
  ∀ fuel level rest, 2 * ps.length ≤ fuel → level < p.rightOperandLevel →
    Piece.headLevel rest ≤ p.edge →
    ∃ fuel', fuel ≤ fuel' + ps.length ∧
      Piece.takeExpression fuel level (ps ++ rest) = Piece.takeOperators fuel' level (.ok n) rest

namespace Takes

variable {p : Phrase} {ps qs : List Piece} {n m : Node}

theorem operand (p : Phrase) (n : Node) : Takes p [.operand (.ok n)] n := by
  intro fuel level rest hfuel hlevel hedge
  obtain ⟨fuel, rfl⟩ : ∃ f, fuel = f + 1 := ⟨fuel - 1, by simp at hfuel; omega⟩
  exact ⟨fuel, by simp, rfl⟩

theorem unary {x : Phrase} (hx : Takes x ps n) (hlevel : UnaryOp.level ≤ x.level) (pos : Position)
    (op : UnaryOp) : Takes (.unary op x) (.unary pos op :: ps) (.unary pos op n) := by
  intro fuel level rest hfuel _ hedge
  rw [Phrase.edge] at hedge
  rw [List.length_cons] at hfuel
  obtain ⟨fuel, rfl⟩ : ∃ f, fuel = f + 1 := ⟨fuel - 1, by omega⟩
  have hlt : UnaryOp.level - 1 < x.rightOperandLevel :=
    Nat.lt_of_lt_of_le (Nat.lt_of_lt_of_le (by decide) hlevel) x.level_le_rightOperandLevel
  obtain ⟨fuel', -, hx⟩ := hx fuel (UnaryOp.level - 1) rest (by omega) hlt (by omega)
  refine ⟨fuel, by rw [List.length_cons]; omega, ?_⟩
  rw [List.cons_append, Piece.takeExpression, hx, Piece.takeOperators_of_le (by omega)]
  rfl

/-- A step after a base: it continues the base, as would all that follows. -/
theorem step {b : Phrase} (hb : Takes b ps n) (hlevel : InfixOp.stepLevel ≤ b.level)
    (hp : p.rightOperandLevel = InfixOp.stepLevel) {q : Piece}
    (hq : Piece.headLevel [q] = InfixOp.stepLevel)
    (htake : ∀ fuel level rest, level < InfixOp.stepLevel →
      Piece.takeOperators (fuel + 1) level (.ok n) (q :: rest) =
        Piece.takeOperators fuel level (.ok m) rest) :
    Takes p (ps ++ [q]) m := by
  intro fuel level rest hfuel hlt _
  rw [List.length_append, List.length_singleton] at hfuel
  rw [hp] at hlt
  have hb_lt : level < b.rightOperandLevel :=
    Nat.lt_of_lt_of_le hlt (Nat.le_trans hlevel b.level_le_rightOperandLevel)
  have hhead : Piece.headLevel (q :: rest) ≤ b.edge := by
    rw [Phrase.edge_of_stepLevel_le hlevel, ← hq]
    cases q <;> exact Nat.le_refl _
  obtain ⟨fuel₁, hfuel₁, hb⟩ := hb fuel level (q :: rest) (by omega) hb_lt hhead
  obtain ⟨fuel', rfl⟩ : ∃ f, fuel₁ = f + 1 := ⟨fuel₁ - 1, by omega⟩
  refine ⟨fuel', by rw [List.length_append, List.length_singleton]; omega, ?_⟩
  rw [List.append_assoc, List.singleton_append, hb, htake _ _ _ hlt]

/-- An operator between two operands, the conditional included. -/
theorem operator {l r : Phrase} {op : InfixOp} (hl : Takes l ps n) (hr : Takes r qs m)
    (hgrouped : l.Grouped) (hleft : op.leftLevel < l.level)
    (hright : op.rightLevel < r.rightOperandLevel) (hp : p.rightOperandLevel = op.level)
    (hedge : p.edge = min op.rightLevel r.edge) {q : Piece} (hq : Piece.headLevel [q] = op.level)
    {joined : Node}
    (htake : ∀ fuel level rest, level < op.level →
      Piece.takeExpression fuel op.rightLevel (qs ++ rest) = (.ok m, rest) →
      Piece.takeOperators (fuel + 1) level (.ok n) (q :: (qs ++ rest)) =
        Piece.takeOperators fuel level (.ok joined) rest) :
    Takes p (ps ++ q :: qs) joined := by
  intro fuel level rest hfuel hlt hrest
  rw [List.length_append, List.length_cons] at hfuel
  rw [hp] at hlt
  rw [hedge] at hrest
  have hl_lt : level < l.rightOperandLevel := by
    have := l.level_le_rightOperandLevel
    have := op.level_le_succ_leftLevel
    omega
  have hhead : Piece.headLevel (q :: (qs ++ rest)) ≤ l.edge := by
    have hedge := Phrase.level_le_edge_of_left hgrouped hleft
    rw [← hq] at hedge
    cases q <;> exact hedge
  obtain ⟨fuel₁, hfuel₁, hl⟩ := hl fuel level (q :: (qs ++ rest)) (by omega) hl_lt hhead
  obtain ⟨fuel', rfl⟩ : ∃ f, fuel₁ = f + 1 := ⟨fuel₁ - 1, by omega⟩
  obtain ⟨fuel₂, -, hr⟩ := hr fuel' op.rightLevel rest (by omega) hright (by omega)
  rw [Piece.takeOperators_of_le (by omega)] at hr
  refine ⟨fuel', by rw [List.length_append, List.length_cons]; omega, ?_⟩
  rw [List.append_assoc, List.cons_append, hl, htake _ _ _ hlt hr]

end Takes

theorem Spells.takes {p : Phrase} {ps : List Piece} (h : Spells p ps) (hp : p.Grouped) :
    ∃ n, n.unplaced = p.node ∧ Takes p ps n := by
  induction h with
  | operand hn => exact ⟨_, hn, .operand _ _⟩
  | unary pos op _ ih =>
    rw [Phrase.Grouped] at hp
    obtain ⟨n, hn, hx⟩ := ih hp.1
    refine ⟨_, ?_, hx.unary hp.2 pos op⟩
    rw [Node.unplaced, hn, Phrase.node]
  | @between l r ps qs pos op _ _ ihl ihr =>
    rw [Phrase.Grouped] at hp
    obtain ⟨hgl, hgr, hleft, hright⟩ := hp
    obtain ⟨n, hn, hl⟩ := ihl hgl
    obtain ⟨m, hm, hr⟩ := ihr hgr
    refine ⟨Piece.joinOperands pos op.1 n m, ?_,
      hl.operator hr hgl hleft hright rfl (by rw [Phrase.edge]) rfl ?_⟩
    · rw [Piece.unplaced_joinOperands, hn, hm, Phrase.node]
    · intro fuel level rest hlt hright
      simp only [Piece.takeOperators, if_pos hlt, hright]
      rfl
  | @choice c m r ps qs mid pos _ hmid _ ihc ihr =>
    rw [Phrase.Grouped] at hp
    obtain ⟨hgc, -, hgr, hleft, hright⟩ := hp
    obtain ⟨n, hn, hc⟩ := ihc hgc
    obtain ⟨n', hn', hr⟩ := ihr hgr
    refine ⟨.choice pos n mid n', ?_,
      hc.operator hr hgc hleft hright rfl (by rw [Phrase.edge]) rfl ?_⟩
    · rw [Node.unplaced, hn, hmid, hn', Phrase.node]
    · intro fuel level rest hlt hright
      simp only [Piece.takeOperators, if_pos hlt, hright]
      rfl
  | @field b ps w key pos optional _ hk ih =>
    rw [Phrase.Grouped] at hp
    obtain ⟨n, hn, hb⟩ := ih hp.1
    refine ⟨Piece.addStep n ⟨key, optional, pos⟩, ?_, hb.step hp.2 rfl rfl ?_⟩
    · rw [Piece.unplaced_addStep, hn, hk, Phrase.node]
    · intro fuel level rest hlt
      simp only [Piece.takeOperators, if_pos hlt]
      rfl
  | @index b k ps key pos optional _ hk ih =>
    rw [Phrase.Grouped] at hp
    obtain ⟨n, hn, hb⟩ := ih hp.1
    refine ⟨Piece.addStep n ⟨key, optional, pos⟩, ?_, hb.step hp.2.2 rfl rfl ?_⟩
    · rw [Piece.unplaced_addStep, hn, hk, Phrase.node]
    · intro fuel level rest hlt
      simp only [Piece.takeOperators, if_pos hlt]
      rfl
  | @call f ps args ns pos optional _ hargs ih =>
    rw [Phrase.Grouped] at hp
    obtain ⟨n, hn, hf⟩ := ih hp.1
    refine ⟨.call pos n ns optional, ?_, hf.step hp.2.2 rfl rfl ?_⟩
    · rw [Node.unplaced, hn, hargs, Phrase.node]
    · intro fuel level rest hlt
      simp only [Piece.takeOperators, if_pos hlt]
      rfl

theorem Phrase.rightOperandLevel_pos (p : Phrase) : 0 < p.rightOperandLevel := by
  cases p with
  | between op l r => exact op.1.level_pos
  | choice c m r => exact InfixOp.level_pos .choice
  | _ => exact (by decide : 0 < InfixOp.stepLevel)

/-- The levels of the operators give the tree of a grouped phrase back. -/
theorem Spells.toTree {p : Phrase} {ps : List Piece} (h : Spells p ps) (hp : p.Grouped) :
    ∃ n, Piece.toTree ps = .ok n ∧ n.unplaced = p.node := by
  obtain ⟨n, hn, htakes⟩ := h.takes hp
  obtain ⟨fuel, -, htake⟩ := htakes (2 * ps.length + 2) 0 [] (by omega) p.rightOperandLevel_pos
    (Nat.zero_le _)
  refine ⟨n, ?_, hn⟩
  rw [List.append_nil, Piece.takeOperators_of_le (Nat.le_refl 0)] at htake
  rw [Piece.toTree, htake]

/-! ## What grouping makes of pieces -/

namespace Piece

/-- What can be made of some pieces that stand in a row: an operand is made of itself, and the other
pieces are put around operands.  Of no pieces there is nothing but a fault. -/
inductive Groups : List Piece → Parsed Node → Prop
  | malformed : Groups [] (.error ⟨.malformed, .first⟩)
  | operand (n : Parsed Node) : Groups [.operand n] n
  | unary {ps : List Piece} {n : Parsed Node} (pos : Position) (op : UnaryOp) : Groups ps n →
      Groups (.unary pos op :: ps) (n.map (.unary pos op))
  | step {ps : List Piece} {left : Parsed Node} (s : Parsed (Step Node)) : Groups ps left →
      Groups (ps ++ [.step s]) (do return addStep (← left) (← s))
  | call {ps : List Piece} {left : Parsed Node} (pos : Position) (args : Parsed (List Node))
      (optional : Bool) : Groups ps left →
      Groups (ps ++ [.call pos args optional]) (do return .call pos (← left) (← args) optional)
  | between {ps qs : List Piece} {left right : Parsed Node} (pos : Position) (op : InfixOp) :
      Groups ps left → Groups qs right →
      Groups (ps ++ .between pos op :: qs) (do return joinOperands pos op (← left) (← right))
  | choice {ps qs : List Piece} {left right : Parsed Node} (pos : Position) (middle : Parsed Node) :
      Groups ps left → Groups qs right →
      Groups (ps ++ .choice pos middle :: qs) (do
        let left ← left
        let right ← right
        return .choice pos left (← middle) right)

/-- Pieces were taken off the front, and the result is made of those that had been taken before and
of these. -/
def TakesOff (done ps : List Piece) (r : Parsed Node × List Piece) : Prop :=
  ∃ used, ps = used ++ r.2 ∧ Groups (done ++ used) r.1

namespace TakesOff

variable {done front ps : List Piece} {r : Parsed Node × List Piece} {left : Parsed Node}

theorem nothing (hleft : Groups done left) : TakesOff done ps (left, ps) :=
  ⟨[], rfl, by rwa [List.append_nil]⟩

/-- What had been taken was in front. -/
theorem behind (h : TakesOff (done ++ front) ps r) : TakesOff done (front ++ ps) r := by
  obtain ⟨used, rfl, hgroups⟩ := h
  exact ⟨front ++ used, (List.append_assoc ..).symm, by rwa [← List.append_assoc]⟩

theorem length_le (h : TakesOff done ps r) : r.2.length ≤ ps.length := by
  obtain ⟨used, rfl, -⟩ := h
  exact (List.suffix_append used r.2).length_le

end TakesOff

/-- What is taken off the front is made of what was there, whichever fuel and levels grouping runs
with. -/
theorem takesOff (fuel : Nat) :
    (∀ level ps, TakesOff [] ps (takeExpression fuel level ps)) ∧
      ∀ level done left ps, Groups done left →
        TakesOff done ps (takeOperators fuel level left ps) := by
  induction fuel with
  | zero => exact ⟨fun _ _ => .nothing .malformed, fun _ _ _ _ hleft => .nothing hleft⟩
  | succ fuel ih =>
    obtain ⟨ihExpression, ihOperators⟩ := ih
    -- an operand on the right, and then what continues the two
    have hright : ∀ {p level level' done rest} (f : Parsed Node → Parsed Node),
        (∀ used right, Groups used right → Groups (done ++ p :: used) (f right)) →
        TakesOff done (p :: rest) (takeOperators fuel level (f (takeExpression fuel level' rest).1)
          (takeExpression fuel level' rest).2) := by
      intro p level level' done rest f hf
      obtain ⟨used, hused, hgroups⟩ := ihExpression level' rest
      have htakes :=
        (ihOperators level _ _ (takeExpression fuel level' rest).2 (hf used _ hgroups)).behind
      rwa [List.cons_append, ← hused] at htakes
    constructor
    · intro level ps
      cases ps with
      | nil => exact .nothing .malformed
      | cons p rest =>
        cases p with
        | operand n => exact (ihOperators level ([] ++ [.operand n]) n rest (.operand n)).behind
        | unary pos op =>
          exact hright (Except.map (Node.unary pos op)) fun _ _ hgroups => .unary pos op hgroups
        | _ => exact .nothing .malformed
    · intro level done left ps hleft
      cases ps with
      | nil => exact .nothing hleft
      | cons p rest =>
        cases p with
        | operand n => exact .nothing hleft
        | unary pos op => exact .nothing hleft
        | step s =>
          rw [takeOperators]
          split
          · exact (ihOperators level _ _ rest (.step s hleft)).behind
          · exact .nothing hleft
        | call pos args optional =>
          rw [takeOperators]
          split
          · exact (ihOperators level _ _ rest (.call pos args optional hleft)).behind
          · exact .nothing hleft
        | between pos op =>
          rw [takeOperators]
          split
          · exact hright (fun right => do return joinOperands pos op (← left) (← right))
              fun _ _ hright => .between pos op hleft hright
          · exact .nothing hleft
        | choice pos middle =>
          rw [takeOperators]
          split
          · exact hright (fun right => do
                let left ← left
                let right ← right
                return .choice pos left (← middle) right)
              fun _ _ hright => .choice pos middle hleft hright
          · exact .nothing hleft

/-- The tree of an expression is made of its first pieces. -/
theorem exists_groups_toTree (ps : List Piece) : ∃ used, used <+: ps ∧ Groups used (toTree ps) := by
  obtain ⟨used, hused, hgroups⟩ := (takesOff (2 * ps.length + 2)).1 0 ps
  exact ⟨used, ⟨_, hused.symm⟩, hgroups⟩

end Piece

end ExprLang
