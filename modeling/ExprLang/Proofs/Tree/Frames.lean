import ExprLang.Proofs.Grammar.Takes
import ExprLang.Proofs.Tree.Alike

/-!
# ExprLang.Proofs.Tree.Frames

The places that an expression can take in a larger text, and the trees that come of it.

`Frame` lists them, each with the text around the expression, which stands on lines of its own, and
with the tree around the tree of the expression.  In all but one of them the expression is one token.
The last operand of a conditional is no token of its own: its pieces are the last ones of the whole
expression, so that there the levels of the operators have to be followed (`Piece.toTree_choice`).
-/

namespace ExprLang

/-! ## Frames -/

/-- Where an expression can stand. -/
inductive Frame
  /-- `x = …` -/
  | assigned (x : PlainName)
  /-- `(…)` -/
  | grouped
  /-- `[…]` -/
  | element
  /-- `f(…)` -/
  | argument (f : PlainName)
  /-- `x[…]` -/
  | index (x : PlainName)
  /-- The value of a key `k` in an object. -/
  | value (k : Name)
  /-- A hole of a template. -/
  | hole
  /-- `c ? … : d` -/
  | middle (c d : PlainName)
  /-- `c ? d : …` -/
  | last (c d : PlainName)

namespace Frame

/-- The line before the expression. -/
def before : Frame → List Char
  | assigned x => x.chars ++ [' ', '=']
  | grouped => ['(']
  | element => ['[']
  | argument f => f.chars ++ ['(']
  | index x => x.chars ++ ['[']
  | value k => '\x7b' :: (k.chars ++ [':'])
  | hole => ['\x60', '$', '\x7b']
  | middle c _ => c.chars ++ [' ', '?']
  | last c d => c.chars ++ ' ' :: '?' :: ' ' :: (d.chars ++ [' ', ':'])

/-- The line after the expression. -/
def after : Frame → List Char
  | grouped | argument _ => [')']
  | element | index _ => [']']
  | value _ => ['\x7d']
  | hole => ['\x7d', '\x60']
  | middle _ d => ':' :: ' ' :: d.chars
  | assigned _ | last .. => []

/-- The text with an expression in the frame, on lines of its own. -/
def fill (s : Frame) (e : String) : String :=
  String.ofList (s.before ++ '\n' :: (e.toList ++ '\n' :: s.after))

/-- The tree with the tree of an expression in the frame. -/
def node : Frame → Node → Node
  | assigned x, n => .assignment .first (.identifier .first (String.ofList x.chars)) n
  | grouped, n => n
  | element, n => .array .first [n]
  | argument f, n => .call .first (.var .first (String.ofList f.chars)) [n] false
  | index x, n => .select .first (.var .first (String.ofList x.chars)) [⟨n, false, .first⟩]
  | value k, n => .object .first [.item .first (.identifier .first (String.ofList k.chars)) n]
  | hole, n => .template .first [n]
  | middle c d, n =>
    .choice .first (.var .first (String.ofList c.chars)) n (.var .first (String.ofList d.chars))
  | last c d, n =>
    .choice .first (.var .first (String.ofList c.chars)) (.var .first (String.ofList d.chars)) n

/-- Whether the sign before the hole goes on with the first character of the expression, although
the expression begins on a line of its own: the grammar takes the two for `=~`, or for `?.`. -/
def clashes (s : Frame) (e : List Char) : Bool :=
  match s with
  | assigned _ => (pastBlanks e).head? == some '~'
  | middle .. => (pastBlanks e).head? == some '.'
  | _ => false

end Frame

/-! ## Pieces that end with a conditional -/

theorem InfixOp.ten_le_level (op : InfixOp) : 10 ≤ op.level := by
  cases op with
  | fallback | choice => decide
  | logical op | bitwise op | relational op | arithmetic op => cases op <;> decide

namespace Piece

/-- Levels that are the same or both below every operator. -/
def SameReach (l l' : Nat) : Prop := l = l' ∨ l < 10 ∧ l' < 10

theorem SameReach.lt_iff {l l' : Nat} (h : SameReach l l') {level : Nat} (hlevel : 10 ≤ level) :
    l < level ↔ l' < level := by
  unfold SameReach at h
  omega

/-- Grouping needs no more fuel than there are pieces, and levels below every operator are alike. -/
theorem taken_eq (fuel fuel' : Nat) {ps : List Piece} (hfuel : ps.length ≤ fuel)
    (hfuel' : ps.length ≤ fuel') {l l' : Nat} (hl : SameReach l l') :
    takeExpression fuel l ps = takeExpression fuel' l' ps ∧
      ∀ left, takeOperators fuel l left ps = takeOperators fuel' l' left ps := by
  induction fuel generalizing fuel' ps l l' with
  | zero =>
    obtain rfl : ps = [] := List.eq_nil_of_length_eq_zero (Nat.le_zero.mp hfuel)
    cases fuel' with
    | zero => exact ⟨rfl, fun _ => rfl⟩
    | succ fuel' => exact ⟨rfl, fun _ => rfl⟩
  | succ fuel ih =>
    cases ps with
    | nil =>
      cases fuel' with
      | zero => exact ⟨rfl, fun _ => rfl⟩
      | succ fuel' => exact ⟨rfl, fun _ => rfl⟩
    | cons p rest =>
      obtain ⟨fuel', rfl⟩ : ∃ f, fuel' = f + 1 :=
        ⟨fuel' - 1, by rw [List.length_cons] at hfuel'; omega⟩
      rw [List.length_cons] at hfuel hfuel'
      have hrest : ∀ {l l' : Nat}, SameReach l l' → takeExpression fuel l rest =
          takeExpression fuel' l' rest ∧
          ∀ left, takeOperators fuel l left rest = takeOperators fuel' l' left rest :=
        ih fuel' (by omega) (by omega)
      -- what is left behind an operand is not more than there was
      have hright : ∀ (level : Nat) (left : Parsed Node → Parsed Node),
          takeOperators fuel l (left (takeExpression fuel level rest).1)
            (takeExpression fuel level rest).2 =
          takeOperators fuel' l' (left (takeExpression fuel' level rest).1)
            (takeExpression fuel' level rest).2 := by
        intro level left
        rw [(hrest (.inl rfl : SameReach level level)).1]
        have hlength := ((takesOff fuel').1 level rest).length_le
        exact (ih fuel' (by omega) (by omega) hl).2 _
      constructor
      · cases p with
        | operand n => exact (hrest hl).2 n
        | unary pos op => exact hright (UnaryOp.level - 1) fun n => n.map (.unary pos op)
        | _ => rfl
      · intro left
        cases p with
        | operand n => rfl
        | unary pos op => rfl
        | step s =>
          have hlevel : l < InfixOp.stepLevel ↔ l' < InfixOp.stepLevel := hl.lt_iff (by decide)
          simp only [takeOperators, hlevel, (hrest hl).2]
        | call pos args optional =>
          have hlevel : l < InfixOp.stepLevel ↔ l' < InfixOp.stepLevel := hl.lt_iff (by decide)
          simp only [takeOperators, hlevel, (hrest hl).2]
        | between pos op =>
          simp only [takeOperators, hl.lt_iff op.ten_le_level]
          split
          · exact hright op.rightLevel fun right => do
              return joinOperands pos op (← left) (← right)
          · rfl
        | choice pos middle =>
          simp only [takeOperators, hl.lt_iff InfixOp.choice.ten_le_level]
          split
          · exact hright InfixOp.choice.rightLevel fun right => do
              let left ← left
              let right ← right
              return .choice pos left (← middle) right
          · rfl

/-- What is left does not bind tighter than the level, given fuel for all pieces. -/
theorem headLevel_taken (fuel : Nat) {ps : List Piece} (hfuel : ps.length ≤ fuel) (level : Nat) :
    (∀ n, (takeExpression fuel level ps).1 = .ok n →
      headLevel (takeExpression fuel level ps).2 ≤ level) ∧
    ∀ left, headLevel (takeOperators fuel level left ps).2 ≤ level := by
  induction fuel generalizing ps level with
  | zero =>
    obtain rfl : ps = [] := List.eq_nil_of_length_eq_zero (Nat.le_zero.mp hfuel)
    exact ⟨fun _ h => (by cases h), fun _ => Nat.zero_le _⟩
  | succ fuel ih =>
    cases ps with
    | nil => exact ⟨fun _ h => (by cases h), fun _ => Nat.zero_le _⟩
    | cons p rest =>
      rw [List.length_cons] at hfuel
      have hrest := @ih rest (by omega) level
      have hright : ∀ level' left, headLevel (takeOperators fuel level left
          (takeExpression fuel level' rest).2).2 ≤ level := by
        intro level' left
        have hlength := ((takesOff fuel).1 level' rest).length_le
        exact (ih (by omega) level).2 left
      constructor
      · intro n hn
        cases p with
        | operand n => exact hrest.2 n
        | unary pos op => exact hright _ _
        | _ => cases hn
      · intro left
        cases p with
        | operand n => exact Nat.zero_le _
        | unary pos op => exact Nat.zero_le _
        | step s | call pos args optional =>
          rw [takeOperators]
          split
          · exact hrest.2 _
          · next hlevel => exact Nat.le_of_not_lt hlevel
        | between pos op | choice pos middle =>
          rw [takeOperators]
          split
          · exact hright _ _
          · next hlevel => exact Nat.le_of_not_lt hlevel

/-- A conditional whose last operand is all that follows. -/
theorem toTree_choice {a m n : Node} {ps : List Piece} (pos : Position) (h : toTree ps = .ok n) :
    toTree (.operand (.ok a) :: .choice pos (.ok m) :: ps) = .ok (.choice pos a m n) := by
  have hfuel : 2 * (Piece.operand (.ok a) :: .choice pos (.ok m) :: ps).length + 2 =
      2 * ps.length + 4 + 1 + 1 := by
    simp only [List.length_cons]
    omega
  have hreach : SameReach InfixOp.choice.rightLevel 0 := .inr (by decide)
  have htaken : (takeExpression (2 * ps.length + 4) 0 ps).1 = .ok n := by
    rw [(taken_eq (2 * ps.length + 4) (2 * ps.length + 2) (by omega) (by omega) (.inl rfl)).1]
    exact h
  have hhead := (@headLevel_taken (2 * ps.length + 4) ps (by omega) 0).1 n htaken
  rw [toTree, hfuel, takeExpression, takeOperators, if_pos (by decide),
    (taken_eq (2 * ps.length + 4) (2 * ps.length + 4) (by omega) (by omega) hreach).1]
  simp only [takeOperators_of_le hhead, htaken]
  rfl

end Piece

/-! ## Tokens in frames -/

namespace Token

variable {t u v w : Token} {ts us : List Token} {a b n : Node} {k : Cursor} {len : Nat}

/-- The token is a piece that holds a tree, if the limit is large enough. -/
def Gives (t : Token) (F : Node → Piece) (n : Node) : Prop :=
  ∃ d, ∀ limit depth, depth + d ≤ limit →
    ∃ n', pieces limit depth [t] = [F n'] ∧ n'.unplaced = n

/-- The tokens are the pieces of a tree, if the limit is large enough. -/
def Forms (ts : List Token) (n : Node) : Prop :=
  ∃ d, ∀ limit depth, depth + d ≤ limit →
    ∃ n', Piece.toTree (pieces limit depth ts) = .ok n' ∧ n'.unplaced = n

theorem Means.gives (h : t.Means n) : t.Gives (fun n => .operand (.ok n)) n := by
  obtain ⟨hoperand, d, hd⟩ := h
  refine ⟨d, fun limit depth hlimit => ?_⟩
  obtain ⟨n', hbuild, hn'⟩ := hd limit depth hlimit
  exact ⟨n', by rw [pieces_of_isOperand hoperand, hbuild], hn'⟩

theorem Means.gives_choice (hr : t.rule = .between .choice) (ht : t.inner = [u]) (hu : u.Means n) :
    t.Gives (fun n => .choice t.position (.ok n)) n := by
  obtain ⟨d, hd⟩ := hu.buildInnerFirst ht
  refine ⟨d, fun limit depth hlimit => ?_⟩
  obtain ⟨n', hbuild, hn'⟩ := hd limit depth hlimit
  refine ⟨n', ?_, hn'⟩
  rw [pieces, pieces]
  simp only [hr, hbuild]

theorem Means.gives_index {optional : Bool} (hr : t.rule = .index optional) (ht : t.inner = [u])
    (hu : u.Means n) : t.Gives (fun n => .step (.ok ⟨n, optional, t.position⟩)) n := by
  obtain ⟨d, hd⟩ := hu.buildInnerFirst ht
  refine ⟨d, fun limit depth hlimit => ?_⟩
  obtain ⟨n', hbuild, hn'⟩ := hd limit depth hlimit
  refine ⟨n', ?_, hn'⟩
  rw [pieces, pieces]
  simp only [hr, hbuild]
  rfl

theorem Means.gives_call {optional : Bool} (hr : t.rule = .call optional) (ht : t.inner = [u])
    (hu : u.Means n) : t.Gives (fun n => .call t.position (.ok [n]) optional) n := by
  have hinner : List.Forall₂ (fun (n : Node) u => Means u (id n)) [n] t.inner := by
    rw [ht]
    exact .cons hu .nil
  obtain ⟨d, hd⟩ := buildInner_of_means hinner
  refine ⟨d, fun limit depth hlimit => ?_⟩
  obtain ⟨ns, hbuild, hns⟩ := hd limit depth hlimit
  rw [← Node.movedAll_first, Node.movedAll_eq_map, List.map_singleton,
    List.map_eq_singleton_iff] at hns
  obtain ⟨n', rfl, hn'⟩ := hns
  rw [Node.moved_first] at hn'
  refine ⟨n', ?_, hn'⟩
  rw [pieces, pieces]
  simp only [hr, hbuild]

/-- An operand alone. -/
theorem Forms.operand (h : t.Means n) : Forms [t] n := by
  obtain ⟨d, hd⟩ := h.gives
  refine ⟨d, fun limit depth hlimit => ?_⟩
  obtain ⟨n', hpieces, hn'⟩ := hd limit depth hlimit
  exact ⟨n', by rw [hpieces]; rfl, hn'⟩

/-- An operand and one more piece. -/
theorem Forms.pair {F G : Node → Piece} {f : Node → Node → Node} (ht : t.Gives F a)
    (hu : u.Gives G b) (htree : ∀ a b, Piece.toTree [F a, G b] = .ok (f a b))
    (hf : ∀ a' b', a'.unplaced = a → b'.unplaced = b → (f a' b').unplaced = n) :
    Forms [t, u] n := by
  obtain ⟨d, hd⟩ := ht
  obtain ⟨e, he⟩ := hu
  refine ⟨max d e, fun limit depth hlimit => ?_⟩
  obtain ⟨a', ha, ha'⟩ := hd limit depth (by omega)
  obtain ⟨b', hb, hb'⟩ := he limit depth (by omega)
  refine ⟨f a' b', ?_, hf a' b' ha' hb'⟩
  rw [← List.singleton_append, pieces_append, ha, hb]
  exact htree a' b'

theorem Forms.call {optional : Bool} (hf : t.Means a) (hr : u.rule = .call optional)
    (hu : u.inner = [v]) (hv : v.Means b) : Forms [t, u] (.call .first a [b] optional) := by
  refine .pair (f := fun a b => .call u.position a [b] optional) hf.gives (hv.gives_call hr hu)
    (fun _ _ => rfl) fun a' b' ha hb => ?_
  rw [Node.unplaced, ha, Node.unplacedAll, Node.unplacedAll, hb]

theorem Forms.index {optional : Bool} {p : Position} {x : String} (hx : t.Means (.var p x))
    (hr : u.rule = .index optional) (hu : u.inner = [v]) (hv : v.Means b) :
    Forms [t, u] (.select .first (.var p x) [⟨b, optional, .first⟩]) := by
  refine .pair (f := fun a b => Piece.addStep a ⟨b, optional, u.position⟩) hx.gives
    (hv.gives_index hr hu) (fun _ _ => rfl) fun a' b' ha hb => ?_
  rw [Piece.unplaced_addStep, ha, hb]
  rfl

/-- A conditional, the pieces of its last operand being the last pieces of the whole. -/
theorem Forms.choice (hc : t.Means a) (hr : u.rule = .between .choice) (hu : u.inner = [v])
    (hv : v.Means b) (hlast : Forms ts n) : Forms (t :: u :: ts) (.choice .first a b n) := by
  obtain ⟨d, hd⟩ := hc.gives
  obtain ⟨e, he⟩ := hv.gives_choice hr hu
  obtain ⟨f, hf⟩ := hlast
  refine ⟨max d (max e f), fun limit depth hlimit => ?_⟩
  obtain ⟨a', ha, ha'⟩ := hd limit depth (by omega)
  obtain ⟨b', hb, hb'⟩ := he limit depth (by omega)
  obtain ⟨n', hn, hn'⟩ := hf limit depth (by omega)
  refine ⟨.choice u.position a' b' n', ?_, by rw [Node.unplaced, ha', hb', hn']⟩
  rw [← List.singleton_append, ← List.singleton_append (l := ts), pieces_append, pieces_append, ha,
    hb]
  exact Piece.toTree_choice u.position hn

/-- The token of an expression. -/
theorem Forms.means (h : Forms ts n) : (mk .expression k len ts).Means n := by
  obtain ⟨d, hd⟩ := h
  refine ⟨rfl, levels ts + d, fun limit depth hlimit => ?_⟩
  obtain ⟨n', htree, hn'⟩ := hd limit (depth + levels ts) (by omega)
  refine ⟨n', ?_, hn'⟩
  rw [build, if_neg (by omega), htree]

/-! Brackets, and the nodes that hold what is in brackets. -/

theorem Means.templateHole (hr : t.rule = .templateHole) (ht : t.inner = [u]) (hu : u.Means n) :
    t.Means n := by
  obtain ⟨rule, start, length, inner⟩ := t
  obtain ⟨-, d, hd⟩ := hu
  obtain rfl : rule = .templateHole := hr
  obtain rfl : inner = [u] := ht
  refine ⟨rfl, d, fun limit depth hlimit => ?_⟩
  obtain ⟨n', hbuild, hn'⟩ := hd limit depth hlimit
  exact ⟨n', by rw [build, buildFirst, hbuild], hn'⟩

/-- Arrays, objects and templates of one part. -/
theorem Means.holding {r : Rule} {f : Position → List Node → Node} (hr : t.rule = r)
    (hbuild : ∀ k len ts limit depth, (mk r k len ts).build limit depth =
      buildAll limit depth ts >>= fun ns => pure (f k.position ns)) (hoperand : t.isOperand = true)
    (hf : ∀ p ns, (f p ns).unplaced = f .first (Node.unplacedAll ns)) (ht : t.inner = [u])
    (hu : u.Means n) : t.Means (f .first [n]) := by
  obtain ⟨rule, start, length, inner⟩ := t
  obtain rfl : rule = r := hr
  obtain rfl : inner = [u] := ht
  obtain ⟨-, d, hd⟩ := hu
  refine ⟨hoperand, d, fun limit depth hlimit => ?_⟩
  obtain ⟨n', hn, hn'⟩ := hd limit depth hlimit
  refine ⟨f start.position [n'], ?_, by rw [hf, Node.unplacedAll, Node.unplacedAll, hn']⟩
  rw [hbuild, buildAll, hn, buildAll]
  rfl

theorem Means.array_one (hr : t.rule = .array) (ht : t.inner = [u]) (hu : u.Means n) :
    t.Means (.array .first [n]) :=
  .holding hr (fun _ _ _ _ _ => by rw [build]) (by rw [isOperand, hr])
    (fun _ _ => by rw [Node.unplaced]) ht hu

theorem Means.object_one (hr : t.rule = .object) (ht : t.inner = [u]) (hu : u.Means n) :
    t.Means (.object .first [n]) :=
  .holding hr (fun _ _ _ _ _ => by rw [build]) (by rw [isOperand, hr])
    (fun _ _ => by rw [Node.unplaced]) ht hu

theorem Means.template_one (hr : t.rule = .template) (ht : t.inner = [u]) (hu : u.Means n) :
    t.Means (.template .first [n]) :=
  .holding hr (fun _ _ _ _ _ => by rw [build]) (by rw [isOperand, hr])
    (fun _ _ => by rw [Node.unplaced]) ht hu

/-- An assignment. -/
theorem Means.assignment (hr : t.rule = .assignment) (ht : t.inner = [u, v]) (hu : u.Means a)
    (hv : v.Means b) : t.Means (.assignment .first a b) := by
  obtain ⟨rule, start, length, inner⟩ := t
  obtain rfl : rule = .assignment := hr
  obtain rfl : inner = [u, v] := ht
  obtain ⟨-, d, hd⟩ := hu
  obtain ⟨-, e, he⟩ := hv
  refine ⟨rfl, max d e, fun limit depth hlimit => ?_⟩
  obtain ⟨a', ha, ha'⟩ := hd limit depth (by omega)
  obtain ⟨b', hb, hb'⟩ := he limit depth (by omega)
  refine ⟨.assignment start.position a' b', ?_, by rw [Node.unplaced, ha', hb']⟩
  rw [build, buildAll, ha, buildAll, hb, buildAll]
  rfl

end Token

end ExprLang
