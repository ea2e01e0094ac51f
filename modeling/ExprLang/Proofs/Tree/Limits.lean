import Mathlib.Data.List.Forall2
import ExprLang.Proofs.Source.Pass
import ExprLang.Tree.Parse

/-!
# ExprLang.Proofs.Tree.Limits

What a higher limit of nesting changes.

The limit is asked for twice: by the pass over the text, and for each expression as it is built.  A
part of an expression that is too deep becomes a fault among others, and which fault is reported is
decided by where the faulty parts stand, not by what is wrong with them.  So a higher limit can only
turn a fault of depth into something else (`Deepens`), through grouping and through each token.
-/

namespace ExprLang

/-! ## Results -/

theorem exists_ok_of_isOk {ε α : Type} {x : Except ε α} (h : x.isOk = true) : ∃ a, x = .ok a := by
  cases x with
  | ok a => exact ⟨a, rfl⟩
  | error e => cases h

theorem exists_error_of_isOk {ε α : Type} {x : Except ε α} (h : x.isOk = false) :
    ∃ e, x = .error e := by
  cases x with
  | ok a => cases h
  | error e => exact ⟨e, rfl⟩

/-! ## Results at two limits -/

namespace Parsed

variable {α β : Type}

/-- Something is too deep for the limit. -/
def TooDeep (x : Parsed α) : Prop := ∃ limit pos, x = .error ⟨.tooDeep limit, pos⟩

instance (x : Parsed α) : Decidable x.TooDeep :=
  match x with
  | .ok _ => .isFalse fun ⟨_, _, h⟩ => nomatch h
  | .error ⟨.tooDeep limit, pos⟩ => .isTrue ⟨limit, pos, rfl⟩
  | .error ⟨.unexpected _, _⟩ | .error ⟨.stringEscape _, _⟩ | .error ⟨.templateEscape _, _⟩
  | .error ⟨.regexp _, _⟩ | .error ⟨.malformed, _⟩ => .isFalse fun ⟨_, _, h⟩ => nomatch h

/-- With more room, nothing changes but a fault of depth. -/
def Deepens (x y : Parsed α) : Prop := x.TooDeep ∨ y = x

namespace Deepens

variable {x y : Parsed α}

theorem refl (x : Parsed α) : Deepens x x := .inr rfl

theorem tooDeep (limit : Nat) (pos : Position) : Deepens (.error ⟨.tooDeep limit, pos⟩) y :=
  .inl ⟨limit, pos, rfl⟩

theorem eq (h : Deepens x y) (hx : ¬x.TooDeep) : y = x := h.resolve_left hx

theorem bind {F G : α → Parsed β} (h : Deepens x y) (hF : ∀ a, Deepens (F a) (G a)) :
    Deepens (x >>= F) (y >>= G) := by
  obtain ⟨limit, pos, rfl⟩ | rfl := h
  · exact tooDeep limit pos
  · cases y with
    | ok a => exact hF a
    | error e => exact refl _

theorem map (F : α → β) (h : Deepens x y) : Deepens (x.map F) (y.map F) := by
  obtain ⟨limit, pos, rfl⟩ | rfl := h
  · exact tooDeep limit pos
  · exact refl _

end Deepens

end Parsed

open Parsed (Deepens)

/-! ## Pieces -/

namespace Piece

/-- The same piece at the same place, with more room for what is inside. -/
inductive Roomier : Piece → Piece → Prop
  | operand {x y : Parsed Node} : Deepens x y → Roomier (.operand x) (.operand y)
  | unary (p : Position) (op : UnaryOp) : Roomier (.unary p op) (.unary p op)
  | step {x y : Parsed (Step Node)} : Deepens x y → Roomier (.step x) (.step y)
  | call {x y : Parsed (List Node)} (p : Position) (optional : Bool) : Deepens x y →
      Roomier (.call p x optional) (.call p y optional)
  | between (p : Position) (op : InfixOp) : Roomier (.between p op) (.between p op)
  | choice {x y : Parsed Node} (p : Position) : Deepens x y → Roomier (.choice p x) (.choice p y)

/-- What was taken off the front at the two limits, and what is left. -/
def TakenRoomier (r r' : Parsed Node × List Piece) : Prop :=
  Deepens r.1 r'.1 ∧ List.Forall₂ Roomier r.2 r'.2

variable {ps qs : List Piece}

/-- Grouping goes the same way at the two limits. -/
theorem takenRoomier (fuel : Nat) :
    (∀ level ps qs, List.Forall₂ Roomier ps qs →
      TakenRoomier (takeExpression fuel level ps) (takeExpression fuel level qs)) ∧
    ∀ level left left' ps qs, Deepens left left' → List.Forall₂ Roomier ps qs →
      TakenRoomier (takeOperators fuel level left ps) (takeOperators fuel level left' qs) := by
  induction fuel with
  | zero => exact ⟨fun _ _ _ h => ⟨.refl _, h⟩, fun _ _ _ _ _ hleft h => ⟨hleft, h⟩⟩
  | succ fuel ih =>
    obtain ⟨ihExpression, ihOperators⟩ := ih
    constructor
    · intro level ps qs h
      cases h with
      | nil => exact ⟨.refl _, .nil⟩
      | cons hp hrest =>
        cases hp with
        | operand hx => exact ihOperators level _ _ _ _ hx hrest
        | unary p op =>
          obtain ⟨hx, hrest'⟩ := ihExpression (UnaryOp.level - 1) _ _ hrest
          exact ihOperators level _ _ _ _ (hx.map _) hrest'
        | step hs => exact ⟨.refl _, .cons (.step hs) hrest⟩
        | call p optional hargs => exact ⟨.refl _, .cons (.call p optional hargs) hrest⟩
        | between p op => exact ⟨.refl _, .cons (.between p op) hrest⟩
        | choice p hm => exact ⟨.refl _, .cons (.choice p hm) hrest⟩
    · intro level left left' ps qs hleft h
      cases h with
      | nil => exact ⟨hleft, .nil⟩
      | cons hp hrest =>
        cases hp with
        | operand hx => exact ⟨hleft, .cons (.operand hx) hrest⟩
        | unary p op => exact ⟨hleft, .cons (.unary p op) hrest⟩
        | step hs =>
          rw [takeOperators, takeOperators]
          split
          · have hjoined := hleft.bind fun l => hs.bind fun s => Deepens.refl (pure (addStep l s))
            exact ihOperators level _ _ _ _ hjoined hrest
          · exact ⟨hleft, .cons (.step hs) hrest⟩
        | call p optional hargs =>
          rw [takeOperators, takeOperators]
          split
          · have hjoined := hleft.bind fun l =>
              hargs.bind fun as => Deepens.refl (pure (Node.call p l as optional))
            exact ihOperators level _ _ _ _ hjoined hrest
          · exact ⟨hleft, .cons (.call p optional hargs) hrest⟩
        | between p op =>
          rw [takeOperators, takeOperators]
          split
          · obtain ⟨hright, hrest'⟩ := ihExpression op.rightLevel _ _ hrest
            have hjoined := hleft.bind fun l =>
              hright.bind fun r => Deepens.refl (pure (joinOperands p op l r))
            exact ihOperators level _ _ _ _ hjoined hrest'
          · exact ⟨hleft, .cons (.between p op) hrest⟩
        | choice p hm =>
          rw [takeOperators, takeOperators]
          split
          · obtain ⟨hright, hrest'⟩ := ihExpression InfixOp.choice.rightLevel _ _ hrest
            -- The fault of the right operand is looked for before that of the middle.
            have hjoined := hleft.bind fun l => hright.bind fun r =>
              hm.bind fun m => Deepens.refl (pure (Node.choice p l m r))
            exact ihOperators level _ _ _ _ hjoined hrest'
          · exact ⟨hleft, .cons (.choice p hm) hrest⟩

theorem deepens_toTree (h : List.Forall₂ Roomier ps qs) : Deepens (toTree ps) (toTree qs) := by
  rw [toTree, toTree, h.length_eq]
  exact ((takenRoomier _).1 0 ps qs h).1

end Piece

/-! ## Tokens -/

namespace Token

variable {limit limit' depth : Nat}

/-- What is built from some tokens at the first limit is built at the second as well, unless
something is too deep. -/
def Roomier (limit limit' : Nat) (ts : List Token) : Prop :=
  ∀ depth, Deepens (buildAll limit depth ts) (buildAll limit' depth ts) ∧
    (∀ pos, Deepens (buildFirst limit depth pos ts) (buildFirst limit' depth pos ts)) ∧
    List.Forall₂ Piece.Roomier (pieces limit depth ts) (pieces limit' depth ts)

theorem deepens_around {r : Rule} {k : Cursor} {len : Nat} {ts : List Token}
    (hlimit : limit ≤ limit') (h : Roomier limit limit' ts) (depth : Nat) :
    Deepens ((mk r k len ts).build limit depth) ((mk r k len ts).build limit' depth) := by
  cases r with
  | program | grouped | computedKey | templateHole =>
    rw [build, build]
    exact (h depth).2.1 _
  | statements | assignment | objectItem | array | object | template =>
    rw [build, build]
    exact (h depth).1.bind fun ns => .refl _
  | expression =>
    rw [build, build]
    split
    · exact .tooDeep _ _
    · next hle =>
      rw [if_neg (by omega)]
      exact Piece.deepens_toTree (h _).2.2
  | _ =>
    simp only [build]
    exact .refl _

mutual

theorem deepens_build (hlimit : limit ≤ limit') (t : Token) (depth : Nat) :
    Deepens (t.build limit depth) (t.build limit' depth) :=
  match t with
  | mk _ _ _ ts => deepens_around hlimit (roomier hlimit ts) depth

theorem roomier (hlimit : limit ≤ limit') (ts : List Token) : Roomier limit limit' ts := by
  match ts with
  | [] =>
    intro depth
    rw [buildAll, buildAll, pieces, pieces]
    refine ⟨.refl _, fun pos => ?_, .nil⟩
    rw [buildFirst, buildFirst]
    exact .refl _
  | mk r k len inner :: ts =>
    intro depth
    have hbuild := deepens_build hlimit (mk r k len inner) depth
    have hinner := roomier hlimit inner depth
    have hrest := roomier hlimit ts depth
    rw [buildAll, buildAll, pieces, pieces]
    refine ⟨hbuild.bind fun n => hrest.1.bind fun ns => .refl _, fun pos => ?_, .cons ?_ hrest.2.2⟩
    · rw [buildFirst, buildFirst]
      exact hbuild
    · cases r with
      | unary op => exact .unary _ op
      | between op =>
        cases op with
        | choice => exact .choice _ (hinner.2.1 _)
        | _ => exact .between _ _
      | field optional | index optional => exact .step ((hinner.2.1 _).map _)
      | call optional => exact .call _ optional hinner.1
      | _ => exact .operand hbuild

end

end Token

/-! ## Texts -/

variable {limit limit' : Nat}

/-- What is not too deep for a limit is not too deep for a higher one. -/
theorem deepOpener?_mono {text : List Char} (hlimit : limit ≤ limit')
    (h : deepOpener? limit text = none) : deepOpener? limit' text = none := by
  rw [deepOpener?_eq_none_iff] at h ⊢
  exact h.trans hlimit

theorem deepens_parseWithin (hlimit : limit ≤ limit') (source : String) :
    Deepens (parseWithin limit source) (parseWithin limit' source) := by
  simp only [parseWithin]
  split
  · exact .tooDeep _ _
  · next hnone =>
    rw [deepOpener?_mono hlimit hnone]
    exact (Deepens.refl _).bind fun t => Token.deepens_build hlimit t 0

/-- Whatever a text is parsed as at a limit, tree or fault, it is parsed as at every higher one, unless
it is too deep for the limit.  So what is too deep is too deep at every lower limit, and the limits
that accept a text read the same tree. -/
theorem parseWithin_monotone (source : String) :
    (∀ limit limit', limit ≤ limit' → ¬(parseWithin limit source).TooDeep →
      parseWithin limit' source = parseWithin limit source) ∧
    (∀ limit limit', limit ≤ limit' → (parseWithin limit' source).TooDeep →
      (parseWithin limit source).TooDeep) ∧
    ∀ limit limit' n n', parseWithin limit source = .ok n → parseWithin limit' source = .ok n' →
      n = n' := by
  have hkept : ∀ limit limit', limit ≤ limit' → ¬(parseWithin limit source).TooDeep →
      parseWithin limit' source = parseWithin limit source :=
    fun limit limit' hlimit h => (deepens_parseWithin hlimit source).eq h
  have hok : ∀ limit limit' n n', limit ≤ limit' → parseWithin limit source = .ok n →
      parseWithin limit' source = .ok n' → n = n' := by
    intro limit limit' n n' hlimit h h'
    have hnot : ¬(parseWithin limit source).TooDeep := by
      rintro ⟨_, _, hdeep⟩
      cases h.symm.trans hdeep
    have := h.symm.trans ((hkept limit limit' hlimit hnot).symm.trans h')
    exact Except.ok.inj this
  refine ⟨hkept, fun limit limit' hlimit h => ?_, fun limit limit' n n' h h' => ?_⟩
  · by_contra hnot
    exact hnot (hkept limit limit' hlimit hnot ▸ h)
  · obtain hle | hle := Nat.le_total limit limit'
    · exact hok limit limit' n n' hle h h'
    · exact (hok limit' limit n' n hle h' h).symm

/-- With room for the signs on the left, the escape on the right comes to light. -/
theorem parseWithin_monotone_escape :
    (¬(parseWithin 5 "(!!1) + '\\q'").TooDeep ∧
      parseWithin 9 "(!!1) + '\\q'" = parseWithin 5 "(!!1) + '\\q'") ∧
    ((parseWithin 4 "(!!1) + '\\q'").TooDeep ∧ (parseWithin 3 "(!!1) + '\\q'").TooDeep) ∧
    ∃ n n', parseWithin 3 "[[1]]" = .ok n ∧ parseWithin 4 "[[1]]" = .ok n' ∧ n = n' := by
  have hescape : ¬(parseWithin 5 "(!!1) + '\\q'").TooDeep := by decide +kernel
  have hdeep : (parseWithin 4 "(!!1) + '\\q'").TooDeep := by decide +kernel
  have hthree : (parseWithin 3 "[[1]]").isOk = true := by decide +kernel
  have hfour : (parseWithin 4 "[[1]]").isOk = true := by decide +kernel
  obtain ⟨n, hn⟩ := exists_ok_of_isOk hthree
  obtain ⟨n', hn'⟩ := exists_ok_of_isOk hfour
  exact ⟨⟨hescape, (parseWithin_monotone _).1 5 9 (by decide) hescape⟩,
    ⟨hdeep, (parseWithin_monotone _).2.1 3 4 (by decide) hdeep⟩,
    n, n', hn, hn', (parseWithin_monotone _).2.2 3 4 n n' hn hn'⟩

end ExprLang
