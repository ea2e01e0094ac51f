import ExprLang.Grammar.Token

/-!
# ExprLang.Proofs.Grammar.Shapes

What of a token a tree can show: its rule, the characters of a word, and the tokens inside.  A shape
also keeps a mark of the place where the token begins, so that tokens of two readings can be compared
with as much of their places as is wanted (`Token.shape`).

Tokens of two texts are alike if one is where the other would be, were what is ahead of it changed
(`Token.Alike`).
-/

namespace ExprLang

/-- The rules of words: a tree shows their characters, or those of the tokens inside. -/
def Rule.isWord : Rule → Bool
  | .number | .string | .regexp | .templateText | .literal | .variable | .identifier | .name => true
  | _ => false

namespace Token

variable {α β : Type}

/-- What a token says by itself. -/
def label (t : Token) : Rule × List Char := (t.rule, t.chars)

/-- What a token says, and a mark of the place where it begins: a word says its characters and the
tokens inside, and any other token what is inside. -/
inductive Shape (α : Type)
  | word (rule : Rule) (mark : α) (chars : List Char) (inner : List (Rule × List Char))
  | around (rule : Rule) (mark : α) (inner : List (Shape α))

mutual

/-- The shape of a token, with places marked by `f`. -/
def shape (f : Cursor → α) : Token → Shape α
  | mk r k len inner =>
    if r.isWord then .word r (f k) (mk r k len inner).chars (inner.map label)
    else .around r (f k) (shapes f inner)

/-- The shape of each token. -/
def shapes (f : Cursor → α) : List Token → List (Shape α)
  | [] => []
  | t :: ts => t.shape f :: shapes f ts

end

theorem shapes_eq_map (f : Cursor → α) (ts : List Token) : shapes f ts = ts.map (shape f) := by
  induction ts with
  | nil => rw [shapes, List.map_nil]
  | cons t ts ih => rw [shapes, ih, List.map_cons]

theorem shapes_reverse_eq {f g : Cursor → α} {ts us : List Token} (h : shapes f ts = shapes g us) :
    shapes f ts.reverse = shapes g us.reverse := by
  rw [shapes_eq_map, shapes_eq_map] at h ⊢
  rw [List.map_reverse, List.map_reverse, h]

/-- Tokens of one shape each, were what is ahead of the first ones changed by `f`.  Where the flag is
set, they also have the same characters. -/
structure Alike (f : List Char → List Char) (exact : Bool) (ts us : List Token) : Prop where
  shapes : shapes (fun k => f k.rest) ts = shapes Cursor.rest us
  labels : exact = true → ts.map label = us.map label

namespace Alike

variable {f : List Char → List Char} {e e' : Bool} {ts us ts' us' : List Token}

theorem nil : Alike f e [] [] := ⟨rfl, fun _ => rfl⟩

theorem append (h : Alike f e ts us) (h' : Alike f e ts' us') :
    Alike f e (ts' ++ ts) (us' ++ us) := by
  refine ⟨?_, fun he => ?_⟩
  · rw [shapes_eq_map, shapes_eq_map, List.map_append, List.map_append, ← shapes_eq_map,
      ← shapes_eq_map, ← shapes_eq_map, ← shapes_eq_map, h.shapes, h'.shapes]
  · rw [List.map_append, List.map_append, h.labels he, h'.labels he]

theorem shapes_reverse (h : Alike f e ts us) :
    Token.shapes (fun k => f k.rest) ts.reverse = Token.shapes Cursor.rest us.reverse :=
  shapes_reverse_eq h.shapes

/-- Tokens with the same characters are alike in any case. -/
theorem of_exact (h : Alike f true ts us) : Alike f e ts us := ⟨h.shapes, fun _ => h.labels rfl⟩

/-- A token of the same characters around tokens of the same characters. -/
theorem token {r : Rule} {k₁ k₂ : Cursor} {len₁ len₂ : Nat} (hk : k₂.rest = f k₁.rest)
    (hchars : (Token.mk r k₁ len₁ ts.reverse).chars = (Token.mk r k₂ len₂ us.reverse).chars)
    (h : Alike f true ts us) :
    Alike f e [.mk r k₁ len₁ ts.reverse] [.mk r k₂ len₂ us.reverse] := by
  refine ⟨?_, fun _ => ?_⟩
  · simp only [Token.shapes, shape, hk, hchars, h.shapes_reverse, List.map_reverse, h.labels rfl]
  · simp only [List.map_cons, List.map_nil, label, rule, hchars]

/-- A token around tokens of the same shapes, if it is no word. -/
theorem around {r : Rule} {k₁ k₂ : Cursor} {len₁ len₂ : Nat} (hr : r.isWord = false)
    (hk : k₂.rest = f k₁.rest) (h : Alike f e ts us) :
    Alike f false [.mk r k₁ len₁ ts.reverse] [.mk r k₂ len₂ us.reverse] := by
  refine ⟨?_, nofun⟩
  simp only [Token.shapes, shape, hr, Bool.false_eq_true, if_false, hk, h.shapes_reverse]

end Alike

end Token

end ExprLang
