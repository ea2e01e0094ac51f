import ExprLang.Proofs.Tree.Atoms
import ExprLang.Proofs.Tree.Grouping

/-!
# ExprLang.Proofs.Tree.Runs

From tokens to trees.  `Runs` says of the tokens of a flat expression that they are a phrase, if the
limit is large enough for what is nested in it: each rule for it adds the token of an operator or of
a step.  The token of an expression with such tokens inside then stands for the phrase's tree
(`Runs.means`), and so do the tokens of brackets around such expressions.
-/

namespace ExprLang

namespace Token

variable {t u v : Token} {ts us : List Token}

theorem pieces_append (limit depth : Nat) (ts us : List Token) :
    pieces limit depth (ts ++ us) = pieces limit depth ts ++ pieces limit depth us := by
  induction ts with
  | nil => rfl
  | cons t ts ih => rw [List.cons_append, pieces, pieces, ih, List.cons_append]

/-- The tree of the one token inside a token. -/
theorem Means.buildInnerFirst {n : Node} (hu : u.Means n) (ht : t.inner = [u]) :
    ∃ d, ∀ limit depth, depth + d ≤ limit →
      ∃ n', t.buildInnerFirst limit depth = .ok n' ∧ n'.unplaced = n := by
  obtain ⟨-, d, hd⟩ := hu
  refine ⟨d, fun limit depth hlimit => ?_⟩
  obtain ⟨n', hbuild, hn'⟩ := hd limit depth hlimit
  refine ⟨n', ?_, hn'⟩
  obtain ⟨rule, start, length, inner⟩ := t
  rw [Token.inner] at ht
  rw [Token.buildInnerFirst, ht, Token.buildFirst, hbuild]

/-- Tokens that stand for trees, one by one. -/
theorem buildAll_of_means {α : Type} {f : α → Node} {as : List α}
    (h : List.Forall₂ (fun a t => Means t (f a)) as ts) :
    ∃ d, ∀ limit depth, depth + d ≤ limit →
      ∃ ns, buildAll limit depth ts = .ok ns ∧ Node.unplacedAll ns = as.map f := by
  induction h with
  | nil => exact ⟨0, fun _ _ _ => ⟨[], by rw [buildAll], rfl⟩⟩
  | cons ht _ ih =>
    obtain ⟨-, d, hd⟩ := ht
    obtain ⟨d', hd'⟩ := ih
    refine ⟨max d d', fun limit depth hlimit => ?_⟩
    obtain ⟨n, hbuild, hn⟩ := hd limit depth (by omega)
    obtain ⟨ns, hbuilds, hns⟩ := hd' limit depth (by omega)
    refine ⟨n :: ns, ?_, ?_⟩
    · rw [buildAll, hbuild, hbuilds]
      rfl
    · rw [Node.unplacedAll, hn, hns, List.map_cons]

theorem buildInner_of_means {α : Type} {f : α → Node} {as : List α}
    (h : List.Forall₂ (fun a t => Means t (f a)) as t.inner) :
    ∃ d, ∀ limit depth, depth + d ≤ limit →
      ∃ ns, t.buildInner limit depth = .ok ns ∧ Node.unplacedAll ns = as.map f := by
  obtain ⟨rule, start, length, inner⟩ := t
  simp only [buildInner]
  exact buildAll_of_means h

namespace Means

variable {n m : Node}

/-- A bracket around an expression. -/
theorem bracket (hr : t.rule = .grouped ∨ t.rule = .computedKey) (ht : t.inner = [u])
    (hu : u.Means n) : t.Means n := by
  obtain ⟨rule, start, length, inner⟩ := t
  obtain ⟨-, d, hd⟩ := hu
  rw [Token.rule] at hr
  rw [Token.inner] at ht
  subst ht
  refine ⟨by rcases hr with rfl | rfl <;> rfl, d, fun limit depth hlimit => ?_⟩
  obtain ⟨n', hbuild, hn'⟩ := hd limit depth hlimit
  refine ⟨n', ?_, hn'⟩
  rcases hr with rfl | rfl
  all_goals rw [Token.build, Token.buildFirst, hbuild]

theorem array {ps : List Phrase} (hr : t.rule = .array)
    (h : List.Forall₂ (fun (p : Phrase) u => Means u p.node) ps t.inner) :
    t.Means (.array .first (Phrase.nodes ps)) := by
  obtain ⟨rule, start, length, inner⟩ := t
  rw [Token.rule] at hr
  subst hr
  obtain ⟨d, hd⟩ := buildAll_of_means h
  refine ⟨rfl, d, fun limit depth hlimit => ?_⟩
  obtain ⟨ns, hbuild, hns⟩ := hd limit depth hlimit
  refine ⟨.array start.position ns, ?_, ?_⟩
  · rw [Token.build]
    simp only [Token.inner] at hbuild
    rw [hbuild]
    rfl
  · rw [Node.unplaced, hns, Phrase.nodes_eq_map]

theorem object {is : List Item} (hr : t.rule = .object)
    (h : List.Forall₂ (fun (i : Item) u => Means u i.node) is t.inner) :
    t.Means (.object .first (Phrase.itemNodes is)) := by
  obtain ⟨rule, start, length, inner⟩ := t
  rw [Token.rule] at hr
  subst hr
  obtain ⟨d, hd⟩ := buildAll_of_means h
  refine ⟨rfl, d, fun limit depth hlimit => ?_⟩
  obtain ⟨ns, hbuild, hns⟩ := hd limit depth hlimit
  refine ⟨.object start.position ns, ?_, ?_⟩
  · rw [Token.build]
    simp only [Token.inner] at hbuild
    rw [hbuild]
    rfl
  · rw [Node.unplaced, hns, Phrase.itemNodes_eq_map]

theorem item {key value : Token} (hr : t.rule = .objectItem) (ht : t.inner = [key, value])
    (hkey : key.Means n) (hvalue : value.Means m) : t.Means (.item .first n m) := by
  obtain ⟨rule, start, length, inner⟩ := t
  rw [Token.rule] at hr
  rw [Token.inner] at ht
  subst hr ht
  obtain ⟨-, d, hd⟩ := hkey
  obtain ⟨-, e, he⟩ := hvalue
  refine ⟨rfl, max d e, fun limit depth hlimit => ?_⟩
  obtain ⟨n', hbuild, hn'⟩ := hd limit depth (by omega)
  obtain ⟨m', hbuild', hm'⟩ := he limit depth (by omega)
  refine ⟨.item start.position n' m', ?_, by rw [Node.unplaced, hn', hm']⟩
  rw [Token.build, buildAll, hbuild, buildAll, hbuild', buildAll]
  rfl

end Means

end Token

/-! ## Runs -/

/-- The tokens, the latest first, are the phrase written out flat, if the limit is large enough. -/
def Runs (ts : List Token) (p : Phrase) : Prop :=
  ∃ d, ∀ limit depth, depth + d ≤ limit → Spells p (Token.pieces limit depth ts.reverse)

namespace Runs

variable {t : Token} {ts us : List Token}

theorem operand {p : Phrase} (ht : t.Means p.node) : Runs [t] p := by
  obtain ⟨hoperand, d, hd⟩ := ht
  refine ⟨d, fun limit depth hlimit => ?_⟩
  obtain ⟨n, hbuild, hn⟩ := hd limit depth hlimit
  rw [List.reverse_singleton, Token.pieces_of_isOperand hoperand, hbuild]
  exact .operand hn

theorem unary {x : Phrase} {op : UnaryOp} (ht : t.rule = .unary op) (hx : Runs ts x) :
    Runs (ts ++ [t]) (.unary op x) := by
  obtain ⟨d, hd⟩ := hx
  refine ⟨d, fun limit depth hlimit => ?_⟩
  rw [List.reverse_append, List.reverse_singleton, List.singleton_append, Token.pieces]
  simp only [ht]
  exact .unary _ op (hd limit depth hlimit)

theorem between {l r : Phrase} {op : Operator} (hl : Runs ts l) (ht : t.rule = .between op.1)
    (hr : Runs us r) : Runs (us ++ [t] ++ ts) (.between op l r) := by
  obtain ⟨d, hd⟩ := hl
  obtain ⟨d', hd'⟩ := hr
  refine ⟨max d d', fun limit depth hlimit => ?_⟩
  have hpiece : Token.pieces limit depth (t :: us.reverse) =
      .between t.position op.1 :: Token.pieces limit depth us.reverse := by
    obtain ⟨op, hop⟩ := op
    rw [Token.pieces]
    cases op with
    | choice => exact absurd rfl hop
    | _ => simp only [ht]
  rw [List.reverse_append, List.reverse_append, List.reverse_singleton, List.singleton_append,
    Token.pieces_append, hpiece]
  exact .between _ op (hd limit depth (by omega)) (hd' limit depth (by omega))

theorem choice {c m r : Phrase} {u : Token} (hc : Runs ts c) (ht : t.rule = .between .choice)
    (hinner : t.inner = [u]) (hu : u.Means m.node) (hr : Runs us r) :
    Runs (us ++ [t] ++ ts) (.choice c m r) := by
  obtain ⟨d, hd⟩ := hc
  obtain ⟨d', hd'⟩ := hr
  obtain ⟨e, he⟩ := hu.buildInnerFirst hinner
  refine ⟨max (max d d') e, fun limit depth hlimit => ?_⟩
  obtain ⟨n, hbuild, hn⟩ := he limit depth (by omega)
  rw [List.reverse_append, List.reverse_append, List.reverse_singleton, List.singleton_append,
    Token.pieces_append, Token.pieces]
  simp only [ht, hbuild]
  exact .choice _ (hd limit depth (by omega)) hn (hd' limit depth (by omega))

theorem field {b : Phrase} {u : Token} {optional : Bool} {w : Name} (hb : Runs ts b)
    (ht : t.rule = .field optional) (hinner : t.inner = [u])
    (hu : u.Means (.identifier .first (String.ofList w.chars))) :
    Runs (t :: ts) (.field b optional w) := by
  obtain ⟨d, hd⟩ := hb
  obtain ⟨e, he⟩ := hu.buildInnerFirst hinner
  refine ⟨max d e, fun limit depth hlimit => ?_⟩
  obtain ⟨n, hbuild, hn⟩ := he limit depth (by omega)
  rw [List.reverse_cons, Token.pieces_append, Token.pieces, Token.pieces]
  simp only [ht, hbuild]
  exact .field _ optional (hd limit depth (by omega)) hn

theorem index {b k : Phrase} {u : Token} {optional : Bool} (hb : Runs ts b)
    (ht : t.rule = .index optional) (hinner : t.inner = [u]) (hu : u.Means k.node) :
    Runs (t :: ts) (.index b optional k) := by
  obtain ⟨d, hd⟩ := hb
  obtain ⟨e, he⟩ := hu.buildInnerFirst hinner
  refine ⟨max d e, fun limit depth hlimit => ?_⟩
  obtain ⟨n, hbuild, hn⟩ := he limit depth (by omega)
  rw [List.reverse_cons, Token.pieces_append, Token.pieces, Token.pieces]
  simp only [ht, hbuild]
  exact .index _ optional (hd limit depth (by omega)) hn

theorem call {f : Phrase} {optional : Bool} {args : List Phrase} (hf : Runs ts f)
    (ht : t.rule = .call optional)
    (hargs : List.Forall₂ (fun (p : Phrase) u => Token.Means u p.node) args t.inner) :
    Runs (t :: ts) (.call f optional args) := by
  obtain ⟨d, hd⟩ := hf
  obtain ⟨e, he⟩ := Token.buildInner_of_means hargs
  refine ⟨max d e, fun limit depth hlimit => ?_⟩
  obtain ⟨ns, hbuild, hns⟩ := he limit depth (by omega)
  rw [List.reverse_cons, Token.pieces_append, Token.pieces, Token.pieces]
  simp only [ht, hbuild]
  exact .call _ optional (hd limit depth (by omega)) (by rw [hns, Phrase.nodes_eq_map])

/-- The token of an expression whose tokens are a grouped phrase. -/
theorem means {p : Phrase} (h : Runs ts p) (hp : p.Grouped) (k : Cursor) (len : Nat) :
    (Token.mk .expression k len ts.reverse).Means p.node := by
  obtain ⟨d, hd⟩ := h
  refine ⟨rfl, Token.levels ts.reverse + d, fun limit depth hlimit => ?_⟩
  obtain ⟨n, htree, hn⟩ := (hd limit (depth + Token.levels ts.reverse) (by omega)).toTree hp
  refine ⟨n, ?_, hn⟩
  rw [Token.build, if_neg (by omega), htree]

end Runs

end ExprLang
