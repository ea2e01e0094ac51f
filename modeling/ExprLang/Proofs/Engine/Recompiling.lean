import ExprLang.Proofs.Engine.Coherence
import ExprLang.Proofs.Number.Comparing
import ExprLang.Proofs.Tree.Leaves

/-!
# ExprLang.Proofs.Engine.Recompiling

Compiling a text again.

Equality of trees compares numbers as numbers, so a tree equals itself just if its leaves do
(`Node.equals_self_iff`), and of the leaves that a text can have only the literal `NaN` does not
(`Node.equals_self_iff_of_lexical`).  What a text is compiled to after it was given up is the same
data as before, and equal to it without such a literal (`Session.recompiled_equals_iff`).
-/

namespace ExprLang

namespace Node

/-! ## Trees that equal themselves -/

/-- A leaf equals itself if what it carries does. -/
def Selfsame : Node → Prop
  | number _ x => (x == x) = true
  | literal _ v => v.equals v = true
  | _ => True

theorem equalNodes_self_iff (ns : List Node) :
    equalNodes ns ns = true ↔ ∀ n ∈ ns, n.equals n = true := by
  induction ns with
  | nil => simp [equalNodes]
  | cons n ns ih => rw [equalNodes, Bool.and_eq_true, ih, List.forall_mem_cons]

theorem equalSteps_self_iff (ss : List (Step Node)) :
    equalSteps ss ss = true ↔ ∀ s ∈ ss, s.key.equals s.key = true := by
  induction ss with
  | nil => simp [equalSteps]
  | cons s ss ih =>
    obtain ⟨key, optional, p⟩ := s
    rw [equalSteps, Bool.and_eq_true, ih, List.forall_mem_cons]
    simp [equalStep]

theorem equals_self_iff_children (n : Node) :
    n.equals n = true ↔ n.Selfsame ∧ ∀ c ∈ n.children, c.equals c = true := by
  cases n <;>
    simp [equals, Selfsame, children, equalNodes_self_iff, equalSteps_self_iff, and_assoc]

/-- A tree equals itself just if all its leaves do. -/
theorem equals_self_iff (n : Node) : n.equals n = true ↔ n.Throughout Selfsame := by
  induction n using contained with
  | around n ih =>
    rw [equals_self_iff_children, throughout_iff]
    exact and_congr_right fun _ => forall₂_congr ih

/-- The tree has the literal for what is not a number in it. -/
def HasNaN (n : Node) : Prop := ∃ p, (literal p (.number (0.0 / 0.0))).Within n

/-- The number literals of a text are numbers, and all keywords but one have values that equal
themselves. -/
theorem selfsame_of_lexical {n : Node} (hn : n.Lexical)
    (hnan : ∀ p, n ≠ literal p (.number (0.0 / 0.0))) : n.Selfsame := by
  cases n with
  | number p x =>
    have hx : x.isNaN = false := hn
    rw [Selfsame, Binary.float_beq_self_iff, ne_eq, ← Binary.isNaN_iff, hx]
    decide
  | literal p v =>
    obtain ⟨s, hs⟩ := hn
    unfold Token.keywordValue? at hs
    split at hs <;> cases hs
    case h_5 => exact absurd rfl (hnan p)
    all_goals
      show Value.equals _ _ = true
      decide
  | _ => trivial

theorem equals_self_iff_of_lexical {n : Node} (hn : n.Throughout Lexical) :
    n.equals n = true ↔ ¬ n.HasNaN := by
  rw [equals_self_iff]
  constructor
  · rintro h ⟨p, hp⟩
    have hself : ((0.0 / 0.0 : Float) == 0.0 / 0.0) = true := h _ hp
    exact absurd hself (by decide)
  · intro h m hm
    exact selfsame_of_lexical (hn m hm) fun p hp => h ⟨p, hp ▸ hm⟩

end Node

/-! ## Compiling again -/

namespace Session

variable {σ : Type}

/-- A text that has a tree is compiled to it, now and after any calls. -/
theorem exists_recompiled (o : Options) (calls : Host σ) (host : σ) (earlier later : List Call)
    {text : String} {tree : Node} (h : parseWithin o.maxDepth text = .ok tree) :
    let s := (start o host).play calls earlier
    let s' := (s.call calls (.compile text)).play calls later
    ∃ first again, (s.engine.compile text).1 = .ok first ∧ (s'.engine.compile text).1 = .ok again ∧
      first.source = text ∧ first.tree = tree ∧ again.source = text ∧ again.tree = tree := by
  intro s s'
  have hcompiled : ∀ {r : Session σ}, r.Sound o.maxDepth →
      ∃ c, (r.engine.compile text).1 = .ok c ∧ c.source = text ∧ c.tree = tree := by
    intro r hr
    rw [← hr.maxDepth_eq] at h
    obtain ⟨c, hc⟩ := Engine.compile_of_ok h
    obtain ⟨hsource, htree⟩ := hr.coherent.of_compile hc
    exact ⟨c, hc, hsource, Except.ok.inj (htree.symm.trans h)⟩
  have hs : s.Sound o.maxDepth := (sound_start o host).play calls earlier
  obtain ⟨first, hfirst, hsource, htree⟩ := hcompiled hs
  obtain ⟨again, hagain, hsource', htree'⟩ :=
    hcompiled ((hs.call calls (.compile text)).play calls later)
  exact ⟨first, again, hfirst, hagain, hsource, htree, hsource', htree'⟩

/-- What a text is compiled to is, whatever was asked of the engine before and between, the same
text and the same tree as the first time, and equals what it was then just if the tree is without
the literal `NaN`. -/
theorem recompiled_equals_iff (o : Options) (calls : Host σ) (host : σ) (earlier later : List Call)
    {text : String} {tree : Node} (h : parseWithin o.maxDepth text = .ok tree) :
    let s := (start o host).play calls earlier
    let s' := (s.call calls (.compile text)).play calls later
    ∃ first again, (s.engine.compile text).1 = .ok first ∧ (s'.engine.compile text).1 = .ok again ∧
      again.source = first.source ∧ again.tree = first.tree ∧ first.tree = tree ∧
      (first.equals again = true ↔ ¬ tree.HasNaN) := by
  intro s s'
  obtain ⟨first, again, hfirst, hagain, hsource, htree, hsource', htree'⟩ :=
    exists_recompiled o calls host earlier later h
  refine ⟨first, again, hfirst, hagain, hsource'.trans hsource.symm, htree'.trans htree.symm, htree,
    ?_⟩
  rw [Compiled.equals, hsource, hsource', htree, htree', beq_self_eq_true, Bool.true_and,
    Node.equals_self_iff_of_lexical (lexical_of_parse h)]

/-- A text whose tree was tested for equality with itself. -/
theorem exists_tree_of_equals (text : String) {b : Bool}
    (h : ((parse text).toOption.map fun n => n.equals n) = some b) :
    ∃ tree, parse text = .ok tree ∧ tree.equals tree = b := by
  cases ht : parse text with
  | error e =>
    rw [ht] at h
    cases h
  | ok tree =>
    rw [ht] at h
    exact ⟨tree, rfl, Option.some.inj h⟩

/-- A list with a zero, a text and infinity, given up and compiled again. -/
theorem recompiled_equals_iff_of_list :
    let s := start .standard ()
    let s' := (s.call .none (.compile "[-0, 'a', Infinity]")).play .none [.clearCache]
    ∃ first again, (s.engine.compile "[-0, 'a', Infinity]").1 = .ok first ∧
      (s'.engine.compile "[-0, 'a', Infinity]").1 = .ok again ∧ first.equals again = true := by
  intro s s'
  obtain ⟨tree, htree, hself⟩ :=
    exists_tree_of_equals "[-0, 'a', Infinity]" (b := true) (by decide +kernel)
  obtain ⟨first, again, hfirst, hagain, -, -, -, hequals⟩ :=
    recompiled_equals_iff .standard .none () [] [.clearCache] htree
  have hnan := (Node.equals_self_iff_of_lexical (lexical_of_parse htree)).mp hself
  exact ⟨first, again, hfirst, hagain, hequals.mpr hnan⟩

/-- The literal `NaN`, given up and compiled again. -/
theorem not_equals_recompiled :
    let s := start .standard ()
    let s' := (s.call .none (.compile "NaN")).play .none [.clearCache]
    ∃ first again, (s.engine.compile "NaN").1 = .ok first ∧
      (s'.engine.compile "NaN").1 = .ok again ∧ first.equals again = false := by
  intro s s'
  obtain ⟨tree, htree, hself⟩ :=
    exists_tree_of_equals "NaN" (b := false) (by decide +kernel)
  obtain ⟨first, again, hfirst, hagain, hsource, hfirstTree, hsource', hagainTree⟩ :=
    exists_recompiled .standard .none () [] [.clearCache] htree
  refine ⟨first, again, hfirst, hagain, ?_⟩
  rw [Compiled.equals, hsource, hsource', hfirstTree, hagainTree, hself, Bool.and_false]

end Session

end ExprLang
