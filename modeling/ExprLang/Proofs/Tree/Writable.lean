import ExprLang.Proofs.Literal.Escapes
import ExprLang.Proofs.Tree.Phrase

/-!
# ExprLang.Proofs.Tree.Writable

Which trees can be written as phrases: those over variables, string literals, the keywords that name
no number, arrays, objects, operators, selections and calls (`Node.exists_phrase`).  A selection must
have a step and must not begin with another selection, since a text has no way to keep the two apart.
-/

namespace ExprLang

open ExprLang.Language

/-! ## Strings -/

/-- A character between double quotes, with a backslash before it where it needs one. -/
def escapeChar (c : Char) : List Char := if c = '"' ∨ c = '\\' then ['\\', c] else [c]

theorem unescape_escapeChar (s : List Char) : unescape (s.flatMap escapeChar) = .ok s := by
  induction s with
  | nil => rw [List.flatMap_nil, unescape]
  | cons c s ih =>
    rw [List.flatMap_cons]
    unfold escapeChar
    split
    · next hc =>
      have hread :
          Escape.read (c :: s.flatMap escapeChar) = .ok (some c, s.flatMap escapeChar) := by
        rcases hc with rfl | rfl <;> rfl
      rw [List.cons_append, List.singleton_append]
      exact (unescape_escape hread).trans (by rw [ih]; rfl)
    · next hc =>
      rw [not_or] at hc
      rw [List.singleton_append, unescape, if_neg hc.2]
      exact (congrArg _ ih).trans rfl

theorem isQuotable_escapeChar (s : List Char) : isQuotable '"' (s.flatMap escapeChar) = true := by
  induction s with
  | nil => rfl
  | cons c s ih =>
    rw [List.flatMap_cons]
    unfold escapeChar
    split
    · exact ih
    · next hc =>
      rw [not_or] at hc
      rw [List.singleton_append]
      unfold isQuotable
      rw [if_neg hc.2, Bool.and_eq_true, bne_iff_ne]
      exact ⟨hc.1, ih⟩

/-- Every text has a literal. -/
def StringLiteral.ofText (s : List Char) : StringLiteral where
  double := true
  body := s.flatMap escapeChar
  text := s
  valid := isQuotable_escapeChar s
  denotes := unescape_escapeChar s

/-! ## Trees -/

/-- Whether a name stands for a variable: one that is no keyword, or a capture. -/
def isVarName : List Char → Bool
  | '$' :: w => !w.isEmpty && w.all isNamePart
  | w => isName w && !(keywords.map String.toList).contains w

/-- Whether a keyword that names no number has the value. -/
def Value.isKeyword : Value → Bool
  | .boolean _ | .null | .undefined => true
  | _ => false

mutual

/-- Whether a tree can be written, with `key` also as a bare name after a point or in an object. -/
def Node.isWritableAs (key : Bool) : Node → Bool
  | .identifier _ w => key && isName w.toList
  | .var _ w => isVarName w.toList
  | .string .. => true
  | .literal _ v => v.isKeyword
  | .array _ ns => Node.allWritable ns
  | .object _ ns => Node.itemsWritable ns
  | .unary _ _ a => a.isWritableAs false
  | .fallback _ a b | .logical _ _ a b | .bitwise _ _ a b | .relational _ _ a b
  | .arithmetic _ _ a b => a.isWritableAs false && b.isWritableAs false
  | .choice _ a b c => a.isWritableAs false && b.isWritableAs false && c.isWritableAs false
  | .select _ base steps =>
    base.isWritableAs false && base.kind != .select && !steps.isEmpty && Node.stepsWritable steps
  | .call _ f args _ => f.isWritableAs false && Node.allWritable args
  | .sequence .. | .assignment .. | .item .. | .template .. | .regexp .. | .number .. => false

def Node.allWritable : List Node → Bool
  | [] => true
  | n :: ns => n.isWritableAs false && Node.allWritable ns

def Node.itemsWritable : List Node → Bool
  | [] => true
  | n :: ns => n.itemWritable && Node.itemsWritable ns

def Node.itemWritable : Node → Bool
  | .item _ key value => key.isWritableAs true && value.isWritableAs false
  | _ => false

def Node.stepsWritable : List (Step Node) → Bool
  | [] => true
  | s :: ss => Node.stepWritable s && Node.stepsWritable ss

def Node.stepWritable : Step Node → Bool
  | ⟨key, _, _⟩ => key.isWritableAs true

end

/-- Whether a tree can be written as a phrase. -/
def Node.isWritable (n : Node) : Bool := n.isWritableAs false

theorem exists_atom_of_isVarName {w : List Char} (h : isVarName w = true) :
    ∃ a : Atom, a.node = .var .first (String.ofList w) := by
  unfold isVarName at h
  split at h
  · next w => exact ⟨.capture ⟨w, h⟩, rfl⟩
  · rw [Bool.and_eq_true] at h
    exact ⟨.plain ⟨⟨_, h.1⟩, by simpa using h.2⟩, rfl⟩

theorem exists_keyword_of_isKeyword {v : Value} (h : v.isKeyword = true) :
    ∃ w : Keyword, w.value = v := by
  cases v with
  | boolean b =>
    cases b with
    | false => exact ⟨.false, rfl⟩
    | true => exact ⟨.true, rfl⟩
  | null => exact ⟨.null, rfl⟩
  | undefined => exact ⟨.undefined, rfl⟩
  | _ => cases h

namespace Node

theorem selecting_of_kind_ne {base : Node} (h : base.kind ≠ .select) (key : Node)
    (optional : Bool) :
    base.selecting key optional = .select .first base [⟨key, optional, .first⟩] := by
  cases base with
  | select => exact absurd rfl h
  | _ => rfl

theorem kind_unplaced (n : Node) : n.unplaced.kind = n.kind := by
  cases n <;> rw [unplaced, kind, kind]

/-- Steps added to a selection come after those it has. -/
theorem foldl_selecting (base : Node) (steps done : List (Step Node)) :
    (unplacedSteps steps).foldl (fun (n : Node) s => n.selecting s.key s.optional)
      (.select .first base done) = .select .first base (done ++ unplacedSteps steps) := by
  induction steps generalizing done with
  | nil => rw [unplacedSteps, List.foldl_nil, List.append_nil]
  | cons s steps ih =>
    rw [unplacedSteps, unplacedStep, List.foldl_cons]
    exact (ih _).trans (by rw [List.append_assoc, List.singleton_append])

theorem foldl_selecting_of_kind_ne {base : Node} (hbase : base.kind ≠ .select)
    {steps : List (Step Node)} (hne : steps ≠ []) :
    (unplacedSteps steps).foldl (fun (n : Node) s => n.selecting s.key s.optional) base
      = .select .first base (unplacedSteps steps) := by
  obtain ⟨s, steps, rfl⟩ := List.exists_cons_of_ne_nil hne
  rw [unplacedSteps, unplacedStep, List.foldl_cons, selecting_of_kind_ne hbase, foldl_selecting,
    List.singleton_append]

theorem exists_between (op : Operator) {a b : Node} (ha : ∃ p : Phrase, p.node = a)
    (hb : ∃ p : Phrase, p.node = b) : ∃ p : Phrase, p.node = op.node a b := by
  obtain ⟨p, rfl⟩ := ha
  obtain ⟨q, rfl⟩ := hb
  exact ⟨.between op p q, by rw [Phrase.node]⟩

mutual

/-- A tree that can be written is that of a phrase or, where it is a key, perhaps a bare name. -/
theorem exists_phrase_as (key : Bool) (n : Node) (h : n.isWritableAs key = true) :
    (∃ p : Phrase, p.node = n.unplaced) ∨
      key = true ∧ ∃ w : Name, .identifier .first (String.ofList w.chars) = n.unplaced := by
  cases n with
  | identifier pos w =>
    rw [isWritableAs, Bool.and_eq_true] at h
    exact .inr ⟨h.1, ⟨w.toList, h.2⟩, by rw [String.ofList_toList, unplaced]⟩
  | var pos w =>
    rw [isWritableAs] at h
    obtain ⟨a, ha⟩ := exists_atom_of_isVarName h
    exact .inl ⟨.atom a, by rw [Phrase.node, ha, String.ofList_toList, unplaced]⟩
  | string pos s =>
    refine .inl ⟨.atom (.string (.ofText s.toList)), ?_⟩
    rw [Phrase.node, Atom.node, unplaced]
    exact congrArg _ String.ofList_toList
  | literal pos v =>
    rw [isWritableAs] at h
    obtain ⟨w, rfl⟩ := exists_keyword_of_isKeyword h
    exact .inl ⟨.atom (.keyword w), by rw [Phrase.node, Atom.node, unplaced]⟩
  | array pos ns =>
    rw [isWritableAs] at h
    obtain ⟨ps, hps⟩ := exists_phrases ns h
    exact .inl ⟨.array ps, by rw [Phrase.node, hps, unplaced]⟩
  | object pos ns =>
    rw [isWritableAs] at h
    obtain ⟨is, his⟩ := exists_items ns h
    exact .inl ⟨.object is, by rw [Phrase.node, his, unplaced]⟩
  | unary pos op a =>
    rw [isWritableAs] at h
    obtain ⟨p, hp⟩ := (exists_phrase_as false a h).resolve_right (by simp)
    exact .inl ⟨.unary op p, by rw [Phrase.node, hp, unplaced]⟩
  | choice pos a b c =>
    rw [isWritableAs, Bool.and_eq_true, Bool.and_eq_true] at h
    obtain ⟨p, hp⟩ := (exists_phrase_as false a h.1.1).resolve_right (by simp)
    obtain ⟨q, hq⟩ := (exists_phrase_as false b h.1.2).resolve_right (by simp)
    obtain ⟨r, hr⟩ := (exists_phrase_as false c h.2).resolve_right (by simp)
    exact .inl ⟨.choice p q r, by rw [Phrase.node, hp, hq, hr, unplaced]⟩
  | fallback pos a b =>
    rw [isWritableAs, Bool.and_eq_true] at h
    have ha := (exists_phrase_as false a h.1).resolve_right (by simp)
    have hb := (exists_phrase_as false b h.2).resolve_right (by simp)
    rw [unplaced]
    exact .inl (exists_between ⟨.fallback, by simp⟩ ha hb)
  | logical pos op a b =>
    rw [isWritableAs, Bool.and_eq_true] at h
    have ha := (exists_phrase_as false a h.1).resolve_right (by simp)
    have hb := (exists_phrase_as false b h.2).resolve_right (by simp)
    rw [unplaced]
    exact .inl (exists_between ⟨.logical op, by simp⟩ ha hb)
  | bitwise pos op a b =>
    rw [isWritableAs, Bool.and_eq_true] at h
    have ha := (exists_phrase_as false a h.1).resolve_right (by simp)
    have hb := (exists_phrase_as false b h.2).resolve_right (by simp)
    rw [unplaced]
    exact .inl (exists_between ⟨.bitwise op, by simp⟩ ha hb)
  | relational pos op a b =>
    rw [isWritableAs, Bool.and_eq_true] at h
    have ha := (exists_phrase_as false a h.1).resolve_right (by simp)
    have hb := (exists_phrase_as false b h.2).resolve_right (by simp)
    rw [unplaced]
    exact .inl (exists_between ⟨.relational op, by simp⟩ ha hb)
  | arithmetic pos op a b =>
    rw [isWritableAs, Bool.and_eq_true] at h
    have ha := (exists_phrase_as false a h.1).resolve_right (by simp)
    have hb := (exists_phrase_as false b h.2).resolve_right (by simp)
    rw [unplaced]
    exact .inl (exists_between ⟨.arithmetic op, by simp⟩ ha hb)
  | select pos base steps =>
    simp only [isWritableAs, Bool.and_eq_true, bne_iff_ne, Bool.not_eq_true',
      List.isEmpty_eq_false_iff] at h
    obtain ⟨⟨⟨hbase, hkind⟩, hne⟩, hsteps⟩ := h
    obtain ⟨p, hp⟩ := (exists_phrase_as false base hbase).resolve_right (by simp)
    obtain ⟨q, hq⟩ := exists_steps steps hsteps p
    refine .inl ⟨q, ?_⟩
    rw [← base.kind_unplaced] at hkind
    rw [hq, hp, unplaced, foldl_selecting_of_kind_ne hkind hne]
  | call pos f args optional =>
    rw [isWritableAs, Bool.and_eq_true] at h
    obtain ⟨p, hp⟩ := (exists_phrase_as false f h.1).resolve_right (by simp)
    obtain ⟨ps, hps⟩ := exists_phrases args h.2
    exact .inl ⟨.call p optional ps, by rw [Phrase.node, hp, hps, unplaced]⟩
  | _ =>
    rw [isWritableAs] at h
    cases h

theorem exists_phrases (ns : List Node) (h : allWritable ns = true) :
    ∃ ps, Phrase.nodes ps = unplacedAll ns := by
  cases ns with
  | nil => exact ⟨[], by rw [Phrase.nodes, unplacedAll]⟩
  | cons n ns =>
    rw [allWritable, Bool.and_eq_true] at h
    obtain ⟨p, hp⟩ := (exists_phrase_as false n h.1).resolve_right (by simp)
    obtain ⟨ps, hps⟩ := exists_phrases ns h.2
    exact ⟨p :: ps, by rw [Phrase.nodes, hp, hps, unplacedAll]⟩

theorem exists_items (ns : List Node) (h : itemsWritable ns = true) :
    ∃ is, Phrase.itemNodes is = unplacedAll ns := by
  cases ns with
  | nil => exact ⟨[], by rw [Phrase.itemNodes, unplacedAll]⟩
  | cons n ns =>
    rw [itemsWritable, Bool.and_eq_true] at h
    obtain ⟨i, hi⟩ := exists_item n h.1
    obtain ⟨is, his⟩ := exists_items ns h.2
    exact ⟨i :: is, by rw [Phrase.itemNodes, hi, his, unplacedAll]⟩

theorem exists_item (n : Node) (h : n.itemWritable = true) : ∃ i : Item, i.node = n.unplaced := by
  cases n with
  | item pos k v =>
    rw [itemWritable, Bool.and_eq_true] at h
    obtain ⟨q, hq⟩ := (exists_phrase_as false v h.2).resolve_right (by simp)
    rcases exists_phrase_as true k h.1 with ⟨p, hp⟩ | ⟨-, w, hw⟩
    · exact ⟨.computed p q, by rw [Item.node, hp, hq, unplaced]⟩
    · exact ⟨.plain (.name w) q, by rw [Item.node, Key.node, hw, hq, unplaced]⟩
  | _ =>
    unfold itemWritable at h
    cases h

/-- Steps are added one after the other. -/
theorem exists_steps (ss : List (Step Node)) (h : stepsWritable ss = true) (p : Phrase) :
    ∃ q : Phrase, q.node =
      (unplacedSteps ss).foldl (fun n s => n.selecting s.key s.optional) p.node := by
  cases ss with
  | nil => exact ⟨p, by rw [unplacedSteps, List.foldl_nil]⟩
  | cons s ss =>
    rw [stepsWritable, Bool.and_eq_true] at h
    obtain ⟨q, hq⟩ := exists_step s h.1 p
    obtain ⟨r, hr⟩ := exists_steps ss h.2 q
    exact ⟨r, by rw [hr, hq, unplacedSteps, List.foldl_cons]⟩

theorem exists_step (s : Step Node) (h : stepWritable s = true) (p : Phrase) :
    ∃ q : Phrase, q.node = p.node.selecting (unplacedStep s).key (unplacedStep s).optional := by
  obtain ⟨key, optional, pos⟩ := s
  rw [stepWritable] at h
  rw [unplacedStep]
  rcases exists_phrase_as true key h with ⟨k, hk⟩ | ⟨-, w, hw⟩
  · exact ⟨.index p optional k, by rw [Phrase.node, hk]⟩
  · exact ⟨.field p optional w, by rw [Phrase.node, hw]⟩

end

/-- Every tree that can be written is that of a phrase. -/
theorem exists_phrase {n : Node} (h : n.isWritable = true) : ∃ p : Phrase, p.node = n.unplaced :=
  (exists_phrase_as false n h).resolve_right (by simp)

end Node

end ExprLang
