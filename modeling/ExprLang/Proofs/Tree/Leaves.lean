import ExprLang.Proofs.Number.Magnitudes
import ExprLang.Proofs.Tree.Faults
import ExprLang.Proofs.Tree.Height
import ExprLang.Proofs.Tree.Regexps

/-!
# ExprLang.Proofs.Tree.Leaves

Where the leaves of a tree come from.

Whatever is inside a tree that was read from a text is a leaf built of one token, or a node around
others.  So what holds of every such leaf, and of all other nodes by their kind, holds throughout
the tree (`Token.Descends.grows`).  Leaves come of tokens that are read without blanks, and none of
their patterns reads a line feed where the leaf keeps it (`Pattern.excludes`).
-/

namespace ExprLang

open ExprLang.Language Pattern

/-! ## Characters that are not read -/

namespace Pattern

/-- Whether the pattern, read without blanks, never reads a character. -/
def excludes (c : Char) : Pattern → Bool
  | .text w => !w.contains c
  | .one f => !f c
  | .stop | .unless _ => true
  | .seq x y | .either x y => x.excludes c && y.excludes c
  | .maybe x => x.excludes c
  | .many x => !x.nullable && x.excludes c
  | .rule _ kind x => kind != .spaced && x.excludes c
  | .recurse => false

variable {n : Reader} {m : Mode} {x : Pattern} {c : Char}

/-- A pattern that is read over and over, from where it was read before. -/
theorem Spans.repeats {P : List Char → Prop} (hm : m.spacing ≠ .free) (hx : x.Spans n m P)
    (hnil : P []) (happend : ∀ u v, P u → P v → P (u ++ v)) {k k' : Cursor} {ts : List Token}
    (h : Repeats n x m k ts k') : ∃ w, k.rest = w ++ k'.rest ∧ k' = k.advance w.length ∧ P w := by
  induction h with
  | done => exact ⟨[], rfl, rfl, hnil⟩
  | next hone _ _ ih =>
    rw [Cursor.skip_of_ne_free hm] at hone
    obtain ⟨v, hv, rfl, hPv⟩ := hx _ _ _ hone
    obtain ⟨w, hw, rfl, hPw⟩ := ih
    refine ⟨v ++ w, by rw [hv, hw, List.append_assoc], ?_, happend v w hPv hPw⟩
    rw [Cursor.advance_advance, List.length_append]

/-- What such a pattern reads is without the character. -/
theorem spans_of_excludes (hn : n.Settled) (hp : n.Proceeds) (hm : m.spacing ≠ .free)
    (hx : x.excludes c = true) : x.Spans n m fun w => c ∉ w := by
  induction x generalizing m with
  | text w => exact (Spans.text w).mono fun v hv => by simpa [excludes, hv] using hx
  | one f =>
    refine (Spans.one f).mono ?_
    rintro _ ⟨d, rfl, hd⟩ hc
    obtain rfl := List.mem_singleton.mp hc
    simp [excludes, hd] at hx
  | stop =>
    intro k ts k' hacc
    obtain ⟨-, -, rfl⟩ := accepts_stop_iff.mp hacc
    exact ⟨[], rfl, rfl, List.not_mem_nil⟩
  | seq x y ihx ihy =>
    rw [excludes, Bool.and_eq_true] at hx
    refine (Spans.seq hn hm (ihx hm hx.1) (ihy hm hx.2)).mono ?_
    rintro _ ⟨u, v, rfl, hu, hv⟩ hc
    exact (List.mem_append.mp hc).elim hu hv
  | either x y ihx ihy =>
    rw [excludes, Bool.and_eq_true] at hx
    exact (Spans.either hn (ihx hm hx.1) (ihy hm hx.2)).mono fun w hw => hw.elim id id
  | maybe x ih =>
    refine (Spans.maybe hn (ih hm hx)).mono ?_
    rintro w (hw | rfl)
    · exact hw
    · exact List.not_mem_nil
  | many x ih =>
    rw [excludes, Bool.and_eq_true, Bool.not_eq_true'] at hx
    intro k ts k' hacc
    have hrepeats := (accepts_many_iff hn hp hx.1 (Cursor.skip_of_ne_free hm k)).mp hacc
    exact Spans.repeats hm (ih hm hx.2) List.not_mem_nil
      (fun u v hu hv hc => (List.mem_append.mp hc).elim hu hv) hrepeats
  | «unless» x =>
    intro k ts k' hacc
    obtain ⟨-, -, rfl⟩ := (accepts_unless_iff hn).mp hacc
    exact ⟨[], rfl, rfl, List.not_mem_nil⟩
  | rule r kind x ih =>
    rw [excludes, Bool.and_eq_true] at hx
    intro k ts k' hacc
    obtain ⟨us, hbody, -⟩ := (accepts_rule_iff hn).mp hacc
    refine ih (m := { m with spacing := kind.body m.spacing }) ?_ hx.2 k us k' hbody
    cases kind with
    | plain => exact hm
    | lexeme | compact => simp [RuleKind.body]
    | spaced => cases hx.1
  | recurse => cases hx

end Pattern

namespace Token.Descends

variable {t : Token}

/-- A name is on one line. -/
theorem newline_notMem_name (ht : t.Descends productions)
    (hr : t.rule ∈ [.identifier, .name, .variable]) : '\n' ∉ t.chars := by
  have hexcludes : (productions.filter fun p => p.rule ∈ [.identifier, .name, .variable]).all
      (fun p => p.kind = .lexeme ∧ p.body.excludes '\n') = true := rfl
  cases ht with
  | @mk p depth sp k k' ts hp hacc _ =>
    obtain ⟨hkind, hbody⟩ := of_decide_eq_true (List.all_eq_true.mp hexcludes p
      (List.mem_filter.mpr ⟨hp, decide_eq_true hr⟩))
    rw [hkind] at hacc
    obtain ⟨w, hw, -, hnot⟩ := spans_of_excludes (settled_readExpression depth)
      (proceeds_readExpression depth) (by simp [RuleKind.body]) hbody k ts k' hacc
    rwa [hacc.chars_mk (proceeds_readExpression depth) hw]

/-- The body of a regular expression is on one line. -/
theorem newline_notMem_body (ht : t.Descends productions) (hr : t.rule = .regexp) :
    ∃ body flags, t.inner = body :: flags ∧ '\n' ∉ body.chars := by
  obtain ⟨depth, sp, k, k', ts, hacc, hinner, -⟩ :=
    ht.exists_accepts (y := Language.regexp) (i := 2) rfl rfl hr
  have hn := settled_readExpression depth
  have hp := proceeds_readExpression depth
  obtain ⟨k₁, -, hbody⟩ := exists_of_accepts_word_seq hn (by simp [RuleKind.body]) hacc
  obtain ⟨body, us, k₂, rfl, -, -, hnot, -⟩ := exists_of_accepts_lexeme_seq hn
    (spans_of_excludes (c := '\n') hn hp (by decide) (by decide)) hbody
  exact ⟨body, us.reverse, by rw [hinner, List.reverse_append]; rfl, hnot⟩

end Token.Descends

/-! ## Throughout a tree -/

/-- The kinds of nodes that have nothing inside. -/
def NodeKind.isLeaf : NodeKind → Bool
  | .identifier | .var | .string | .regexp | .number | .literal => true
  | _ => false

namespace Node

theorem sizeOf_lt_of_mem_children {c n : Node} (h : c ∈ n.children) : sizeOf c < sizeOf n := by
  cases n with
  | select p base steps =>
    simp only [children, List.mem_cons, List.mem_map] at h
    rw [select.sizeOf_spec]
    rcases h with rfl | ⟨s, hs, rfl⟩
    · omega
    · have := List.sizeOf_lt_of_mem hs
      obtain ⟨key, optional, q⟩ := s
      rw [Step.mk.sizeOf_spec] at this
      dsimp only
      omega
  | call p f as optional =>
    simp only [children, List.mem_cons] at h
    rw [call.sizeOf_spec]
    rcases h with rfl | h
    · omega
    · have := List.sizeOf_lt_of_mem h
      omega
  | sequence p ns | array p ns | object p ns | template p ns =>
    rw [children] at h
    have := List.sizeOf_lt_of_mem h
    simp only [sequence.sizeOf_spec, array.sizeOf_spec, object.sizeOf_spec, template.sizeOf_spec]
    omega
  | identifier | var | string | regexp | number | literal => cases h
  | _ =>
    simp only [children, List.mem_cons, List.not_mem_nil, or_false] at h
    simp only [assignment.sizeOf_spec, fallback.sizeOf_spec, choice.sizeOf_spec,
      logical.sizeOf_spec, bitwise.sizeOf_spec, relational.sizeOf_spec, arithmetic.sizeOf_spec,
      unary.sizeOf_spec, item.sizeOf_spec]
    rcases h with rfl | rfl | rfl <;> omega

/-- What holds of a node if it holds of the nodes inside it holds of all nodes. -/
theorem contained {P : Node → Prop} (around : ∀ n : Node, (∀ c ∈ n.children, P c) → P n)
    (n : Node) : P n :=
  around n fun c _ => contained around c
termination_by sizeOf n
decreasing_by exact sizeOf_lt_of_mem_children ‹_›

/-- The node has the property, and so has everything inside it. -/
def Throughout (P : Node → Prop) (n : Node) : Prop := ∀ m : Node, m.Within n → P m

variable {P : Node → Prop} {n : Node}

theorem throughout_iff : n.Throughout P ↔ P n ∧ ∀ c ∈ n.children, c.Throughout P := by
  constructor
  · exact fun h => ⟨h n .refl, fun c hc m hm => h m (.inside hc hm)⟩
  · rintro ⟨hn, hchildren⟩ m hm
    cases hm with
    | refl => exact hn
    | inside hc hm => exact hchildren _ hc m hm

theorem Throughout.children (h : n.Throughout P) : ∀ c ∈ n.children, c.Throughout P :=
  (throughout_iff.mp h).2

theorem Throughout.leaf (hn : P n) (hchildren : n.children = []) : n.Throughout P :=
  throughout_iff.mpr ⟨hn, by simp [hchildren]⟩

/-- What is around other nodes has the property by its kind. -/
theorem Throughout.around (hP : ∀ n : Node, n.kind.isLeaf = false → P n)
    (hkind : n.kind.isLeaf = false) (h : ∀ c ∈ n.children, c.Throughout P) : n.Throughout P :=
  throughout_iff.mpr ⟨hP n hkind, h⟩

end Node

/-! ## Flat expressions -/

namespace Piece

variable {P : Node → Prop}

/-- What is in the piece has the property throughout. -/
def Throughout (P : Node → Prop) : Piece → Prop
  | .operand n => n.Has (Node.Throughout P)
  | .unary _ _ | .between _ _ => True
  | .step s => s.Has fun s => s.key.Throughout P
  | .call _ args _ => args.Has fun ns => ∀ n ∈ ns, n.Throughout P
  | .choice _ middle => middle.Has (Node.Throughout P)

variable (hP : ∀ n : Node, n.kind.isLeaf = false → P n)
include hP

theorem throughout_addStep {n : Node} {s : Step Node} (hn : n.Throughout P)
    (hs : s.key.Throughout P) : (addStep n s).Throughout P := by
  have hchildren := hn.children
  cases n with
  | select pos base steps =>
    refine .around hP rfl fun c hc => ?_
    have hc' : c ∈ base :: steps.map Step.key ∨ c = s.key := by
      simpa [addStep, Node.children, or_assoc] using hc
    rcases hc' with hc' | rfl
    · exact hchildren c hc'
    · exact hs
  | _ => exact .around hP rfl (by simpa [addStep, Node.children] using ⟨hn, hs⟩)

theorem throughout_joinOperands {pos : Position} {op : InfixOp} {l r : Node}
    (hl : l.Throughout P) (hr : r.Throughout P) : (joinOperands pos op l r).Throughout P := by
  cases op <;> exact .around hP rfl (by simpa [joinOperands, Node.children] using ⟨hl, hr⟩)

/-- Grouping puts nodes around nodes. -/
theorem Groups.has_throughout {ps : List Piece} {n : Parsed Node} (h : Groups ps n)
    (hps : ∀ p ∈ ps, p.Throughout P) : n.Has (Node.Throughout P) := by
  induction h with
  | malformed => exact .error
  | operand n => exact hps _ (List.mem_singleton_self _)
  | unary pos op _ ih =>
    exact (ih (List.forall_mem_cons.mp hps).2).map fun n hn =>
      .around hP rfl (by simpa [Node.children] using hn)
  | step s _ ih =>
    simp only [List.forall_mem_append, List.forall_mem_singleton] at hps
    exact (ih hps.1).bind fun l hl => Parsed.Has.bind hps.2 fun s hs =>
      .ok (throughout_addStep hP hl hs)
  | call pos args optional _ ih =>
    simp only [List.forall_mem_append, List.forall_mem_singleton] at hps
    exact (ih hps.1).bind fun l hl => Parsed.Has.bind hps.2 fun ns hns =>
      .ok (.around hP rfl (List.forall_mem_cons.mpr ⟨hl, hns⟩))
  | between pos op _ _ ihLeft ihRight =>
    simp only [List.forall_mem_append, List.forall_mem_cons] at hps
    exact (ihLeft hps.1).bind fun l hl => (ihRight hps.2.2).bind fun r hr =>
      .ok (throughout_joinOperands hP hl hr)
  | choice pos middle _ _ ihLeft ihRight =>
    simp only [List.forall_mem_append, List.forall_mem_cons] at hps
    obtain ⟨hps, hmiddle, hqs⟩ := hps
    refine (ihLeft hps).bind fun l hl => (ihRight hqs).bind fun r hr =>
      Parsed.Has.bind hmiddle fun m hm => ?_
    exact .ok (.around hP rfl (by simpa [Node.children] using ⟨hl, hm, hr⟩))

theorem has_throughout_toTree {ps : List Piece} (hps : ∀ p ∈ ps, p.Throughout P) :
    (toTree ps).Has (Node.Throughout P) := by
  obtain ⟨used, hused, hgroups⟩ := exists_groups_toTree ps
  exact hgroups.has_throughout hP fun p hp => hps p (hused.subset hp)

end Piece

/-! ## Tokens -/

namespace Token

variable {P : Node → Prop} {t : Token} {ts : List Token} {limit depth : Nat}

/-- What the token stands for, at any depth, has the property throughout. -/
def Grows (P : Node → Prop) (t : Token) : Prop :=
  ∀ limit depth, (t.build limit depth).Has (Node.Throughout P)

theorem Grows.leaf (hr : t.rule.isWord = true)
    (ht : ∀ limit depth, (t.build limit depth).Has P) : t.Grows P := fun limit depth n hn =>
  .leaf (ht limit depth n hn) (has_children_nil hr limit depth n hn)

theorem Grows.has_all (hts : ∀ t ∈ ts, t.Grows P) :
    (buildAll limit depth ts).Has fun ns => ∀ n ∈ ns, n.Throughout P :=
  has_buildAll fun t ht => hts t ht limit depth

theorem Grows.has_first {pos : Position} (hts : ∀ t ∈ ts, t.Grows P) :
    (buildFirst limit depth pos ts).Has (Node.Throughout P) := by
  cases ts with
  | nil => exact .error
  | cons t ts => exact hts t List.mem_cons_self limit depth

theorem throughout_pieces (hts : ∀ t ∈ ts, t.Grows P)
    (hinner : ∀ t ∈ ts, ∀ u ∈ t.inner, u.Grows P) :
    ∀ p ∈ pieces limit depth ts, p.Throughout P := by
  induction ts with
  | nil => simp [pieces]
  | cons t ts ih =>
    rw [List.forall_mem_cons] at hts hinner
    have hfirst : (t.buildInnerFirst limit depth).Has (Node.Throughout P) := by
      obtain ⟨r, k, len, inner⟩ := t
      exact Grows.has_first hinner.1
    have hall : (t.buildInner limit depth).Has fun ns => ∀ n ∈ ns, n.Throughout P := by
      obtain ⟨r, k, len, inner⟩ := t
      exact Grows.has_all hinner.1
    rw [pieces, List.forall_mem_cons]
    refine ⟨?_, ih hts.2 hinner.2⟩
    split
    · exact trivial
    · exact hfirst
    · exact trivial
    · exact hfirst.map fun key hkey => hkey
    · exact hfirst.map fun key hkey => hkey
    · exact hall
    · exact hts.1 limit depth

/-- What holds of the leaves of a text, and of other nodes by their kind, holds throughout the
trees of its tokens. -/
theorem Descends.grows (hP : ∀ n : Node, n.kind.isLeaf = false → P n)
    (hleaf : ∀ u : Token, u.Descends productions → u.rule.isWord = true →
      ∀ limit depth, (u.build limit depth).Has P)
    (ht : t.Descends productions) : t.Grows P ∧ ∀ u ∈ t.inner, u.Grows P := by
  induction ht with
  | @mk p d sp k k' ts hp hacc hdescends ih =>
    have hinner : ∀ u ∈ ts.reverse, u.Grows P := fun u hu => (ih u (List.mem_reverse.mp hu)).1
    have hinside : ∀ t ∈ ts.reverse, ∀ u ∈ t.inner, u.Grows P :=
      fun t ht => (ih t (List.mem_reverse.mp ht)).2
    refine ⟨?_, hinner⟩
    cases hword : p.rule.isWord with
    | true => exact .leaf hword (hleaf _ (.mk hp hacc hdescends) hword)
    | false =>
      intro limit depth
      generalize p.rule = r at hword ⊢
      generalize ts.reverse = inner at hinner hinside ⊢
      cases r with
      | program | grouped | computedKey | templateHole =>
        rw [build]
        exact Grows.has_first hinner
      | statements =>
        rw [build]
        refine (Grows.has_all hinner).bind fun ns hns => ?_
        split
        · next n => exact .ok (hns n (List.mem_singleton_self n))
        · exact .ok (.around hP rfl hns)
      | assignment | objectItem =>
        rw [build]
        refine (Grows.has_all hinner).bind fun ns hns => ?_
        split
        · exact .ok (.around hP rfl hns)
        · exact .error
      | array | object | template =>
        rw [build]
        exact (Grows.has_all hinner).bind fun ns hns => .ok (.around hP rfl hns)
      | expression =>
        rw [build]
        split
        · exact .error
        · exact Piece.has_throughout_toTree hP (throughout_pieces hinner hinside)
      | number | string | templateText | regexp | literal | «variable» | identifier | name =>
        cases hword
      | _ => exact .error

end Token

/-! ## Leaves as texts have them -/

/-- A leaf as the tokens of a text give it: names and regular expressions on one line, numbers that
are numbers, and the values that keywords name. -/
def Node.Lexical : Node → Prop
  | .identifier _ name | .var _ name => '\n' ∉ name.toList
  | .regexp _ r => '\n' ∉ r.source.toList
  | .number _ x => x.isNaN = false
  | .literal _ v => ∃ s, Token.keywordValue? s = some v
  | _ => True

theorem mem_of_mem_unescapeSlashes {c : Char} {l : List Char} (h : c ∈ unescapeSlashes l) :
    c ∈ l := by
  fun_induction unescapeSlashes l with
  | case1 rest ih =>
    rw [List.mem_cons] at h
    exact List.mem_cons_of_mem _ (List.mem_cons.mpr (h.imp_right ih))
  | case2 d rest _ ih =>
    simp only [List.mem_cons] at h ⊢
    exact h.imp_right (Or.imp_right ih)
  | case3 d rest _ _ ih =>
    rw [List.mem_cons] at h ⊢
    exact h.imp_right ih
  | case4 => exact h

namespace Token

variable {t : Token}

theorem isNaN_of_literalOf {w : List Char} {x : Float} (h : LiteralOf w x) : x.isNaN = false := by
  cases h with
  | decimal hread => exact Binary.isNaN_of_isMagnitude (isMagnitude_readDecimal hread)
  | radix hb => exact Binary.isNaN_of_isMagnitude (isMagnitude_accumulateRadix hb _)

/-- A token that gives a leaf gives one as texts have them. -/
theorem Descends.lexical (ht : t.Descends productions) (hr : t.rule.isWord = true)
    (limit depth : Nat) : (t.build limit depth).Has Node.Lexical := by
  have hname := ht.newline_notMem_name
  have hbody := ht.newline_notMem_body
  have hnumber := ht.number
  obtain ⟨r, k, len, inner⟩ := t
  cases r with
  | number =>
    obtain ⟨m, hinner, hliteral⟩ := hnumber rfl
    have hmagnitude := isNaN_of_literalOf hliteral
    rw [build, numberNode, hinner]
    dsimp only
    refine .ok ?_
    simp only [Node.Lexical]
    split
    · rw [Binary.isNaN_neg, hmagnitude]
    · exact hmagnitude
  | string =>
    rw [build, stringNode]
    split
    · exact .ok trivial
    · exact .error
  | templateText =>
    rw [build, templateTextNode]
    split
    · exact .ok trivial
    · exact .error
  | regexp =>
    obtain ⟨body, flags, hinner, hline⟩ := hbody rfl
    rw [build, regexpNode, hinner]
    dsimp only
    split
    · next hr =>
      refine .ok ?_
      show '\n' ∉ (RegExp.source _).toList
      rw [(RegExp.compile_eq_ok hr).1, String.toList_ofList]
      exact fun h => hline (mem_of_mem_unescapeSlashes h)
    · exact .error
  | literal =>
    rw [build, literalNode]
    split
    · next v hv => exact .ok ⟨_, hv⟩
    · exact .error
  | «variable» | identifier | name =>
    rw [build]
    refine .ok ?_
    show '\n' ∉ (Token.text _).toList
    rw [Token.text, String.toList_ofList]
    exact hname (by simp [rule])
  | _ => cases hr

end Token

/-- Every leaf in the tree of a text is as texts have them. -/
theorem lexical_of_parse {limit : Nat} {source : String} {tree : Node}
    (h : parseWithin limit source = .ok tree) : tree.Throughout Node.Lexical := by
  have hother : ∀ n : Node, n.kind.isLeaf = false → n.Lexical := by
    intro n hn
    cases n <;> trivial
  unfold parseWithin at h
  dsimp only at h
  split at h
  · cases h
  · cases ht : tokenOf source.toList with
    | error e =>
      rw [ht] at h
      cases h
    | ok t =>
      rw [ht] at h
      exact ((descends_of_tokenOf ht).grows hother fun u => Token.Descends.lexical).1 limit 0
        tree h

end ExprLang
