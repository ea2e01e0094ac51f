import ExprLang.Proofs.Eval.Tracing
import ExprLang.Proofs.Grammar.Shapes
import ExprLang.Proofs.Tree.Tokens

/-!
# ExprLang.Proofs.Tree.Height

How deep the tree of a text can be.

An expression reserves a level of depth for itself and one for each of its operators and calls.  Each
of these adds two nodes at most to what lies inside one another, a node of its own and a selection on
top of it, and what is inside the brackets of the expression begins three nodes further down for each
level that is left (`Rule.height`).  So the limit on the depth bounds the tree, however long the text
is.
-/

namespace ExprLang

namespace Node

/-- At most so many nodes lie inside one another. -/
def Shallow : (height : Nat) → Node → Prop
  | 0, _ => False
  | height + 1, n => ∀ c ∈ n.children, c.Shallow height

variable {h h' : Nat} {n : Node}

theorem Shallow.pos (hn : n.Shallow h) : 0 < h := by
  cases h with
  | zero => exact hn.elim
  | succ h => exact Nat.succ_pos h

theorem Shallow.mono (hn : n.Shallow h) (hle : h ≤ h') : n.Shallow h' := by
  induction h generalizing n h' with
  | zero => exact hn.elim
  | succ h ih =>
    obtain ⟨k, rfl⟩ := Nat.exists_eq_add_of_le' (Nat.le_trans (Nat.le_add_left 1 h) hle)
    exact fun c hc => ih (hn c hc) (by omega)

/-- A node with nothing inside. -/
theorem Shallow.leaf (hn : n.children = []) : n.Shallow 1 := by
  rw [Shallow, hn]
  simp

/-- The nodes on a path downwards are no more than the height. -/
theorem shallow_iff : n.Shallow h ↔
    ∀ path : List Node, (n :: path).IsChain (fun a b => b ∈ a.children) → path.length < h := by
  induction h generalizing n with
  | zero =>
    exact ⟨fun hn => hn.elim, fun hpaths => absurd (hpaths [] (.singleton n)) (Nat.not_lt_zero _)⟩
  | succ h ih =>
    constructor
    · intro hn path hpath
      cases path with
      | nil => exact Nat.succ_pos h
      | cons c path =>
        obtain ⟨hc, hpath⟩ := List.isChain_cons_cons.mp hpath
        exact Nat.succ_lt_succ (ih.mp (hn c hc) path hpath)
    · intro hpaths c hc
      exact ih.mpr fun path hpath =>
        Nat.lt_of_succ_lt_succ (hpaths (c :: path) (List.isChain_cons_cons.mpr ⟨hc, hpath⟩))

instance decidableShallow : (h : Nat) → (n : Node) → Decidable (n.Shallow h)
  | 0, _ => .isFalse id
  | h + 1, n =>
    have : DecidablePred (Shallow h) := decidableShallow h
    inferInstanceAs (Decidable (∀ c ∈ n.children, c.Shallow h))

end Node

/-! ## Events -/

/-- No event is deeper than the nodes are. -/
theorem Visits.depth_lt {ns : List Node} {depth h : Nat} {es : List Event} (hes : Visits ns depth es)
    (hns : ∀ n ∈ ns, n.Shallow h) : ∀ e ∈ es, e.depth < depth + h := by
  induction hes generalizing h with
  | nil => simp
  | skip _ ih => exact ih fun n hn => hns n (List.mem_cons_of_mem _ hn)
  | @take n ns depth inner es summary _ _ ihInner ih =>
    rw [List.forall_mem_cons] at hns
    obtain ⟨hn, hns⟩ := hns
    cases h with
    | zero => exact hn.elim
    | succ h =>
      have hpos : depth < depth + (h + 1) := Nat.lt_add_of_pos_right (Nat.succ_pos h)
      refine List.forall_mem_cons.mpr ⟨hpos, List.forall_mem_append.mpr
        ⟨fun e he => ?_, List.forall_mem_cons.mpr ⟨hpos, ih hns⟩⟩⟩
      have hinner := ihInner hn e he
      omega

theorem Node.Traced.depth_lt {n : Node} {depth h : Nat} {es : List Event} (hes : n.Traced depth es)
    (hn : n.Shallow h) : ∀ e ∈ es, e.depth < depth + h := by
  have hvisits : Visits [n] depth es := by simpa using Visits.append_traced hes .nil
  exact hvisits.depth_lt (by simpa using hn)

/-- No node of a tree is evaluated deeper than it lies. -/
theorem Node.Shallow.depth_lt {σ : Type} {tree : Node} {h : Nat} (htree : tree.Shallow h)
    (s : Surroundings σ) (state : Bag) (host : σ) :
    ∀ events ∈ (tree.evaluate s ⟨state, host, some #[]⟩).2.events,
      ∀ e ∈ events.toList, e.depth < h := by
  obtain ⟨result, state', host', es, hrun, hes⟩ := tree.exists_evaluate s state host
  rw [hrun]
  simp only [Option.map_some, Option.mem_def, Option.some.injEq, forall_eq']
  intro e he
  have he : e ∈ es := by simpa using he
  cases result with
  | ok v => simpa using hes.depth_lt htree e he
  | error f =>
    obtain ⟨path, hbroken⟩ := hes
    obtain ⟨rest, htraced⟩ := hbroken.complete
    simpa using htraced.depth_lt htree e (List.mem_append_left rest he)

/-! ## Flat expressions -/

/-- What was parsed, if anything was, has the property. -/
def Parsed.Has {α : Type} (P : α → Prop) (x : Parsed α) : Prop := ∀ a, x = .ok a → P a

namespace Parsed.Has

variable {α β : Type} {P : α → Prop} {Q : β → Prop} {x : Parsed α}

theorem error {e : ParseError} : Parsed.Has P (.error e) := fun _ h => by cases h

theorem ok {a : α} (h : P a) : Parsed.Has P (.ok a) := by
  rintro _ ⟨⟩
  exact h

theorem bind {f : α → Parsed β} (h : Parsed.Has P x) (hf : ∀ a, P a → Parsed.Has Q (f a)) :
    Parsed.Has Q (x >>= f) := by
  cases x with
  | ok a => exact hf a (h a rfl)
  | error e => exact error

theorem map {f : α → β} (h : Parsed.Has P x) (hf : ∀ a, P a → Q (f a)) :
    Parsed.Has Q (x.map f) := by
  cases x with
  | ok a => exact ok (hf a (h a rfl))
  | error e => exact error

end Parsed.Has

/-- What an operand of the height comes to with the steps after it: these make a selection of it,
one node higher, but no more than that. -/
def Node.Low (h : Nat) (n : Node) : Prop := n.Shallow (h + 1) ∧ (n.kind ≠ .select → n.Shallow h)

namespace Piece

/-- What is in the piece is of the height. -/
def Low (h : Nat) : Piece → Prop
  | .operand n => n.Has (Node.Shallow h)
  | .unary _ _ | .between _ _ => True
  | .step s => s.Has fun s => s.key.Shallow h
  | .call _ args _ => args.Has fun ns => ∀ n ∈ ns, n.Shallow h
  | .choice _ middle => middle.Has (Node.Shallow h)

/-- Whether the piece adds a level. -/
def addsLevel : Piece → Bool
  | .unary _ _ | .between _ _ | .call _ _ _ | .choice _ _ => true
  | .operand _ | .step _ => false

/-- An operand of the height with one level more for each of some pieces. -/
abbrev Grown (h count : Nat) (x : Parsed Node) : Prop := x.Has (Node.Low (h + 2 * count))

end Piece

namespace Node.Low

variable {h h' : Nat} {n : Node}

theorem of_shallow (hn : n.Shallow h) : n.Low h := ⟨hn.mono (Nat.le_succ h), fun _ => hn⟩

theorem mono (hn : n.Low h) (hle : h ≤ h') : n.Low h' :=
  ⟨hn.1.mono (Nat.succ_le_succ hle), fun hkind => (hn.2 hkind).mono hle⟩

/-- A node around operands. -/
theorem around {n : Node} (hn : ∀ c ∈ n.children, c.Low h) : n.Low (h + 2) :=
  .of_shallow fun c hc => (hn c hc).1

/-- A step makes a selection of an operand, and joins one that is there. -/
theorem addStep {s : Step Node} (hn : n.Low h) (hs : s.key.Shallow h) :
    (Piece.addStep n s).Low h := by
  have hbegin : n.kind ≠ .select → (Node.select n.position n [s]).Low h := fun hkind =>
    ⟨by simpa [Shallow, children] using ⟨hn.2 hkind, hs⟩, by simp [kind]⟩
  cases n with
  | select pos base steps =>
    refine ⟨?_, by simp [Piece.addStep, kind]⟩
    have hchildren : ∀ c ∈ base :: steps.map Step.key, c.Shallow h := hn.1
    rw [List.forall_mem_cons] at hchildren
    have hkeys : ∀ c ∈ (steps ++ [s]).map Step.key, c.Shallow h := by
      rw [List.map_append, List.forall_mem_append]
      exact ⟨hchildren.2, by simpa using hs⟩
    exact List.forall_mem_cons.mpr ⟨hchildren.1, hkeys⟩
  | _ => exact hbegin (by simp [kind])

theorem joinOperands {pos : Position} {op : InfixOp} {a b : Node} (ha : a.Low h) (hb : b.Low h) :
    (Piece.joinOperands pos op a b).Low (h + 2) := by
  cases op <;> exact around (by simpa [Piece.joinOperands, children] using ⟨ha, hb⟩)

end Node.Low

namespace Piece

variable {h : Nat}

/-- A node with two operands. -/
theorem Grown.join {count count' : Nat} {left right : Parsed Node} {f : Node → Node → Parsed Node}
    (hleft : Grown h count left) (hright : Grown h count' right)
    (hf : ∀ l r, l.Low (h + 2 * (count + count')) → r.Low (h + 2 * (count + count')) →
      Grown h (count + count' + 1) (f l r)) :
    Grown h (count + count' + 1) (do f (← left) (← right)) :=
  hleft.bind fun l hl => hright.bind fun r hr => hf l r (hl.mono (by omega)) (hr.mono (by omega))

/-- Grouping adds two nodes at most for each piece that adds a level. -/
theorem Groups.grown {ps : List Piece} {n : Parsed Node} (hgroups : Groups ps n)
    (hps : ∀ p ∈ ps, p.Low h) : Grown h (ps.countP addsLevel) n := by
  induction hgroups with
  | malformed => exact .error
  | operand n => exact fun a ha => .of_shallow (hps _ (List.mem_singleton_self _) a ha)
  | unary pos op _ ih =>
    rw [List.countP_cons_of_pos rfl]
    exact (ih (List.forall_mem_cons.mp hps).2).map fun n hn =>
      .around (by simpa [Node.children] using hn)
  | step s _ ih =>
    simp only [List.forall_mem_append, List.forall_mem_singleton] at hps
    rw [List.countP_append, List.countP_cons_of_neg (by simp [addsLevel])]
    exact (ih hps.1).bind fun l hl => Parsed.Has.bind hps.2 fun s hs =>
      .ok (hl.addStep (hs.mono (Nat.le_add_right _ _)))
  | call pos args optional _ ih =>
    simp only [List.forall_mem_append, List.forall_mem_singleton] at hps
    rw [List.countP_append, List.countP_cons_of_pos rfl]
    exact (ih hps.1).bind fun l hl => Parsed.Has.bind hps.2 fun ns hns => .ok <| .around <|
      List.forall_mem_cons.mpr ⟨hl, fun n hn =>
        .of_shallow ((hns n hn).mono (Nat.le_add_right _ _))⟩
  | between pos op _ _ ihLeft ihRight =>
    simp only [List.forall_mem_append, List.forall_mem_cons] at hps
    rw [List.countP_append, List.countP_cons_of_pos rfl]
    exact (ihLeft hps.1).join (ihRight hps.2.2) fun l r hl hr => .ok (hl.joinOperands hr)
  | @choice ps qs _ _ pos middle _ _ ihLeft ihRight =>
    simp only [List.forall_mem_append, List.forall_mem_cons] at hps
    obtain ⟨hps, hmiddle, hqs⟩ := hps
    rw [List.countP_append, List.countP_cons_of_pos rfl]
    refine (ihLeft hps).join (ihRight hqs) fun l r hl hr => Parsed.Has.bind hmiddle fun m hm =>
      .ok (.around ?_)
    have hm : m.Low (h + 2 * (ps.countP addsLevel + qs.countP addsLevel)) :=
      .of_shallow (hm.mono (Nat.le_add_right _ _))
    simpa [Node.children] using ⟨hl, hm, hr⟩

theorem has_toTree {ps : List Piece} (hps : ∀ p ∈ ps, p.Low h) :
    (toTree ps).Has (Node.Shallow (h + 2 * ps.countP addsLevel + 1)) := by
  obtain ⟨used, hused, hgroups⟩ := exists_groups_toTree ps
  have hgrown := hgroups.grown fun p hp => hps p (hused.subset hp)
  have hcount := hused.sublist.countP_le (p := addsLevel)
  exact fun n hn => (hgrown n hn).1.mono (by omega)

end Piece

/-! ## Tokens -/

/-- The height of what a token of a rule stands for, where so many levels of depth are left. -/
def Rule.height (room : Nat) : Rule → Nat
  | .expression | .grouped | .computedKey | .templateHole => 3 * room
  | .assignment | .objectItem => 3 * room + 1
  | .program | .statements | .array | .object | .template => 3 * room + 2
  | _ => 1

theorem Rule.height_le (room : Nat) (r : Rule) : r.height room ≤ 3 * room + 2 := by
  cases r <;> simp only [height] <;> omega

namespace Token

/-- A word stands for a node with nothing inside. -/
theorem has_children_nil {t : Token} (ht : t.rule.isWord = true) (limit depth : Nat) :
    (t.build limit depth).Has fun n => n.children = [] := by
  cases hliteral : t.rule.isLiteral with
  | true =>
    rw [build_of_isLiteral hliteral]
    obtain ⟨n, hn, -, hkind⟩ | ⟨e, he, -⟩ := t.literalBuild_cases
    · rw [hn]
      refine .ok ?_
      cases n with
      | number | string | regexp | literal => rfl
      | _ => simp [Node.kind] at hkind
    · rw [he]
      exact .error
  | false =>
    obtain ⟨r, k, len, inner⟩ := t
    cases r with
    | «variable» | identifier | name => exact .ok rfl
    | number | string | templateText | regexp | literal => cases hliteral
    | _ => cases ht

/-- What the token stands for is of the height of its rule, at every depth. -/
def Low (t : Token) : Prop :=
  ∀ limit depth, (t.build limit depth).Has (Node.Shallow (t.rule.height (limit - depth)))

theorem Low.as {t : Token} {r : Rule} {limit depth : Nat} (ht : t.Low) (hr : t.rule = r) :
    (t.build limit depth).Has (Node.Shallow (r.height (limit - depth))) :=
  hr ▸ ht limit depth

variable {limit depth h : Nat}

theorem has_buildAll {Q : Node → Prop} {ts : List Token}
    (hts : ∀ t ∈ ts, (t.build limit depth).Has Q) :
    (buildAll limit depth ts).Has fun ns => ∀ n ∈ ns, Q n := by
  induction ts with
  | nil => exact .ok (by simp)
  | cons t ts ih =>
    rw [List.forall_mem_cons] at hts
    rw [buildAll]
    exact hts.1.bind fun n hn => (ih hts.2).bind fun ns hns =>
      .ok (List.forall_mem_cons.mpr ⟨hn, hns⟩)

theorem low_piece {t : Token} (ht : t.Low) (hinner : ∀ u ∈ t.inner, u.Low) :
    ∀ p ∈ pieces limit depth [t], p.Low (3 * (limit - depth) + 2) := by
  have hbuild : ∀ u : Token, u.Low →
      (u.build limit depth).Has (Node.Shallow (3 * (limit - depth) + 2)) :=
    fun u hu n hn => (hu limit depth n hn).mono (Rule.height_le _ _)
  have hfirst : (t.buildInnerFirst limit depth).Has (Node.Shallow (3 * (limit - depth) + 2)) := by
    obtain ⟨r, k, len, inner⟩ := t
    cases inner with
    | nil => exact .error
    | cons u us => exact hbuild u (hinner u List.mem_cons_self)
  have hall : (t.buildInner limit depth).Has
      fun ns => ∀ n ∈ ns, n.Shallow (3 * (limit - depth) + 2) := by
    obtain ⟨r, k, len, inner⟩ := t
    exact has_buildAll fun u hu => hbuild u (hinner u hu)
  simp only [pieces, List.mem_singleton, forall_eq]
  split
  · exact trivial
  · exact hfirst
  · exact trivial
  · exact hfirst.map fun key hkey => hkey
  · exact hfirst.map fun key hkey => hkey
  · exact hall
  · exact hbuild t ht

theorem low_pieces {ts : List Token} (hts : ∀ t ∈ ts, t.Low)
    (hinner : ∀ t ∈ ts, ∀ u ∈ t.inner, u.Low) :
    ∀ p ∈ pieces limit depth ts, p.Low (3 * (limit - depth) + 2) := by
  induction ts with
  | nil => simp [pieces]
  | cons t ts ih =>
    rw [List.forall_mem_cons] at hts hinner
    rw [← List.singleton_append, pieces_append, List.forall_mem_append]
    exact ⟨low_piece hts.1 hinner.1, ih hts.2 hinner.2⟩

/-- The pieces that add a level are those of the tokens that do. -/
theorem countP_pieces (ts : List Token) :
    (pieces limit depth ts).countP Piece.addsLevel = ts.countP addsLevel := by
  induction ts with
  | nil => rfl
  | cons t ts ih =>
    rw [pieces, List.countP_cons, List.countP_cons, ih]
    congr 2
    rw [addsLevel]
    split <;> simp_all [Piece.addsLevel]

section Inside

variable {k : Cursor} {len : Nat} {inner : List Token} (hinner : ∀ u ∈ inner, u.Low)
include hinner

/-- What stands for the first token inside. -/
theorem low_first {r q : Rule} {rs : List Rule} (hrules : inner.map rule = q :: rs)
    (hbuild : ∀ limit depth, (Token.mk r k len inner).build limit depth =
      buildFirst limit depth k.position inner) (hheight : ∀ room, q.height room = r.height room) :
    (Token.mk r k len inner).Low := by
  intro limit depth
  obtain ⟨u, us, rfl, hu, -⟩ := List.map_eq_cons_iff.mp hrules
  rw [hbuild]
  exact fun n hn => hheight (limit - depth) ▸ (hinner u List.mem_cons_self).as hu n hn

/-- What the tokens inside stand for, where no rule of theirs allows for more than a height. -/
theorem has_inner (hheight : ∀ r ∈ inner.map rule, r.height (limit - depth) ≤ h) :
    (buildAll limit depth inner).Has fun ns => ∀ n ∈ ns, n.Shallow h :=
  has_buildAll fun u hu n hn =>
    (hinner u hu limit depth n hn).mono (hheight u.rule (List.mem_map_of_mem hu))

/-- A node with any number of nodes inside. -/
theorem low_all {r : Rule} {f : List Node → Node}
    (hbuild : ∀ limit depth, (Token.mk r k len inner).build limit depth =
      buildAll limit depth inner >>= fun ns => pure (f ns)) (hf : ∀ ns, (f ns).children = ns)
    (hheight : ∀ room, ∀ q ∈ inner.map rule, q.height room + 1 ≤ r.height room)
    (hpos : ∀ room, 0 < r.height room) : (Token.mk r k len inner).Low := by
  intro limit depth
  obtain ⟨h, hh⟩ := Nat.exists_eq_add_one_of_ne_zero (hpos (limit - depth)).ne'
  have hall : (buildAll limit depth inner).Has fun ns => ∀ n ∈ ns, n.Shallow h := by
    refine has_inner hinner fun q hq => ?_
    have hle := hheight (limit - depth) q hq
    omega
  rw [hbuild]
  refine hall.bind fun ns hns => .ok ?_
  rw [rule, hh]
  exact fun c hc => hns c (hf ns ▸ hc)

end Inside

/-- A pair of tokens, the second of which is an expression. -/
theorem has_buildAll_pair {u v : Token} (hu : u.Low) (hv : v.Low) (hvalue : v.rule = .expression)
    (hkey : ∀ room, 0 < room → u.rule.height room ≤ 3 * room) :
    (buildAll limit depth [u, v]).Has fun ns => ∃ a b, ns = [a, b] ∧
      a.Shallow (3 * (limit - depth)) ∧ b.Shallow (3 * (limit - depth)) := by
  rw [buildAll, buildAll, buildAll]
  refine (hu limit depth).bind fun a ha => Parsed.Has.bind ((hv.as hvalue).bind (Q := fun ns =>
    ∃ b, ns = [b] ∧ b.Shallow (3 * (limit - depth))) fun b hb => .ok ⟨b, rfl, hb⟩) ?_
  rintro ns ⟨b, rfl, hb⟩
  -- an expression needs room
  have hroom := hb.pos
  exact .ok ⟨a, b, rfl, ha.mono (hkey _ (by omega)), hb⟩

/-- Each level that an expression reserves makes room for three nodes. -/
theorem low_expression {k : Cursor} {len : Nat} {inner : List Token} (hinner : ∀ t ∈ inner, t.Low)
    (hinside : ∀ t ∈ inner, ∀ u ∈ t.inner, u.Low) :
    (Token.mk .expression k len inner).Low := by
  intro limit depth
  rw [build]
  split
  · exact .error
  · next hroom =>
    intro n hn
    have htree := Piece.has_toTree (low_pieces hinner hinside) n hn
    rw [countP_pieces] at htree
    refine htree.mono ?_
    rw [levels] at hroom ⊢
    simp only [rule, Rule.height]
    omega

/-- What a token of the text stands for is of the height of its rule, and so is what the tokens inside
it stand for. -/
theorem Formed.low {source : List Char} {t : Token} (ht : t.Formed source) :
    t.Low ∧ ∀ u ∈ t.inner, u.Low := by
  induction ht with
  | mk place fits inside ih =>
    rename_i r k len inner
    have hinner : ∀ u ∈ inner, u.Low := fun u hu => (ih u hu).1
    have hrules := fits.inner
    refine ⟨?_, hinner⟩
    cases r with
    | program => exact low_first hinner hrules (fun _ _ => by rw [build]) fun _ => rfl
    | grouped | computedKey | templateHole =>
      exact low_first hinner hrules (fun _ _ => by rw [build]) fun _ => rfl
    | statements =>
      intro limit depth
      rw [build]
      refine (has_inner hinner (h := 3 * (limit - depth) + 1) fun q hq => ?_).bind fun ns hns => ?_
      · rcases hrules.2 q hq with rfl | rfl <;> simp [Rule.height]
      · split
        · next n => exact .ok ((hns n (List.mem_singleton_self n)).mono (Nat.le_succ _))
        · exact .ok hns
    | assignment =>
      obtain ⟨u, us, rfl, hu, hus⟩ := List.map_eq_cons_iff.mp hrules
      obtain ⟨v, rfl, hv⟩ := List.map_eq_singleton_iff.mp hus
      intro limit depth
      rw [build]
      refine (has_buildAll_pair (hinner u (by simp)) (hinner v (by simp)) hv
        fun room hroom => ?_).bind ?_
      · rw [hu]
        exact Nat.mul_pos (by decide) hroom
      · rintro ns ⟨a, b, rfl, ha, hb⟩
        exact .ok (by simpa [rule, Rule.height, Node.Shallow, Node.children] using ⟨ha, hb⟩)
    | objectItem =>
      obtain ⟨q, hkey, hrules⟩ := hrules
      obtain ⟨u, us, rfl, hu, hus⟩ := List.map_eq_cons_iff.mp hrules
      obtain ⟨v, rfl, hv⟩ := List.map_eq_singleton_iff.mp hus
      intro limit depth
      rw [build]
      refine (has_buildAll_pair (hinner u (by simp)) (hinner v (by simp)) hv
        fun room hroom => ?_).bind ?_
      · rw [hu]
        cases q with
        | computedKey => exact Nat.le_refl _
        | string | number | name => exact Nat.mul_pos (by decide) hroom
        | _ => cases hkey
      · rintro ns ⟨a, b, rfl, ha, hb⟩
        exact .ok (by simpa [rule, Rule.height, Node.Shallow, Node.children] using ⟨ha, hb⟩)
    | expression => exact low_expression hinner fun u hu => (ih u hu).2
    | array =>
      refine low_all hinner (fun _ _ => by rw [build]) (fun _ => rfl) (fun room q hq => ?_)
        fun _ => Nat.succ_pos _
      rw [hrules q hq, Rule.height, Rule.height]
      omega
    | object =>
      refine low_all hinner (fun _ _ => by rw [build]) (fun _ => rfl) (fun room q hq => ?_)
        fun _ => Nat.succ_pos _
      rw [hrules q hq, Rule.height, Rule.height]
    | template =>
      refine low_all hinner (fun _ _ => by rw [build]) (fun _ => rfl) (fun room q hq => ?_)
        fun _ => Nat.succ_pos _
      rcases hrules q hq with rfl | rfl <;> simp only [Rule.height] <;> omega
    | number | string | templateText | regexp | literal | «variable» | identifier | name =>
      exact fun limit depth n hn => .leaf (has_children_nil rfl limit depth n hn)
    | _ => exact fun _ _ => .error

end Token

/-! ## Texts -/

/-- The limit on the depth bounds the height of the tree. -/
theorem shallow_of_parseWithin {limit : Nat} {source : String} {tree : Node}
    (h : parseWithin limit source = .ok tree) : tree.Shallow (3 * limit + 2) := by
  unfold parseWithin at h
  dsimp only at h
  split at h
  · cases h
  · cases ht : tokenOf source.toList with
    | error e =>
      rw [ht] at h
      cases h
    | ok t =>
      rw [ht] at h
      obtain ⟨hformed, hrule⟩ := formed_of_tokenOf ht
      exact hformed.low.1.as hrule tree h

/-- However long a text is, its tree has no more than `3 * limit + 2` nodes on a path downwards from
the root, and no evaluation of it goes deeper. -/
theorem parseWithin_bounds_depth {limit : Nat} {source : String} {tree : Node}
    (h : parseWithin limit source = .ok tree) :
    (∀ path : List Node, path.head? = some tree → path.IsChain (fun m n => n ∈ m.children) →
      path.length ≤ 3 * limit + 2) ∧
    ∀ (σ : Type) (s : Surroundings σ) (state : Bag) (host : σ),
      ∀ events ∈ (tree.evaluate s ⟨state, host, some #[]⟩).2.events,
        ∀ e ∈ events.toList, e.depth < 3 * limit + 2 := by
  have htree := shallow_of_parseWithin h
  refine ⟨fun path hhead hpath => ?_, fun σ s state host => htree.depth_lt s state host⟩
  obtain ⟨path, rfl⟩ := List.head?_eq_some_iff.mp hhead
  exact Node.shallow_iff.mp htree path hpath

/-- The bound is reached: a sequence, an assignment, a selection, a template and its text. -/
theorem parseWithin_bounds_depth_reached :
    ∃ tree, parseWithin 1 "x = `a`.b; y" = .ok tree ∧ ∃ path : List Node, path.head? = some tree ∧
      path.IsChain (fun m n => n ∈ m.children) ∧ path.length = 3 * 1 + 2 := by
  have hcheck : ((parseWithin 1 "x = `a`.b; y").map fun tree =>
      decide (tree.Shallow 4)).toOption = some false := by decide +kernel
  cases htree : parseWithin 1 "x = `a`.b; y" with
  | error e =>
    rw [htree] at hcheck
    cases hcheck
  | ok tree =>
    rw [htree] at hcheck
    have hdeep : ¬ tree.Shallow 4 := by simpa [Except.map, Except.toOption] using hcheck
    rw [Node.shallow_iff, not_forall] at hdeep
    obtain ⟨path, hpath⟩ := hdeep
    obtain ⟨hchain, hlength⟩ := Classical.not_imp.mp hpath
    have hbound := (parseWithin_bounds_depth htree).1 (tree :: path) rfl hchain
    rw [List.length_cons] at hbound
    exact ⟨tree, rfl, tree :: path, rfl, hchain, by rw [List.length_cons]; omega⟩

end ExprLang
