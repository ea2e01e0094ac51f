import ExprLang.Proofs.Tree.Headlines

/-!
# ExprLang.Proofs.Tree.Outlines

An outline tells the tree.

What an outline leaves out is where the steps of a selection stand and which zero a number is;
`Node.canonical` is the tree without that.  The rest is read off the layout: a node's own line ends
at the first line feed, and what is inside it goes on as long as the lines are indented further
(`Outdented`).  So the outline of a tree, with anything behind it that is not indented further, is
read in one way only (`Node.told`), and outlines of texts are the same just if the trees are
(`outline_eq_iff`).
-/

namespace ExprLang

/-! ## What an outline tells -/

/-- A number, with one zero for both. -/
def unsignedZero (x : Float) : Float := if x == 0.0 then 0.0 else x

mutual

/-- The tree with its steps at the first place and its zeros without sign. -/
@[simp] def Node.canonical : Node → Node
  | .sequence p ns => .sequence p (canonicalAll ns)
  | .assignment p a b => .assignment p a.canonical b.canonical
  | .fallback p a b => .fallback p a.canonical b.canonical
  | .choice p a b c => .choice p a.canonical b.canonical c.canonical
  | .logical p op a b => .logical p op a.canonical b.canonical
  | .bitwise p op a b => .bitwise p op a.canonical b.canonical
  | .relational p op a b => .relational p op a.canonical b.canonical
  | .arithmetic p op a b => .arithmetic p op a.canonical b.canonical
  | .unary p op a => .unary p op a.canonical
  | .select p a steps => .select p a.canonical (canonicalSteps steps)
  | .call p a as optional => .call p a.canonical (canonicalAll as) optional
  | .identifier p w => .identifier p w
  | .var p w => .var p w
  | .array p ns => .array p (canonicalAll ns)
  | .object p ns => .object p (canonicalAll ns)
  | .item p a b => .item p a.canonical b.canonical
  | .template p ns => .template p (canonicalAll ns)
  | .string p s => .string p s
  | .regexp p r => .regexp p r
  | .number p x => .number p (unsignedZero x)
  | .literal p v => .literal p v

@[simp] def Node.canonicalAll : List Node → List Node
  | [] => []
  | n :: ns => n.canonical :: canonicalAll ns

@[simp] def Node.canonicalSteps : List (Step Node) → List (Step Node)
  | [] => []
  | s :: ss => canonicalStep s :: canonicalSteps ss

@[simp] def Node.canonicalStep : Step Node → Step Node
  | ⟨key, optional, _⟩ => ⟨key.canonical, optional, .first⟩

end

theorem formatNumber_unsignedZero (x : Float) : formatNumber (unsignedZero x) = formatNumber x := by
  unfold unsignedZero
  split
  · next h => rcases Binary.eq_or_zero_of_beq h with rfl | ⟨rfl | rfl, -⟩ <;> decide
  · rfl

theorem unsignedZero_eq_of_formatNumber_eq {x y : Float} (h : formatNumber x = formatNumber y) :
    unsignedZero x = unsignedZero y := by
  rcases eq_or_zero_of_formatNumber_eq h with rfl | ⟨rfl | rfl, rfl | rfl⟩
  · rfl
  all_goals decide

namespace Node

variable {a b n : Node}

theorem canonicalAll_eq_map (ns : List Node) : canonicalAll ns = ns.map canonical := by
  induction ns with
  | nil => rw [canonicalAll, List.map_nil]
  | cons n ns ih => rw [canonicalAll, ih, List.map_cons]

theorem canonicalSteps_eq_map (ss : List (Step Node)) :
    canonicalSteps ss = ss.map fun s => ⟨s.key.canonical, s.optional, .first⟩ := by
  induction ss with
  | nil => rw [canonicalSteps, List.map_nil]
  | cons s ss ih => rw [canonicalSteps, ih, List.map_cons, canonicalStep]

/-- A step without its place is told from its key and its mark. -/
theorem canonicalSteps_eq_map_limbs (ss : List (Step Node)) : canonicalSteps ss =
    ((canonicalSteps ss).map fun s => (some s.optional, s.key)).map fun l =>
      ⟨l.2, l.1.getD false, .first⟩ := by
  rw [canonicalSteps_eq_map]
  simp [Function.comp_def]

@[simp] theorem kind_canonical (n : Node) : n.canonical.kind = n.kind := by
  cases n <;> rw [canonical] <;> rfl

@[simp] theorem position_canonical (n : Node) : n.canonical.position = n.position := by
  cases n <;> rw [canonical] <;> rfl

@[simp] theorem attribute_canonical (n : Node) : n.canonical.attribute = n.attribute := by
  cases n with
  | number p x =>
    rw [canonical, Node.attribute, formatNumber_unsignedZero]
    rfl
  | call p f as optional => cases optional <;> rw [canonical] <;> rfl
  | _ => rw [canonical] <;> rfl

/-- The line of a node does not tell which zero it is. -/
@[simp] theorem headline_canonical (n : Node) : n.canonical.headline = n.headline := by
  simp only [headline, kind_canonical, attribute_canonical, position_canonical]

/-! ## What is indented below a node -/

/-- What is below the line of a node: the nodes inside, and for a node in a step whether the step is
optional. -/
def limbs : Node → List (Option Bool × Node)
  | select _ base steps => (none, base) :: steps.map fun s => (some s.optional, s.key)
  | n => n.children.map (none, ·)

theorem map_snd_limbs (n : Node) : n.limbs.map Prod.snd = n.children := by
  cases n <;> simp [limbs, children, Function.comp_def]

theorem mem_children_of_mem_limbs {l : Option Bool × Node} (h : l ∈ n.limbs) : l.2 ∈ n.children :=
  map_snd_limbs n ▸ List.mem_map_of_mem h

theorem limbs_canonical (n : Node) :
    n.canonical.limbs = n.limbs.map fun l => (l.1, l.2.canonical) := by
  cases n <;> simp [canonical, limbs, children, canonicalAll_eq_map, canonicalSteps_eq_map]

/-- A node that a text can have is told from its line and what is below. -/
theorem canonical_eq (ha : a.Lexical) (hb : b.Lexical) (hline : a.headline = b.headline)
    (hlimbs : a.canonical.limbs = b.canonical.limbs) : a.canonical = b.canonical := by
  obtain ⟨hkind, hattribute, hposition⟩ := eq_of_headline_eq hline
  have hchildren : a.canonical.children = b.canonical.children := by
    rw [← map_snd_limbs, hlimbs, map_snd_limbs]
  have hmarked : ∀ {u v : String}, " " ++ u = " " ++ v → u = v := (String.append_right_inj " ").mp
  -- the kinds are the same; the attribute gives what a node carries itself, the rest is below
  cases a <;> cases b <;> cases hkind <;> cases hposition
  case sequence.sequence | array.array | object.object | template.template =>
    simp only [canonical, children] at hchildren ⊢
    rw [hchildren]
  case assignment.assignment | fallback.fallback | choice.choice | item.item =>
    simp only [canonical, children, List.cons.injEq] at hchildren ⊢
    simp only [hchildren]
  case logical.logical =>
    simp only [canonical, children, List.cons.injEq] at hchildren ⊢
    simp only [hchildren, LogicalOp.symbol_injective (hmarked hattribute)]
  case bitwise.bitwise =>
    simp only [canonical, children, List.cons.injEq] at hchildren ⊢
    simp only [hchildren, BitwiseOp.symbol_injective (hmarked hattribute)]
  case relational.relational =>
    simp only [canonical, children, List.cons.injEq] at hchildren ⊢
    simp only [hchildren, RelationalOp.symbol_injective (hmarked hattribute)]
  case arithmetic.arithmetic =>
    simp only [canonical, children, List.cons.injEq] at hchildren ⊢
    simp only [hchildren, ArithmeticOp.symbol_injective (hmarked hattribute)]
  case unary.unary =>
    simp only [canonical, children, List.cons.injEq] at hchildren ⊢
    simp only [hchildren, UnaryOp.symbol_injective (hmarked hattribute)]
  case select.select p base steps base' steps' =>
    simp only [canonical, limbs, List.cons.injEq, Prod.mk.injEq] at hlimbs ⊢
    obtain ⟨⟨-, hbase⟩, hsteps⟩ := hlimbs
    rw [hbase, canonicalSteps_eq_map_limbs steps, canonicalSteps_eq_map_limbs steps', hsteps]
  case call.call p f as o f' as' o' =>
    simp only [canonical, children, List.cons.injEq] at hchildren ⊢
    have hoptional : o = o' := by
      cases o <;> cases o' <;> first | rfl | exact absurd hattribute (by simp [Node.attribute])
    simp only [hchildren, hoptional]
  case identifier.identifier | var.var =>
    simp only [canonical, hmarked hattribute]
  case string.string => simp only [canonical, debugQuoted_injective (hmarked hattribute)]
  case regexp.regexp => simp only [canonical, RegExp.text_injective (hmarked hattribute)]
  case number.number =>
    simp only [canonical, unsignedZero_eq_of_formatNumber_eq (hmarked hattribute)]
  case literal.literal =>
    obtain ⟨w, hw⟩ := ha
    obtain ⟨w', hw'⟩ := hb
    have hdisplay := hmarked hattribute
    rw [Token.display_keywordValue? hw, Token.display_keywordValue? hw'] at hdisplay
    subst hdisplay
    rw [hw, Option.some.injEq] at hw'
    rw [hw']

end Node

/-! ## Outlines line by line -/

/-- What an outline says of what is below a node, at a depth. -/
def limbText (depth : Nat) : Option Bool × Node → List Char
  | (none, n) => (n.outlineAt depth).toList
  | (some optional, n) =>
    (outlineLine depth (if optional then "?." else ".")).toList ++ (n.outlineAt (depth + 1)).toList

theorem toList_outlineLine (depth : Nat) (text : String) : (outlineLine depth text).toList =
    List.replicate (2 * depth) ' ' ++ (text.toList ++ ['\n']) := by
  simp [outlineLine]

theorem toList_outlineNodes (depth : Nat) (ns : List Node) :
    (outlineNodes depth ns).toList = (ns.map (none, ·)).flatMap (limbText depth) := by
  induction ns with
  | nil => rfl
  | cons n ns ih =>
    rw [outlineNodes, String.toList_append, ih]
    rfl

theorem toList_outlineSteps (depth : Nat) (ss : List (Step Node)) :
    (outlineSteps depth ss).toList =
      (ss.map fun s => (some s.optional, s.key)).flatMap (limbText depth) := by
  induction ss with
  | nil => rfl
  | cons s ss ih =>
    obtain ⟨key, optional, p⟩ := s
    rw [outlineSteps, outlineStep, String.toList_append, String.toList_append, ih]
    rfl

/-- An outline is the line of the node and what is below it. -/
theorem toList_outlineAt (depth : Nat) (n : Node) : (n.outlineAt depth).toList =
    List.replicate (2 * depth) ' ' ++
      (n.headline.toList ++ '\n' :: n.limbs.flatMap (limbText (depth + 1))) := by
  cases n <;> simp [Node.outlineAt, toList_outlineLine, toList_outlineNodes, toList_outlineSteps,
    Node.limbs, Node.children, limbText]

theorem exists_limbText (depth : Nat) (l : Option Bool × Node) :
    ∃ c w, limbText depth l = List.replicate (2 * depth) ' ' ++ c :: w ∧ c ≠ ' ' := by
  obtain ⟨_ | optional, n⟩ := l
  · obtain ⟨c, w, hline, hc⟩ := n.exists_headline
    rw [limbText, toList_outlineAt, hline]
    exact ⟨c, _, rfl, by rintro rfl; cases hc⟩
  · rw [limbText, toList_outlineLine, List.append_assoc]
    cases optional with
    | true => exact ⟨'?', _, rfl, by decide⟩
    | false => exact ⟨'.', _, rfl, by decide⟩

/-! ## Reading an outline -/

/-- The text begins less far in than the lines of a depth. -/
def Outdented (depth : Nat) (s : List Char) : Prop :=
  ∃ k rest, k < depth ∧ s = List.replicate (2 * k) ' ' ++ rest ∧ rest.head? ≠ some ' '

section Reading

variable {depth depth' : Nat} {s t : List Char}

theorem Outdented.mono (h : Outdented depth s) (hle : depth ≤ depth') : Outdented depth' s := by
  obtain ⟨k, rest, hk, hs, hrest⟩ := h
  exact ⟨k, rest, Nat.lt_of_lt_of_le hk hle, hs, hrest⟩

theorem outdented_nil (depth : Nat) : Outdented (depth + 1) [] :=
  ⟨0, [], Nat.succ_pos depth, rfl, nofun⟩

/-- A line of a depth is not in front of it. -/
theorem not_outdented (depth : Nat) (s : List Char) :
    ¬ Outdented depth (List.replicate (2 * depth) ' ' ++ s) := by
  rintro ⟨k, rest, hk, hs, hrest⟩
  obtain ⟨j, hj⟩ : ∃ j, 2 * depth = 2 * k + (j + 1) := ⟨2 * depth - 2 * k - 1, by omega⟩
  rw [hj, List.replicate_add, List.append_assoc, List.append_cancel_left_eq] at hs
  rw [← hs] at hrest
  exact hrest rfl

theorem outdented_limbText (depth : Nat) (l : Option Bool × Node) (s : List Char) :
    Outdented (depth + 1) (limbText depth l ++ s) := by
  obtain ⟨c, w, hl, hc⟩ := exists_limbText depth l
  refine ⟨depth, c :: (w ++ s), Nat.lt_succ_self depth, ?_, ?_⟩
  · rw [hl, List.append_assoc, List.cons_append]
  · rw [List.head?_cons, ne_eq, Option.some.injEq]
    exact hc

/-- The outline of the tree, with anything behind it that is not below it, is read in one way.  The
depth is that of the line, so that the same is said of a tree inside another. -/
def Node.Told (a : Node) : Prop :=
  ∀ ⦃b : Node⦄ ⦃depth : Nat⦄ ⦃s t : List Char⦄, b.Throughout Lexical →
    Outdented (depth + 1) s → Outdented (depth + 1) t →
    (a.outlineAt depth).toList ++ s = (b.outlineAt depth).toList ++ t →
    a.canonical = b.canonical ∧ s = t

theorem eq_of_limbText_append {l l' : Option Bool × Node} (hl : l.2.Told)
    (hl' : l'.2.Throughout Node.Lexical) (hs : Outdented (depth + 1) s)
    (ht : Outdented (depth + 1) t) (h : limbText depth l ++ s = limbText depth l' ++ t) :
    (l.1, l.2.canonical) = (l'.1, l'.2.canonical) ∧ s = t := by
  -- a headline begins with a letter, the line of a step does not
  have hmark : ∀ (n : Node) (optional : Bool) (u v : List Char),
      n.headline.toList ++ u ≠ (if optional then "?." else ".").toList ++ v := by
    intro n optional u v heq
    obtain ⟨c, w, hline, hc⟩ := n.exists_headline
    rw [hline] at heq
    cases optional with
    | true => exact absurd ((List.cons.inj heq).1 ▸ hc) (by decide)
    | false => exact absurd ((List.cons.inj heq).1 ▸ hc) (by decide)
  obtain ⟨_ | optional, n⟩ := l <;> obtain ⟨_ | optional', n'⟩ := l'
  · obtain ⟨hn, hst⟩ := hl hl' hs ht h
    exact ⟨congrArg (none, ·) hn, hst⟩
  · simp only [limbText, toList_outlineAt, toList_outlineLine, List.append_assoc,
      List.append_cancel_left_eq] at h
    exact absurd h (hmark _ _ _ _)
  · simp only [limbText, toList_outlineAt, toList_outlineLine, List.append_assoc,
      List.append_cancel_left_eq] at h
    exact absurd h.symm (hmark _ _ _ _)
  · have hsplit : optional = optional' ∧ (n.outlineAt (depth + 1)).toList ++ s =
        (n'.outlineAt (depth + 1)).toList ++ t := by
      simp only [limbText, toList_outlineLine, List.append_assoc, List.append_cancel_left_eq] at h
      cases optional <;> cases optional' <;> simp at h
      · exact ⟨rfl, h⟩
      · exact ⟨rfl, h⟩
    obtain ⟨rfl, hkey⟩ := hsplit
    obtain ⟨hn, hst⟩ := hl hl' (hs.mono (Nat.le_succ _)) (ht.mono (Nat.le_succ _)) hkey
    exact ⟨congrArg (some optional, ·) hn, hst⟩

/-- What is below a node is read to where the lines are in front of it. -/
theorem eq_of_limbTexts_append {ls ls' : List (Option Bool × Node)} (hls : ∀ l ∈ ls, l.2.Told)
    (hls' : ∀ l ∈ ls', l.2.Throughout Node.Lexical) (hs : Outdented depth s)
    (ht : Outdented depth t)
    (h : ls.flatMap (limbText depth) ++ s = ls'.flatMap (limbText depth) ++ t) :
    (ls.map fun l => (l.1, l.2.canonical)) = (ls'.map fun l => (l.1, l.2.canonical)) ∧ s = t := by
  have hgoes : ∀ (ls : List (Option Bool × Node)) {s : List Char}, Outdented depth s →
      Outdented (depth + 1) (ls.flatMap (limbText depth) ++ s) := by
    intro ls s hs
    cases ls with
    | nil => exact hs.mono (Nat.le_succ depth)
    | cons l ls =>
      rw [List.flatMap_cons, List.append_assoc]
      exact outdented_limbText depth l _
  have hstops : ∀ (l : Option Bool × Node) (u : List Char) {s : List Char}, Outdented depth s →
      s ≠ limbText depth l ++ u := by
    rintro l u s hs rfl
    obtain ⟨c, w, hl, -⟩ := exists_limbText depth l
    rw [hl, List.append_assoc] at hs
    exact not_outdented depth _ hs
  induction ls generalizing ls' with
  | nil =>
    cases ls' with
    | nil => exact ⟨rfl, h⟩
    | cons l' ls' =>
      rw [List.flatMap_nil, List.nil_append, List.flatMap_cons, List.append_assoc] at h
      exact absurd h (hstops l' _ hs)
  | cons l ls ih =>
    cases ls' with
    | nil =>
      rw [List.flatMap_nil, List.nil_append, List.flatMap_cons, List.append_assoc] at h
      exact absurd h.symm (hstops l _ ht)
    | cons l' ls' =>
      rw [List.forall_mem_cons] at hls hls'
      rw [List.flatMap_cons, List.flatMap_cons, List.append_assoc, List.append_assoc] at h
      obtain ⟨hl, hrest⟩ := eq_of_limbText_append hls.1 hls'.1 (hgoes ls hs) (hgoes ls' ht) h
      obtain ⟨htail, hst⟩ := ih hls.2 hls'.2 hrest
      exact ⟨by rw [List.map_cons, List.map_cons, hl, htail], hst⟩

/-- The outline of a tree that a text can have tells the tree and where it ends. -/
theorem Node.told {a : Node} (ha : a.Throughout Lexical) : a.Told := by
  induction a using Node.contained with
  | around a ih =>
    intro b depth s t hb hs ht h
    obtain ⟨hlineA, hchildrenA⟩ := throughout_iff.mp ha
    obtain ⟨hlineB, hchildrenB⟩ := throughout_iff.mp hb
    simp only [toList_outlineAt, List.append_assoc, List.append_cancel_left_eq,
      List.cons_append] at h
    obtain ⟨hline, hbelow⟩ := eq_of_append_cons (newline_notMem_headline hlineA)
      (newline_notMem_headline hlineB) h
    have hlimbsA : ∀ l ∈ a.limbs, l.2.Told := fun l hl =>
      ih l.2 (mem_children_of_mem_limbs hl) (hchildrenA l.2 (mem_children_of_mem_limbs hl))
    have hlimbsB : ∀ l ∈ b.limbs, l.2.Throughout Lexical := fun l hl =>
      hchildrenB l.2 (mem_children_of_mem_limbs hl)
    obtain ⟨hlimbs, hst⟩ := eq_of_limbTexts_append hlimbsA hlimbsB hs ht hbelow
    rw [← limbs_canonical, ← limbs_canonical] at hlimbs
    exact ⟨canonical_eq hlineA hlineB (String.toList_injective hline) hlimbs, hst⟩

end Reading

/-- An outline does not tell what it leaves out. -/
theorem Node.outlineAt_canonical (depth : Nat) (n : Node) :
    n.canonical.outlineAt depth = n.outlineAt depth := by
  induction n using Node.contained generalizing depth with
  | around n ih =>
    refine String.toList_injective ?_
    rw [toList_outlineAt, toList_outlineAt, headline_canonical, limbs_canonical, List.flatMap_map]
    congr 3
    refine List.flatMap_congr fun l hl => ?_
    have hl := mem_children_of_mem_limbs hl
    obtain ⟨_ | optional, m⟩ := l
    · rw [limbText, limbText, ih m hl]
    · rw [limbText, limbText, ih m hl]

/-- The outlines of two texts are the same just if the trees are the same data, up to where the
steps of selections stand and to the sign of zeros. -/
theorem outline_eq_iff {limit limit' : Nat} {source source' : String} {a b : Node}
    (ha : parseWithin limit source = .ok a) (hb : parseWithin limit' source' = .ok b) :
    a.outline = b.outline ↔ a.canonical = b.canonical := by
  constructor
  · intro h
    have htext : (a.outlineAt 0).toList ++ [] = (b.outlineAt 0).toList ++ [] :=
      congrArg (fun s : String => s.toList ++ []) h
    exact (Node.told (lexical_of_parse ha) (lexical_of_parse hb) (outdented_nil 0) (outdented_nil 0)
      htext).1
  · intro h
    rw [Node.outline, ← Node.outlineAt_canonical, h, Node.outlineAt_canonical, Node.outline]

/-- A step further on, and a zero with a sign. -/
theorem outline_eq_iff_of_zeros : ∃ a b, parseWithin 64 "[-0]. b" = .ok a ∧
    parseWithin 64 "[0 ] .b" = .ok b ∧ a.canonical = b.canonical := by
  let text := "Select @1:1\n  LiteralArray @1:1\n    LiteralNumber 0 @1:2\n  .\n" ++
    "    Identifier b @1:7\n"
  have hread : ∀ {s : String}, (parseWithin 64 s).toOption.map Node.outline = some text →
      ∃ n, parseWithin 64 s = .ok n ∧ n.outline = text := by
    intro s h
    cases hs : parseWithin 64 s with
    | error e =>
      rw [hs] at h
      cases h
    | ok n =>
      rw [hs] at h
      exact ⟨n, rfl, Option.some.inj h⟩
  obtain ⟨a, ha, houtline⟩ := hread (s := "[-0]. b") (by decide +kernel)
  obtain ⟨b, hb, houtline'⟩ := hread (s := "[0 ] .b") (by decide +kernel)
  exact ⟨a, b, ha, hb, (outline_eq_iff ha hb).mp (houtline.trans houtline'.symm)⟩

end ExprLang
