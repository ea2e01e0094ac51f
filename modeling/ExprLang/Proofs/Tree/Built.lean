import ExprLang.Proofs.Tree.Shape

/-!
# ExprLang.Proofs.Tree.Built

From the tokens of a text to its tree: everything built is sound, and every fault is placed in the
text.

`Yields` is a triple about a part of the tree or the fault found in it.  It goes with the tokens
(`Token.Formed.builds`), with the pieces of a flat expression, and with what is grouped of these
(`Piece.Groups.yields`).
-/

namespace ExprLang

open ExprLang.Language

/-- What is built has the property, and a fault has a place in the text. -/
def Yields {α : Type} (source : List Char) (P : α → Prop) : Parsed α → Prop
  | .ok a => P a
  | .error e => e.position.In source

namespace Yields

variable {α β : Type} {source : List Char} {P : α → Prop} {Q : β → Prop} {x : Parsed α}

theorem mono {P' : α → Prop} (h : Yields source P x) (hP : ∀ a, P a → P' a) :
    Yields source P' x := by
  cases x with
  | ok a => exact hP a h
  | error e => exact h

theorem bind {f : α → Parsed β} (h : Yields source P x) (hf : ∀ a, P a → Yields source Q (f a)) :
    Yields source Q (x >>= f) := by
  cases x with
  | ok a => exact hf a h
  | error e => exact h

theorem map {f : α → β} (h : Yields source P x) (hf : ∀ a, P a → Q (f a)) :
    Yields source Q (x.map f) := by
  cases x with
  | ok a => exact hf a h
  | error e => exact h

end Yields

namespace Node

variable {source : List Char} {pos : Position}

/-! ## Nodes from sound nodes -/

/-- A node without demands of its own is an operand if it points at its sign and its parts are
operands. -/
theorem each_operand {n : Node} (hlawful : n.Lawful .operand) (hplaced : n.Placed source)
    (hparts : ∀ p ∈ n.parts, p.2.Each (Sound source) p.1) : n.Each (Sound source) .operand :=
  .mk ⟨hlawful, hplaced⟩ hparts

/-- Values written out have nothing inside. -/
theorem each_leaf {n : Node} (hkind : n.kind = .number ∨ n.kind = .string ∨ n.kind = .regexp ∨
    n.kind = .literal) (hpos : n.position.In source) : n.Each (Sound source) .operand := by
  cases n with
  | number | string | regexp | literal =>
    exact each_operand ⟨by simp [kind], trivial⟩ ⟨⟨hpos, List.nil_prefix⟩, trivial⟩
      (by simp [parts])
  | _ => simp [kind] at hkind

/-- Two operands. -/
theorem parts_pair {a b : Node} (ha : a.Each (Sound source) .operand)
    (hb : b.Each (Sound source) .operand) :
    ∀ p ∈ [(Role.operand, a), (Role.operand, b)], p.2.Each (Sound source) p.1 := by
  simp [ha, hb]

theorem each_joinOperands {op : InfixOp} {a b : Node} (hop : op ≠ .choice)
    (hpos : pos.Stands source op.symbol.toList) (ha : a.Each (Sound source) .operand)
    (hb : b.Each (Sound source) .operand) :
    (Piece.joinOperands pos op a b).Each (Sound source) .operand := by
  cases op with
  | choice => exact absurd rfl hop
  | _ =>
    rw [Piece.joinOperands]
    exact each_operand ⟨by simp [kind], trivial⟩ ⟨hpos, trivial⟩ (parts_pair ha hb)

theorem each_call {callee : Node} {args : List Node} {optional : Bool}
    (hpos : pos.Stands source (Rule.call optional).sign) (hf : callee.Each (Sound source) .operand)
    (hargs : ∀ n ∈ args, n.Each (Sound source) .operand) :
    (Node.call pos callee args optional).Each (Sound source) .operand := by
  refine each_operand ⟨by simp [kind], trivial⟩ ⟨hpos, trivial⟩ ?_
  simp only [parts, List.forall_mem_cons, List.forall_mem_map]
  exact ⟨hf, hargs⟩

end Node

/-- A sound step. -/
def Step.Sound (source : List Char) (s : Step Node) : Prop :=
  s.Placed source ∧ s.key.Each (Node.Sound source) .key

/-- A step whose key is an operand is an index. -/
theorem Step.placed_of_operand {source : List Char} {s : Step Node} (h : s.key.Lawful .operand)
    (hsign : s.position.Stands source (Rule.index s.optional).sign) : s.Placed source := by
  obtain ⟨key, optional, pos⟩ := s
  cases key with
  | identifier => simp [Node.Lawful] at h
  | _ => exact ⟨hsign, fun p name hkey => by cases hkey⟩

namespace Node

variable {source : List Char}

theorem each_select {pos : Position} {base : Node} {steps : List (Step Node)}
    (hpos : pos.In source) (hbase : base.Each (Sound source) .operand) (hkind : base.kind ≠ .select)
    (hne : steps ≠ []) (hsteps : ∀ s ∈ steps, s.Sound source) :
    (Node.select pos base steps).Each (Sound source) .operand := by
  refine each_operand ⟨by simp [kind], hne, hkind⟩
    ⟨⟨hpos, List.nil_prefix⟩, fun s hs => (hsteps s hs).1⟩ ?_
  simp only [parts, List.forall_mem_cons, List.forall_mem_map]
  exact ⟨hbase, fun s hs => (hsteps s hs).2⟩

/-- One more step joins the selection, or begins one. -/
theorem each_addStep {n : Node} {s : Step Node} (hn : n.Each (Sound source) .operand)
    (hs : s.Sound source) : (Piece.addStep n s).Each (Sound source) .operand := by
  have hbegin : n.kind ≠ .select → (Node.select n.position n [s]).Each (Sound source) .operand :=
    fun hkind => each_select hn.here.placed.1.1 hn hkind (by simp) (by simpa using hs)
  cases n with
  | select pos base steps =>
    obtain ⟨-, hlawful⟩ := hn.here.lawful
    obtain ⟨hpos, hplaced⟩ := hn.here.placed
    have hkeys : ∀ s ∈ steps, s.key.Each (Sound source) .key := fun s hs =>
      hn.part (p := (.key, s.key)) (List.mem_cons_of_mem _ (List.mem_map_of_mem hs))
    refine each_select hpos.1 (hn.part (p := (.operand, base)) List.mem_cons_self) hlawful.2
      (by simp) fun t ht => ?_
    rcases List.mem_append.mp ht with ht | ht
    · exact ⟨hplaced t ht, hkeys t ht⟩
    · rw [List.mem_singleton.mp ht]
      exact hs
  | _ => exact hbegin (by simp [kind])

end Node

/-! ## Pieces -/

/-- What is known of a piece of an expression. -/
def Piece.Sound (source : List Char) : Piece → Prop
  | .operand n => Yields source (Node.Each (Node.Sound source) .operand) n
  | .unary pos op => pos.Stands source op.symbol.toList
  | .step s => Yields source (Step.Sound source) s
  | .call pos args optional =>
    pos.Stands source (Rule.call optional).sign ∧
      Yields source (fun ns => ∀ n ∈ ns, n.Each (Node.Sound source) .operand) args
  | .between pos op => op ≠ .choice ∧ pos.Stands source op.symbol.toList
  | .choice pos middle =>
    pos.Stands source InfixOp.choice.symbol.toList ∧
      Yields source (Node.Each (Node.Sound source) .operand) middle

namespace Piece

variable {source : List Char}

/-- What is grouped of sound pieces is sound. -/
theorem Groups.yields {ps : List Piece} {n : Parsed Node} (h : Groups ps n)
    (hps : ∀ p ∈ ps, p.Sound source) : Yields source (Node.Each (Node.Sound source) .operand) n := by
  induction h with
  | malformed => exact (Position.marks_first source).isIn
  | operand n => exact hps _ (List.mem_singleton_self _)
  | unary pos op _ ih =>
    obtain ⟨hp, hps⟩ := List.forall_mem_cons.mp hps
    refine (ih hps).map fun n hn => ?_
    exact Node.each_operand ⟨by simp [Node.kind], trivial⟩ ⟨hp, trivial⟩
      (by simpa [Node.parts] using hn)
  | step s _ ih =>
    simp only [List.forall_mem_append, List.forall_mem_singleton] at hps
    exact (ih hps.1).bind fun l hl => Yields.bind hps.2 fun s hs => Node.each_addStep hl hs
  | call pos args optional _ ih =>
    simp only [List.forall_mem_append, List.forall_mem_singleton] at hps
    obtain ⟨hps, hpos, hargs⟩ := hps
    exact (ih hps).bind fun l hl => hargs.bind fun ns hns => Node.each_call hpos hl hns
  | between pos op _ _ ihLeft ihRight =>
    simp only [List.forall_mem_append, List.forall_mem_cons] at hps
    obtain ⟨hps, ⟨hop, hpos⟩, hqs⟩ := hps
    exact (ihLeft hps).bind fun l hl => (ihRight hqs).bind fun r hr =>
      Node.each_joinOperands hop hpos hl hr
  | choice pos middle _ _ ihLeft ihRight =>
    simp only [List.forall_mem_append, List.forall_mem_cons] at hps
    obtain ⟨hps, ⟨hpos, hmiddle⟩, hqs⟩ := hps
    refine (ihLeft hps).bind fun l hl => (ihRight hqs).bind fun r hr => hmiddle.bind fun m hm => ?_
    exact Node.each_operand ⟨by simp [Node.kind], trivial⟩ ⟨hpos, trivial⟩
      (by simpa [Node.parts] using ⟨hl, hm, hr⟩)

theorem yields_toTree {ps : List Piece} (hps : ∀ p ∈ ps, p.Sound source) :
    Yields source (Node.Each (Node.Sound source) .operand) (toTree ps) := by
  obtain ⟨used, hused, hgroups⟩ := exists_groups_toTree ps
  exact hgroups.yields fun p hp => hps p (hused.subset hp)

end Piece

/-! ## Tokens -/

/-- The role of what a token stands for. -/
def Rule.role : Rule → Role
  | .program | .statements => .root
  | .assignment => .statement
  | .identifier => .target
  | .objectItem => .entry
  | .name => .key
  | _ => .operand

namespace Token

variable {source : List Char} {limit depth : Nat} {role role' : Role}

/-- What a token stands for is sound in a role, at every depth. -/
def Builds (source : List Char) (role : Role) (t : Token) : Prop :=
  ∀ limit depth, Yields source (Node.Each (Node.Sound source) role) (t.build limit depth)

theorem Builds.of_operand {t : Token} (h : t.Builds source .operand) (hrole : role ≠ .entry) :
    t.Builds source role :=
  fun limit depth => (h limit depth).mono fun _ hn => hn.of_operand hrole

theorem Builds.as {t : Token} {r : Rule} (h : t.Builds source t.rule.role) (hr : t.rule = r) :
    t.Builds source r.role :=
  hr ▸ h

/-- The tokens are sound in the roles of their rules, which are all the same. -/
theorem builds_of_role {ts : List Token} (hts : ∀ t ∈ ts, t.Builds source t.rule.role)
    (hrole : ∀ r ∈ ts.map rule, r.role = role) : ∀ t ∈ ts, t.Builds source role :=
  fun t ht => hrole t.rule (List.mem_map_of_mem ht) ▸ hts t ht

theorem yields_buildAll {ts : List Token} (hts : ∀ t ∈ ts, t.Builds source role) :
    Yields source (fun ns => ns.length = ts.length ∧ ∀ n ∈ ns, n.Each (Node.Sound source) role)
      (buildAll limit depth ts) := by
  induction ts with
  | nil => exact ⟨rfl, by simp⟩
  | cons t ts ih =>
    obtain ⟨ht, hts⟩ := List.forall_mem_cons.mp hts
    rw [buildAll]
    refine (ht limit depth).bind fun n hn => (ih hts).bind fun ns hns => ?_
    exact ⟨congrArg (· + 1) hns.1, List.forall_mem_cons.mpr ⟨hn, hns.2⟩⟩

/-- A pair of tokens. -/
theorem yields_buildAll_pair {u v : Token} (hu : u.Builds source role) (hv : v.Builds source role') :
    Yields source (fun ns => ∃ a b, ns = [a, b] ∧ a.Each (Node.Sound source) role ∧
      b.Each (Node.Sound source) role') (buildAll limit depth [u, v]) := by
  rw [buildAll, buildAll, buildAll]
  refine (hu limit depth).bind fun a ha => Yields.bind ((hv limit depth).bind (Q := fun ns =>
    ∃ b, ns = [b] ∧ b.Each (Node.Sound source) role') fun b hb => ⟨b, rfl, hb⟩) ?_
  rintro ns ⟨b, rfl, hb⟩
  exact ⟨a, b, rfl, ha, hb⟩

/-! ### Pieces -/

/-- The piece of a token is sound if what the token and the tokens inside stand for is. -/
theorem sound_piece {t : Token} (ht : t.Formed source) (hpiece : t.rule.isPiece = true)
    (hbuild : t.Builds source t.rule.role) (hinner : ∀ u ∈ t.inner, u.Builds source u.rule.role) :
    ∀ p ∈ pieces limit depth [t], p.Sound source := by
  obtain ⟨place, fits, inside⟩ := ht
  rename_i r k len inner
  have hsign : k.position.Stands source r.sign := place.stands fits.sign
  have hrules := fits.inner
  simp only [pieces, List.mem_singleton, forall_eq]
  cases r with
  | unary op => exact hsign
  | between op =>
    cases op with
    | choice =>
      obtain ⟨u, rfl, hu⟩ := List.map_eq_singleton_iff.mp hrules
      exact ⟨hsign, (hinner u (List.mem_singleton_self u)).as hu limit depth⟩
    | _ => exact ⟨by simp, hsign⟩
  | field optional =>
    obtain ⟨u, rfl, hu⟩ := List.map_eq_singleton_iff.mp hrules
    -- the key is built from a name, so that it is one
    obtain ⟨_, k', len', inner'⟩ := u
    obtain rfl : _ = Rule.name := hu
    refine ⟨⟨hsign, fun p name hkey => ?_⟩, hinner _ (List.mem_singleton_self _) limit depth⟩
    cases hkey
    rw [text, String.toList_ofList]
    exact place.textAt_eq ▸ fits.names optional rfl _ rfl
  | index optional =>
    obtain ⟨u, rfl, hu⟩ := List.map_eq_singleton_iff.mp hrules
    have hkey : u.Builds source .operand := (hinner u (List.mem_singleton_self u)).as hu
    change Yields source (Step.Sound source)
      ((u.build limit depth).map fun key => ⟨key, optional, k.position⟩)
    exact (hkey limit depth).map fun key hkey =>
      ⟨Step.placed_of_operand hkey.here.lawful hsign, hkey.of_operand (by decide)⟩
  | call optional =>
    have hargs : ∀ t ∈ inner, t.Builds source .operand :=
      builds_of_role hinner fun r hr => by rw [hrules r hr]; rfl
    exact ⟨hsign, (yields_buildAll hargs).mono fun _ hns => hns.2⟩
  | grouped | template | array | object | regexp | number | string | literal | «variable» =>
    exact hbuild limit depth
  | _ => cases hpiece

/-- The pieces of an expression are sound. -/
theorem sound_pieces {ts : List Token} (hts : ∀ t ∈ ts, t.Formed source)
    (hpieces : ∀ r ∈ ts.map rule, r.isPiece = true)
    (hbuild : ∀ t ∈ ts, t.Builds source t.rule.role)
    (hinner : ∀ t ∈ ts, ∀ u ∈ t.inner, u.Builds source u.rule.role) :
    ∀ p ∈ pieces limit depth ts, p.Sound source := by
  induction ts with
  | nil => simp [pieces]
  | cons t ts ih =>
    rw [List.forall_mem_cons] at hts hbuild hinner
    rw [List.map_cons, List.forall_mem_cons] at hpieces
    have hfirst : ∀ p ∈ pieces limit depth [t], p.Sound source :=
      sound_piece hts.1 hpieces.1 hbuild.1 hinner.1
    intro p hp
    rw [← List.singleton_append, pieces_append] at hp
    rcases List.mem_append.mp hp with hp | hp
    · exact hfirst p hp
    · exact ih hts.2 hpieces.2 hbuild.2 hinner.2 p hp

/-! ### What a token stands for -/

section Inside

variable {k : Cursor} {len : Nat} {inner : List Token}
  (hinner : ∀ u ∈ inner, u.Builds source u.rule.role)
include hinner

/-- The statements of a text: one alone, or a sequence of several. -/
theorem builds_statements (ht : (Token.mk .statements k len inner).Formed source) :
    (Token.mk .statements k len inner).Builds source .root := by
  intro limit depth
  obtain ⟨place, fits, inside⟩ := ht
  obtain ⟨hne, hrules⟩ := fits.inner
  have hstatements : ∀ u ∈ inner, u.Builds source .statement := by
    intro u hu
    have hbuilds := hinner u hu
    rcases hrules u.rule (List.mem_map_of_mem hu) with hr | hr
    · rwa [hr] at hbuilds
    · rw [hr] at hbuilds
      exact hbuilds.of_operand (by decide)
  rw [build]
  refine (yields_buildAll hstatements).bind fun ns hns => ?_
  split
  · next n => exact (hns.2 n (List.mem_singleton_self n)).of_statement
  · next hsingle =>
    refine .mk ⟨⟨by simp [Node.kind], rfl, ?_⟩, ⟨place.isIn, List.nil_prefix⟩, trivial⟩ ?_
    · have hpos : 0 < inner.length :=
        List.length_pos_iff.mpr fun h => hne (by rw [Token.inner, h]; rfl)
      have hone : ns.length ≠ 1 := fun h => by
        obtain ⟨n, hn⟩ := List.length_eq_one_iff.mp h
        exact hsingle n hn
      have hlength := hns.1
      omega
    · simpa [Node.parts] using hns.2

/-- An assignment: a plain name and the value it gets. -/
theorem builds_assignment (ht : (Token.mk .assignment k len inner).Formed source) :
    (Token.mk .assignment k len inner).Builds source .statement := by
  intro limit depth
  obtain ⟨place, fits, inside⟩ := ht
  obtain ⟨u, us, rfl, hu, hus⟩ := List.map_eq_cons_iff.mp fits.inner
  obtain ⟨v, rfl, hv⟩ := List.map_eq_singleton_iff.mp hus
  have hformed : u.Formed source := inside u List.mem_cons_self
  have hbegins : BeginsAssignment u.chars u.start.rest := fits.assigns rfl u rfl
  obtain ⟨_, k', len', inner'⟩ := u
  obtain rfl : _ = Rule.identifier := hu
  obtain ⟨place', fits', -⟩ := hformed
  have htarget := hinner _ List.mem_cons_self limit depth
  have hvalue : v.Builds source .operand := (hinner v (by simp)).as hv
  have hbuild : ∀ name, (Token.mk .identifier k' len' inner').text = name →
      (Token.mk .assignment k len [.mk .identifier k' len' inner', v]).build limit depth =
        (v.build limit depth).map (.assignment k.position (.identifier k'.position name)) := by
    rintro name rfl
    rw [build, buildAll, build, buildAll, buildAll]
    cases v.build limit depth <;> rfl
  rw [hbuild _ rfl]
  refine (hvalue limit depth).map fun value hvalue => .mk
    ⟨⟨by simp [Node.kind], .inr rfl, _, _, rfl, ?_⟩, ⟨place.isIn, List.nil_prefix⟩, ?_⟩ ?_
  · simpa [text] using fits'.plain rfl
  · simpa [Node.sign, Node.position, text, place'.textAt_eq, start] using hbegins
  · simpa [Node.parts] using ⟨htarget, hvalue⟩

/-- An item of an object: a key, computed or not, and a value. -/
theorem builds_objectItem (ht : (Token.mk .objectItem k len inner).Formed source) :
    (Token.mk .objectItem k len inner).Builds source .entry := by
  intro limit depth
  obtain ⟨place, fits, inside⟩ := ht
  obtain ⟨r, hkey, hrules⟩ := fits.inner
  obtain ⟨u, us, rfl, hu, hus⟩ := List.map_eq_cons_iff.mp hrules
  obtain ⟨v, rfl, hv⟩ := List.map_eq_singleton_iff.mp hus
  have hbuilds : u.Builds source .key := by
    have hrole := hinner u List.mem_cons_self
    rw [hu] at hrole
    cases r with
    | name => exact hrole
    | computedKey | string | number => exact hrole.of_operand (by decide)
    | _ => cases hkey
  have hvalue : v.Builds source .operand := (hinner v (by simp)).as hv
  rw [build]
  refine (yields_buildAll_pair hbuilds hvalue).bind ?_
  rintro ns ⟨a, b, rfl, ha, hb⟩
  refine .mk ⟨⟨by simp [Node.kind], trivial⟩, ⟨place.isIn, List.nil_prefix⟩, trivial⟩ ?_
  simpa [Node.parts] using ⟨ha, hb⟩

/-- An expression: its pieces, unless there are too many of them. -/
theorem builds_expression (ht : (Token.mk .expression k len inner).Formed source)
    (hinside : ∀ t ∈ inner, ∀ u ∈ t.inner, u.Builds source u.rule.role) :
    (Token.mk .expression k len inner).Builds source .operand := by
  intro limit depth
  obtain ⟨place, fits, inside⟩ := ht
  rw [build]
  split
  · exact place.isIn
  · exact Piece.yields_toTree (sound_pieces inside (Rule.isPiece_of_run fits.inner) hinner hinside)

/-- What stands for the first token inside. -/
theorem builds_first {r q : Rule} {rs : List Rule} (hrules : inner.map rule = q :: rs)
    (hbuild : ∀ limit depth, (Token.mk r k len inner).build limit depth =
      buildFirst limit depth k.position inner) : (Token.mk r k len inner).Builds source q.role := by
  intro limit depth
  obtain ⟨u, us, rfl, hu, -⟩ := List.map_eq_cons_iff.mp hrules
  rw [hbuild]
  exact (hinner u List.mem_cons_self).as hu limit depth

/-- A node with any number of nodes inside. -/
theorem builds_all {r : Rule} (role : Role) {f : List Node → Node}
    (hbuild : ∀ limit depth, (Token.mk r k len inner).build limit depth =
      buildAll limit depth inner >>= fun ns => pure (f ns))
    (hrole : ∀ r ∈ inner.map rule, r.role = role)
    (hf : ∀ ns, (∀ n ∈ ns, n.Each (Node.Sound source) role) →
      (f ns).Each (Node.Sound source) .operand) :
    (Token.mk r k len inner).Builds source .operand := by
  intro limit depth
  rw [hbuild]
  exact (yields_buildAll (builds_of_role hinner hrole)).bind fun ns hns => hf ns hns.2

end Inside

theorem builds_literal {t : Token} (hliteral : t.rule.isLiteral = true)
    (hpos : t.position.In source) : t.Builds source .operand := by
  intro limit depth
  rw [build_of_isLiteral hliteral]
  obtain ⟨n, hn, hposition, hkind⟩ | ⟨e, he, hposition⟩ := t.literalBuild_cases
  · rw [hn]
    exact Node.each_leaf hkind (hposition ▸ hpos)
  · rw [he, Yields, hposition]
    exact hpos

/-- Everything a token of the text stands for is sound, and so is what the tokens inside it stand
for: a piece of an expression is made of these. -/
theorem Formed.builds {t : Token} (ht : t.Formed source) :
    t.Builds source t.rule.role ∧ ∀ u ∈ t.inner, u.Builds source u.rule.role := by
  induction ht with
  | mk place fits inside ih =>
    rename_i r k len inner
    have hinner : ∀ u ∈ inner, u.Builds source u.rule.role := fun u hu => (ih u hu).1
    have hpos : k.position.Stands source [] := place.stands List.nil_prefix
    have hname : k.position.Stands source (Token.mk r k len inner).text.toList :=
      place.stands (by simpa [text, chars, start, length] using List.take_prefix _ _)
    have hrules := fits.inner
    refine ⟨?_, hinner⟩
    cases r with
    | program =>
      exact builds_first (q := .statements) hinner hrules fun _ _ => by rw [build]
    | grouped | computedKey | templateHole =>
      exact builds_first (q := .expression) hinner hrules fun _ _ => by rw [build]
    | statements => exact builds_statements hinner (.mk place fits inside)
    | assignment => exact builds_assignment hinner (.mk place fits inside)
    | objectItem => exact builds_objectItem hinner (.mk place fits inside)
    | expression =>
      exact builds_expression hinner (.mk place fits inside) fun u hu => (ih u hu).2
    | array =>
      refine builds_all hinner .operand (fun _ _ => by rw [build])
        (fun r hr => by rw [hrules r hr]; rfl) fun ns hns => ?_
      exact Node.each_operand ⟨by simp [Node.kind], trivial⟩ ⟨hpos, trivial⟩
        (by simpa [Node.parts] using hns)
    | object =>
      refine builds_all hinner .entry (fun _ _ => by rw [build])
        (fun r hr => by rw [hrules r hr]; rfl) fun ns hns => ?_
      exact Node.each_operand ⟨by simp [Node.kind], trivial⟩ ⟨hpos, trivial⟩
        (by simpa [Node.parts] using hns)
    | template =>
      refine builds_all hinner .operand (fun _ _ => by rw [build])
        (fun r hr => by rcases hrules r hr with rfl | rfl <;> rfl) fun ns hns => ?_
      exact Node.each_operand ⟨by simp [Node.kind], trivial⟩ ⟨hpos, trivial⟩
        (by simpa [Node.parts] using hns)
    | «variable» =>
      exact fun _ _ => Node.each_operand ⟨by simp [Node.kind], trivial⟩ ⟨hname, trivial⟩
        (by simp [Node.parts])
    | identifier =>
      exact fun _ _ => .mk ⟨⟨by simp [Node.kind, Rule.role, rule], .inl rfl⟩, hname, trivial⟩
        (by simp [Node.parts])
    | name =>
      exact fun _ _ => .mk ⟨⟨by simp [Node.kind, Rule.role, rule], .inr rfl⟩, hname, trivial⟩
        (by simp [Node.parts])
    | number | string | templateText | regexp | literal => exact builds_literal rfl hpos.1
    | _ => exact fun _ _ => hpos.1

end Token

/-! ## Texts -/

/-- The tree of a text is sound from the root, and what is wrong with a text is placed in it. -/
theorem yields_parseWithin (limit : Nat) (source : String) :
    Yields source.toList (Node.Each (Node.Sound source.toList) .root)
      (parseWithin limit source) := by
  unfold parseWithin
  dsimp only
  split
  · next p hp =>
    obtain ⟨rest, hmarks⟩ := marks_deepOpener? hp
    exact hmarks.isIn
  · cases ht : tokenOf source.toList with
    | ok t =>
      obtain ⟨hformed, hrule⟩ := formed_of_tokenOf ht
      exact hformed.builds.1.as hrule limit 0
    | error e =>
      unfold tokenOf at ht
      split at ht
      · cases ht
      · next a _ _ _ =>
        cases ht
        have hmarks : (Position.first.after (source.toList.take a.offset)).Marks source.toList
            (source.toList.drop a.offset) :=
          ⟨_, (List.take_append_drop ..).symm, rfl⟩
        exact hmarks.isIn

/-- The tree of a text is sound. -/
theorem each_sound_of_parse {limit : Nat} {source : String} {tree : Node}
    (h : parseWithin limit source = .ok tree) :
    tree.Each (Node.Sound source.toList) .root := by
  have hyields := yields_parseWithin limit source
  rwa [h] at hyields

/-- What is wrong with a text is placed in it. -/
theorem position_in_of_parse {limit : Nat} {source : String} {e : ParseError}
    (h : parseWithin limit source = .error e) : e.position.In source.toList := by
  have hyields := yields_parseWithin limit source
  rwa [h] at hyields

end ExprLang
