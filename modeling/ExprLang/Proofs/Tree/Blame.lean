import ExprLang.Proofs.Tree.Frames
import ExprLang.Proofs.Tree.Tokens

/-!
# ExprLang.Proofs.Tree.Blame

Which part of a text a fault is of.

A token is built of the tokens inside it: lists of all of them, brackets of the one inside, and the
grouping of an expression uses every piece up (`Piece.comesOf_toTree`), since the pieces follow one
another as operands and operators do (`Piece.Run`).  So where there is a tree, every literal of the
text is built, and where there is none, one of them is not or the limit is exceeded
(`Token.Formed.tells`).
-/

namespace ExprLang

/-! ## What a result tells -/

namespace Parsed

variable {α β : Type} {S S' : Prop} {E E' : ParseError → Prop} {x : Parsed α}

/-- If something is built then `S`, and a fault is as `E` says. -/
def Tells (S : Prop) (E : ParseError → Prop) : Parsed α → Prop
  | .ok _ => S
  | .error e => E e

namespace Tells

theorem imp (h : x.Tells S E) (hS : S → S') (hE : ∀ e, E e → E' e) : x.Tells S' E' := by
  cases x with
  | ok a => exact hS h
  | error e => exact hE e h

theorem bind {f : α → Parsed β} (h : x.Tells S E) (hf : ∀ a, x = .ok a → Tells S' E (f a)) :
    Tells (S ∧ S') E (x >>= f) := by
  cases x with
  | ok a => exact (hf a rfl).imp (fun h' => ⟨h, h'⟩) fun _ => id
  | error e => exact h

/-- What goes on without a fault tells the same. -/
theorem bind_ok {f : α → Parsed β} (h : x.Tells S E) (hf : ∀ a, x = .ok a → ∃ b, f a = .ok b) :
    Tells S E (x >>= f) := by
  have htells : ∀ a, x = .ok a → Tells True E (f a) := by
    intro a ha
    obtain ⟨b, hb⟩ := hf a ha
    rw [hb]
    trivial
  exact (h.bind htells).imp And.left fun _ => id

theorem map (f : α → β) (h : x.Tells S E) : Tells S E (x.map f) := by
  cases x with
  | ok a => exact h
  | error e => exact h

theorem and (h : x.Tells S E) : ((∃ a, x = .ok a) → S) ∧ ∀ e, x = .error e → E e := by
  cases x with
  | ok a => exact ⟨fun _ => h, fun e he => by cases he⟩
  | error e => exact ⟨fun ⟨a, ha⟩ => (by cases ha), fun e he => by cases he; exact h⟩

end Tells

end Parsed

/-! ## Pieces -/

namespace Piece

/-- Nothing is wrong with what is inside the piece. -/
def Fine : Piece → Prop
  | .operand n => ∃ a, n = .ok a
  | .step s => ∃ a, s = .ok a
  | .call _ args _ => ∃ a, args = .ok a
  | .choice _ m => ∃ a, m = .ok a
  | .unary .. | .between .. => True

/-- The fault of what is inside the piece. -/
def Fails (e : ParseError) : Piece → Prop
  | .operand n => n = .error e
  | .step s => s = .error e
  | .call _ args _ => args = .error e
  | .choice _ m => m = .error e
  | .unary .. | .between .. => False

/-- Pieces that follow one another as in an expression; the flag tells whether an operand was just
read. -/
inductive Run : Bool → List Piece → Prop
  | done : Run true []
  | step {ps : List Piece} (s : Parsed (Step Node)) : Run true ps → Run true (.step s :: ps)
  | call {ps : List Piece} (pos : Position) (args : Parsed (List Node)) (optional : Bool) :
      Run true ps → Run true (.call pos args optional :: ps)
  | between {ps : List Piece} (pos : Position) (op : InfixOp) :
      Run false ps → Run true (.between pos op :: ps)
  | choice {ps : List Piece} (pos : Position) (m : Parsed Node) :
      Run false ps → Run true (.choice pos m :: ps)
  | unary {ps : List Piece} (pos : Position) (op : UnaryOp) :
      Run false ps → Run false (.unary pos op :: ps)
  | operand {ps : List Piece} (n : Parsed Node) : Run true ps → Run false (.operand n :: ps)

end Piece

namespace Parsed

variable {α β : Type} {ps qs : List Piece} {p : Piece} {x : Parsed α}

/-- Something comes of pieces that are all fine, and a fault is that of one of them. -/
def ComesOf (ps : List Piece) (x : Parsed α) : Prop :=
  x.Tells (∀ p ∈ ps, p.Fine) fun e => ∃ p ∈ ps, p.Fails e

namespace ComesOf

theorem of_piece (hfine : ∀ a, x = .ok a → p.Fine) (hfails : ∀ e, x = .error e → p.Fails e) :
    x.ComesOf [p] := by
  cases x with
  | ok a => exact List.forall_mem_singleton.mpr (hfine a rfl)
  | error e => exact ⟨p, List.mem_singleton_self p, hfails e rfl⟩

/-- Among other pieces, in any order, if these are fine. -/
theorem among (h : x.ComesOf ps) (hsub : ∀ p ∈ ps, p ∈ qs) (hrest : ∀ q ∈ qs, q ∈ ps ∨ q.Fine) :
    x.ComesOf qs :=
  h.imp (fun hfine q hq => (hrest q hq).elim (hfine q) id)
    fun _ ⟨p, hp, hfails⟩ => ⟨p, hsub p hp, hfails⟩

theorem bind {f : α → Parsed β} (hx : x.ComesOf ps) (hf : ∀ a, ComesOf qs (f a)) :
    ComesOf (ps ++ qs) (x >>= f) := by
  have hfirst : x.Tells (∀ p ∈ ps, p.Fine) fun e => ∃ p ∈ ps ++ qs, p.Fails e :=
    hx.imp id fun _ ⟨p, hp, hfails⟩ => ⟨p, List.mem_append_left _ hp, hfails⟩
  have hsecond : ∀ a, x = .ok a →
      Tells (∀ q ∈ qs, q.Fine) (fun e => ∃ p ∈ ps ++ qs, p.Fails e) (f a) := fun a _ =>
    (hf a).imp id fun _ ⟨p, hp, hfails⟩ => ⟨p, List.mem_append_right _ hp, hfails⟩
  exact (hfirst.bind hsecond).imp List.forall_mem_append.mpr fun _ => id

theorem map (f : α → β) (hx : x.ComesOf ps) : ComesOf ps (x.map f) := Tells.map f hx

theorem bind_pure (f : α → β) (hx : x.ComesOf ps) :
    ComesOf ps (x >>= fun a => (pure (f a) : Parsed β)) :=
  Tells.bind_ok hx fun a _ => ⟨f a, rfl⟩

end ComesOf

end Parsed

open Parsed (ComesOf)

namespace Piece

variable {ps done front : List Piece} {r : Parsed Node × List Piece}

/-- Pieces were taken off the front, and the result comes of these and of those that had been taken
before.  The rest is behind an operand. -/
def Uses (done ps : List Piece) (r : Parsed Node × List Piece) : Prop :=
  ∃ used, ps = used ++ r.2 ∧ Run true r.2 ∧ r.1.ComesOf (done ++ used)

theorem Uses.nothing {left : Parsed Node} (hleft : left.ComesOf done) (hps : Run true ps) :
    Uses done ps (left, ps) :=
  ⟨[], rfl, hps, by rwa [List.append_nil]⟩

/-- What had been taken was in front. -/
theorem Uses.behind (h : Uses (done ++ front) ps r) : Uses done (front ++ ps) r := by
  obtain ⟨used, rfl, hrun, hcomes⟩ := h
  refine ⟨front ++ used, (List.append_assoc ..).symm, hrun, ?_⟩
  rwa [← List.append_assoc]

/-- Grouping uses up what it passes, given fuel for all pieces. -/
theorem uses (fuel : Nat) :
    (∀ level ps, ps.length ≤ fuel → Run false ps →
      Uses [] ps (takeExpression fuel level ps)) ∧
    ∀ level done left ps, ps.length ≤ fuel → Run true ps → left.ComesOf done →
      Uses done ps (takeOperators fuel level left ps) := by
  induction fuel with
  | zero =>
    refine ⟨fun level ps hlength hps => ?_, fun _ _ _ _ _ hps hleft => .nothing hleft hps⟩
    cases hps <;> cases hlength
  | succ fuel ih =>
    obtain ⟨ihExpression, ihOperators⟩ := ih
    -- an operand on the right, and then what continues the two
    have hright : ∀ {p level level' done rest} (f : Parsed Node → Parsed Node),
        (p :: rest : List Piece).length ≤ fuel + 1 → Run false rest →
        (∀ used right, right.ComesOf used → (f right).ComesOf (done ++ p :: used)) →
        Uses done (p :: rest) (takeOperators fuel level (f (takeExpression fuel level' rest).1)
          (takeExpression fuel level' rest).2) := by
      intro p level level' done rest f hlength hrest hf
      have hlength := Nat.le_of_succ_le_succ hlength
      obtain ⟨used, hused, hrun, hcomes⟩ := ihExpression level' rest hlength hrest
      have hshorter := ((takesOff fuel).1 level' rest).length_le
      have huses := (ihOperators level _ _ _ (by omega) hrun (hf used _ hcomes)).behind
      rwa [List.cons_append, ← hused] at huses
    constructor
    · intro level ps hlength hps
      cases hps with
      | unary pos op hrest =>
        refine hright (Except.map (Node.unary pos op)) hlength hrest fun used right hcomes => ?_
        exact ComesOf.among (hcomes.map (Node.unary pos op)) (fun p hp => List.mem_cons_of_mem _ hp)
          (List.forall_mem_cons.mpr ⟨.inr trivial, fun _ => .inl⟩)
      | @operand rest n hrest =>
        have hoperand : n.ComesOf [.operand n] := .of_piece (fun a h => ⟨a, h⟩) fun _ => id
        have huses := ihOperators level ([] ++ [.operand n]) n rest
          (Nat.le_of_succ_le_succ hlength) hrest hoperand
        exact huses.behind
    · intro level done left ps hlength hps hleft
      cases hps with
      | done => exact .nothing hleft .done
      | @step rest s hrest =>
        rw [takeOperators]
        split
        · have hs : s.ComesOf [.step s] := .of_piece (fun a h => ⟨a, h⟩) fun _ => id
          have hjoined := hleft.bind fun l => hs.bind_pure (addStep l)
          exact (ihOperators level _ _ rest (Nat.le_of_succ_le_succ hlength) hrest hjoined).behind
        · exact .nothing hleft (.step s hrest)
      | @call rest pos args optional hrest =>
        rw [takeOperators]
        split
        · have hargs : args.ComesOf [.call pos args optional] :=
            .of_piece (fun a h => ⟨a, h⟩) fun _ => id
          have hjoined := hleft.bind fun l => hargs.bind_pure fun as => Node.call pos l as optional
          exact (ihOperators level _ _ rest (Nat.le_of_succ_le_succ hlength) hrest hjoined).behind
        · exact .nothing hleft (.call pos args optional hrest)
      | between pos op hrest =>
        rw [takeOperators]
        split
        · refine hright (fun right => do return joinOperands pos op (← left) (← right)) hlength
            hrest fun used right hcomes => ?_
          refine hleft.bind fun l => ?_
          exact ComesOf.among (hcomes.bind_pure (joinOperands pos op l))
            (fun p hp => List.mem_cons_of_mem _ hp)
            (List.forall_mem_cons.mpr ⟨.inr trivial, fun _ => .inl⟩)
        · exact .nothing hleft (.between pos op hrest)
      | choice pos m hrest =>
        rw [takeOperators]
        split
        · refine hright (fun right => do
              let left ← left
              let right ← right
              return .choice pos left (← m) right) hlength hrest fun used right hcomes => ?_
          have hm : m.ComesOf [.choice pos m] := .of_piece (fun a h => ⟨a, h⟩) fun _ => id
          refine hleft.bind fun l => ?_
          -- the fault of the right operand comes before that of the middle
          refine (hcomes.bind fun r => hm.bind_pure fun m => Node.choice pos l m r).among ?_ ?_
          · simp [or_comm]
          · exact fun q hq => .inl (by simpa [or_comm] using hq)
        · exact .nothing hleft (.choice pos m hrest)

/-- Behind an operand every piece binds tighter than nothing. -/
theorem headLevel_of_run (h : Run true ps) (hlevel : headLevel ps ≤ 0) : ps = [] := by
  cases h with
  | done => rfl
  | between pos op =>
    have hten := op.ten_le_level
    simp only [headLevel] at hlevel
    omega
  | _ => exact absurd hlevel (Nat.not_succ_le_zero _)

/-- The tree of an expression comes of its pieces. -/
theorem comesOf_toTree (hps : Run false ps) : (toTree ps).ComesOf ps := by
  have hfuel : ps.length ≤ 2 * ps.length + 2 := by omega
  obtain ⟨used, hused, hrun, hcomes⟩ := (uses (2 * ps.length + 2)).1 0 ps hfuel hps
  have hlevel := (headLevel_taken _ hfuel 0).1
  rw [← toTree, List.nil_append] at hcomes
  rw [← toTree] at hlevel
  cases htree : toTree ps with
  | ok n =>
    have hnil := headLevel_of_run hrun (hlevel n htree)
    rw [hnil, List.append_nil] at hused
    rwa [hused, ← htree]
  | error e =>
    rw [htree] at hcomes
    obtain ⟨p, hp, hfails⟩ := hcomes
    exact ⟨p, hused ▸ List.mem_append_left _ hp, hfails⟩

end Piece

/-! ## Tokens -/

/-- The rules of tokens that a node is built of. -/
def Rule.isBuilt : Rule → Bool
  | .unary _ | .between _ | .field _ | .index _ | .call _ | .keyword | .endOfText => false
  | r => !r.isPart

namespace Token

variable {source : List Char} {t u : Token} {ts inner : List Token} {r : Rule} {k : Cursor}
  {len limit depth depth' : Nat} {e : ParseError}

/-- The token is `t` or stands somewhere inside it. -/
inductive Within (u : Token) : Token → Prop
  | refl : Within u u
  | inside {v t : Token} (hv : v ∈ t.inner) (h : Within u v) : Within u t

mutual

/-- The levels of nesting that a token takes up, with everything inside. -/
def reach : Token → Nat
  | mk r _ _ inner => (if r = .expression then levels inner else 0) + reachAll inner

/-- The most levels that one of the tokens takes up. -/
def reachAll : List Token → Nat
  | [] => 0
  | t :: ts => max t.reach (reachAll ts)

end

theorem reach_le_reachAll (hu : u ∈ ts) : u.reach ≤ reachAll ts := by
  induction ts with
  | nil => cases hu
  | cons t ts ih =>
    rw [reachAll]
    rcases List.mem_cons.mp hu with rfl | hu
    · exact Nat.le_max_left _ _
    · exact (ih hu).trans (Nat.le_max_right _ _)

/-- Something is built of every literal in the token. -/
def Sound (t : Token) : Prop :=
  ∀ u : Token, u.Within t → u.rule.isLiteral = true → ∃ n, u.literalBuild = .ok n

/-- The fault is that of a literal in the token, or the token has more levels than are left. -/
def Blamed (limit depth : Nat) (t : Token) (e : ParseError) : Prop :=
  (∃ u : Token, u.Within t ∧ u.rule.isLiteral = true ∧ u.literalBuild = .error e) ∨
    (e.cause = .tooDeep limit ∧ limit < depth + t.reach)

theorem sound_of_inner (hr : r.isLiteral = false) (h : ∀ u ∈ inner, u.Sound) :
    (mk r k len inner).Sound := by
  intro u hu hliteral
  cases hu with
  | refl => cases hr.symm.trans hliteral
  | inside hv hu => exact h _ hv u hu hliteral

theorem Blamed.of_inner (hu : u ∈ inner)
    (hdepth : depth' ≤ depth + if r = .expression then levels inner else 0)
    (h : u.Blamed limit depth' e) : (mk r k len inner).Blamed limit depth e := by
  rcases h with ⟨v, hv, hliteral, hbuild⟩ | ⟨hcause, hlimit⟩
  · exact .inl ⟨v, .inside hu hv, hliteral, hbuild⟩
  · refine .inr ⟨hcause, ?_⟩
    have hreach := reach_le_reachAll hu
    rw [reach]
    omega

/-- The parts of words are no literals. -/
theorem sound_of_isPart (ht : t.Formed source) (hr : t.rule.isPart = true) : t.Sound := by
  induction ht with
  | mk place fits inside ih =>
    rename_i r k len inner
    have hinner : ∀ u ∈ inner, u.rule.isPart = true := by
      have hrules := fits.inner
      intro u hu
      cases r <;> first | exact hrules u.rule (List.mem_map_of_mem hu) | cases hr
    refine sound_of_inner ?_ fun u hu => ih u hu (hinner u hu)
    cases r <;> first | rfl | cases hr

theorem sound_of_parts (hparts : ∀ s ∈ inner.map rule, s.isPart = true)
    (inside : ∀ u ∈ inner, u.Formed source) : ∀ u ∈ inner, u.Sound :=
  fun u hu => sound_of_isPart (inside u hu) (hparts u.rule (List.mem_map_of_mem hu))

/-- The pieces follow one another as their tokens do. -/
theorem run_pieces {b : Bool} (h : Rule.run b (ts.map rule) = true) :
    Piece.Run b (pieces limit depth ts) := by
  induction ts generalizing b with
  | nil =>
    cases b with
    | false => cases h
    | true => exact .done
  | cons t ts ih =>
    obtain ⟨r, k, len, inner⟩ := t
    rw [pieces]
    cases b with
    | false =>
      cases r with
      | unary op => exact .unary _ op (ih h)
      | grouped | template | array | object | regexp | number | string | literal | «variable» =>
        exact .operand _ (ih h)
      | _ => cases h
    | true =>
      cases r with
      | between op =>
        cases op with
        | choice => exact .choice _ _ (ih h)
        | _ => exact .between _ _ (ih h)
      | field | index => exact .step _ (ih h)
      | call optional => exact .call _ _ optional (ih h)
      | _ => cases h

/-- Every token is one piece. -/
theorem exists_pieces_eq (limit depth : Nat) (t : Token) : ∃ p, pieces limit depth [t] = [p] := by
  rw [pieces, pieces]
  exact ⟨_, rfl⟩

theorem mem_pieces_iff {p : Piece} :
    p ∈ pieces limit depth ts ↔ ∃ t ∈ ts, p ∈ pieces limit depth [t] := by
  induction ts with
  | nil => simp [pieces]
  | cons t ts ih =>
    rw [← List.singleton_append, pieces_append, List.mem_append, ih]
    simp

theorem tells_buildAll {S : Token → Prop} {E : ParseError → Prop}
    (hts : ∀ t ∈ ts, (t.build limit depth).Tells (S t) E) :
    (buildAll limit depth ts).Tells (∀ t ∈ ts, S t) E := by
  induction ts with
  | nil => exact fun _ ht => absurd ht List.not_mem_nil
  | cons t ts ih =>
    obtain ⟨ht, hts⟩ := List.forall_mem_cons.mp hts
    rw [buildAll]
    exact (ht.bind fun n _ => (ih hts).bind_ok fun ns _ => ⟨n :: ns, rfl⟩).imp
      List.forall_mem_cons.mpr fun _ => id

/-- Of two tokens two nodes are built. -/
theorem exists_pair_of_buildAll {v : Token} {ns : List Node}
    (h : buildAll limit depth [u, v] = .ok ns) : ∃ a b, ns = [a, b] := by
  rw [buildAll, buildAll, buildAll] at h
  cases hu : u.build limit depth with
  | error e =>
    rw [hu] at h
    cases h
  | ok a =>
    rw [hu] at h
    cases hv : v.build limit depth with
    | error e =>
      rw [hv] at h
      cases h
    | ok b =>
      rw [hv] at h
      cases h
      exact ⟨a, b, rfl⟩

/-- What is built of the token tells of the literals in it. -/
def BuildTells (limit : Nat) (t : Token) : Prop :=
  t.rule.isBuilt = true → ∀ depth, (t.build limit depth).Tells t.Sound (t.Blamed limit depth)

/-- What is inside the piece that the token is tells of the literals in it. -/
def PieceTells (limit : Nat) (t : Token) : Prop :=
  t.rule.isPiece = true → ∀ depth, ∀ p ∈ pieces limit depth [t],
    (p.Fine → t.Sound) ∧ ∀ e, p.Fails e → t.Blamed limit depth e

/-- A literal is built of its own characters. -/
theorem tells_literal (hr : r.isLiteral = true) (hparts : ∀ s ∈ inner.map rule, s.isPart = true)
    (inside : ∀ u ∈ inner, u.Formed source) : ((mk r k len inner).build limit depth).Tells
      (mk r k len inner).Sound ((mk r k len inner).Blamed limit depth) := by
  rw [build_of_isLiteral (t := mk r k len inner) hr]
  cases hbuild : (mk r k len inner).literalBuild with
  | error e => exact .inl ⟨_, .refl, hr, hbuild⟩
  | ok n =>
    intro u hu hu'
    cases hu with
    | refl => exact ⟨n, hbuild⟩
    | inside hv hu => exact sound_of_parts hparts inside _ hv u hu hu'

section Inside

variable (hinner : ∀ u ∈ inner, u.BuildTells limit)
include hinner

theorem tells_all (hr : r.isLiteral = false) (hbuilt : ∀ s ∈ inner.map rule, s.isBuilt = true) :
    (buildAll limit depth inner).Tells (mk r k len inner).Sound
      ((mk r k len inner).Blamed limit depth) := by
  refine (tells_buildAll fun u hu => ?_).imp (sound_of_inner hr) fun _ => id
  exact (hinner u hu (hbuilt u.rule (List.mem_map_of_mem hu)) depth).imp id
    fun _ => .of_inner hu (Nat.le_add_right _ _)

/-- Where a pair of tokens is inside, the node is built of two. -/
theorem tells_pair {q s : Rule} {f : List Node → Parsed Node} (hr : r.isLiteral = false)
    (hrules : inner.map rule = [q, s]) (hq : q.isBuilt = true) (hs : s.isBuilt = true)
    (hf : ∀ a b, ∃ n, f [a, b] = .ok n) :
    Parsed.Tells (mk r k len inner).Sound ((mk r k len inner).Blamed limit depth)
      (buildAll limit depth inner >>= f) := by
  have hbuilt : ∀ p ∈ inner.map rule, p.isBuilt = true := by
    rw [hrules]
    simp [hq, hs]
  refine (tells_all hinner hr hbuilt).bind_ok fun ns hns => ?_
  obtain ⟨u, us, rfl, -, hus⟩ := List.map_eq_cons_iff.mp hrules
  obtain ⟨v, rfl, -⟩ := List.map_eq_singleton_iff.mp hus
  obtain ⟨a, b, rfl⟩ := exists_pair_of_buildAll hns
  exact hf a b

/-- The node of the first token inside, behind which nothing can be wrong. -/
theorem tells_first {pos : Position} {q : Rule} {rs : List Rule} (hr : r.isLiteral = false)
    (hrules : inner.map rule = q :: rs) (hq : q.isBuilt = true)
    (hrest : ∀ u ∈ inner.tail, u.Sound) :
    (buildFirst limit depth pos inner).Tells (mk r k len inner).Sound
      ((mk r k len inner).Blamed limit depth) := by
  obtain ⟨u, us, rfl, rfl, -⟩ := List.map_eq_cons_iff.mp hrules
  rw [buildFirst]
  exact (hinner u List.mem_cons_self hq depth).imp
    (fun hu => sound_of_inner hr (List.forall_mem_cons.mpr ⟨hu, hrest⟩))
    fun _ => .of_inner List.mem_cons_self (Nat.le_add_right _ _)

theorem tells_single {pos : Position} {q : Rule} (hr : r.isLiteral = false)
    (hrules : inner.map rule = [q]) (hq : q.isBuilt = true) :
    (buildFirst limit depth pos inner).Tells (mk r k len inner).Sound
      ((mk r k len inner).Blamed limit depth) := by
  refine tells_first hinner hr hrules hq ?_
  obtain ⟨u, rfl, -⟩ := List.map_eq_singleton_iff.mp hrules
  exact fun u hu => absurd hu List.not_mem_nil

end Inside

/-- The pieces of an expression, unless it has too many levels. -/
theorem tells_expression (hpieces : ∀ u ∈ inner, u.PieceTells limit)
    (hrun : Rule.run false (inner.map rule) = true) :
    ((mk .expression k len inner).build limit depth).Tells (mk .expression k len inner).Sound
      ((mk .expression k len inner).Blamed limit depth) := by
  rw [build]
  split
  · next hlimit =>
    refine .inr ⟨rfl, ?_⟩
    rw [reach, if_pos rfl]
    omega
  · have htells : ∀ u ∈ inner, ∀ p ∈ pieces limit (depth + levels inner) [u],
        (p.Fine → u.Sound) ∧ ∀ e, p.Fails e → u.Blamed limit (depth + levels inner) e :=
      fun u hu => hpieces u hu (Rule.isPiece_of_run hrun u.rule (List.mem_map_of_mem hu)) _
    refine (Piece.comesOf_toTree (run_pieces hrun)).imp (fun hfine => ?_) ?_
    · refine sound_of_inner rfl fun u hu => ?_
      obtain ⟨p, hp⟩ := exists_pieces_eq limit (depth + levels inner) u
      have hmem : p ∈ pieces limit (depth + levels inner) [u] := hp ▸ List.mem_singleton_self p
      exact (htells u hu p hmem).1 (hfine p (mem_pieces_iff.mpr ⟨u, hu, hmem⟩))
    · rintro e ⟨p, hp, hfails⟩
      obtain ⟨u, hu, hmem⟩ := mem_pieces_iff.mp hp
      exact .of_inner hu (by simp) ((htells u hu p hmem).2 e hfails)

theorem sound_of_endOfText (ht : t.Formed source) (hr : t.rule = .endOfText) : t.Sound := by
  cases ht with
  | mk place fits inside =>
    cases hr
    exact sound_of_inner rfl (sound_of_parts fits.inner inside)

theorem buildTells_of_inner (ht : (mk r k len inner).Formed source)
    (hinner : ∀ u ∈ inner, u.BuildTells limit) (hpieces : ∀ u ∈ inner, u.PieceTells limit) :
    (mk r k len inner).BuildTells limit := by
  obtain ⟨place, fits, inside⟩ := ht
  have hrules := fits.inner
  intro hr depth
  cases r with
  | program =>
    rw [build]
    refine tells_first hinner rfl hrules rfl fun u hu => ?_
    have hend : u.rule ∈ inner.tail.map rule := List.mem_map_of_mem hu
    rw [List.map_tail, show inner.map rule = _ from hrules] at hend
    exact sound_of_endOfText (inside u (List.mem_of_mem_tail hu)) (List.mem_singleton.mp hend)
  | statements =>
    rw [build]
    refine (tells_all hinner rfl fun s hs => ?_).bind_ok fun ns _ => ?_
    · rcases hrules.2 s hs with rfl | rfl <;> rfl
    · split <;> exact ⟨_, rfl⟩
  | assignment =>
    rw [build]
    exact tells_pair hinner rfl hrules rfl rfl fun a b => ⟨_, rfl⟩
  | objectItem =>
    obtain ⟨s, hs, hrules⟩ := hrules
    have hkey : s.isBuilt = true := by
      cases s <;> first | rfl | cases hs
    rw [build]
    exact tells_pair hinner rfl hrules hkey rfl fun a b => ⟨_, rfl⟩
  | array | object =>
    rw [build]
    exact (tells_all hinner rfl fun s hs => by rw [hrules s hs]; rfl).bind_ok fun ns _ => ⟨_, rfl⟩
  | template =>
    rw [build]
    refine (tells_all hinner rfl fun s hs => ?_).bind_ok fun ns _ => ⟨_, rfl⟩
    rcases hrules s hs with rfl | rfl <;> rfl
  | grouped | computedKey | templateHole =>
    rw [build]
    exact tells_single hinner rfl hrules rfl
  | expression => exact tells_expression hpieces hrules
  | number | string | templateText | regexp | literal => exact tells_literal rfl hrules inside
  | «variable» | identifier | name =>
    rw [build]
    exact sound_of_inner rfl (sound_of_parts hrules inside)
  | _ => cases hr

theorem pieceTells_of_inner (ht : (mk r k len inner).Formed source)
    (hinner : ∀ u ∈ inner, u.BuildTells limit) (hbuild : (mk r k len inner).BuildTells limit) :
    (mk r k len inner).PieceTells limit := by
  obtain ⟨place, fits, inside⟩ := ht
  have hrules := fits.inner
  intro hpiece depth
  have hsign : ∀ {p : Piece}, r.isLiteral = false → (∀ s ∈ inner.map rule, s.isPart = true) →
      (∀ e, ¬ p.Fails e) → (p.Fine → (mk r k len inner).Sound) ∧
        ∀ e, p.Fails e → (mk r k len inner).Blamed limit depth e := fun hr hparts hp =>
    ⟨fun _ => sound_of_inner hr (sound_of_parts hparts inside), fun e he => absurd he (hp e)⟩
  simp only [pieces, List.mem_singleton, forall_eq]
  cases r with
  | unary op => exact hsign rfl hrules fun _ => id
  | between op =>
    cases op with
    | choice => exact (tells_single hinner rfl hrules rfl).and
    | _ => exact hsign rfl hrules fun _ => id
  | field | index => exact ((tells_single hinner rfl hrules rfl).map _).and
  | call => exact (tells_all hinner rfl fun s hs => by rw [hrules s hs]; rfl).and
  | grouped | template | array | object | regexp | number | string | literal | «variable» =>
    exact (hbuild rfl depth).and
  | _ => cases hpiece

/-- What is built of a token of the text tells of the literals in it. -/
theorem Formed.tells (ht : t.Formed source) (limit : Nat) :
    t.BuildTells limit ∧ t.PieceTells limit := by
  induction ht with
  | mk place fits inside ih =>
    have hbuild := buildTells_of_inner (.mk place fits inside) (fun u hu => (ih u hu).1)
      fun u hu => (ih u hu).2
    exact ⟨hbuild, pieceTells_of_inner (.mk place fits inside) (fun u hu => (ih u hu).1) hbuild⟩

theorem isBuilt_of_build {n : Node} (h : t.build limit depth = .ok n) : t.rule.isBuilt = true := by
  obtain ⟨r, k, len, inner⟩ := t
  cases r <;> first | rfl | cases h

/-- Where there is a tree, something is built of every literal in the text. -/
theorem Formed.sound_of_build (ht : t.Formed source) {n : Node} (h : t.build limit depth = .ok n) :
    t.Sound := by
  have htells := (ht.tells limit).1 (isBuilt_of_build h) depth
  rwa [h] at htells

end Token

end ExprLang
