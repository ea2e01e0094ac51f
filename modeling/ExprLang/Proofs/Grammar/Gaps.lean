import ExprLang.Proofs.Grammar.Locality

/-!
# ExprLang.Proofs.Grammar.Gaps

Where blanks are skipped.  Reading a text, the grammar skips blanks between the parts of a sequence
and before each part of a repetition; `Pattern.gaps` follows a reading that succeeds and gives the
places where that happens, behind one part and before the blanks.  `programGaps` gives those of a
whole text.

The gaps stand in order: all that is read before a gap is read up to it, and all that is read after
it is read from behind its blanks (`Pattern.ordered_gaps`).
-/

namespace ExprLang

/-- Gives the places where blanks are skipped in a reading with the spacing given. -/
abbrev GapReader := Spacing → Cursor → List Cursor

/-- The place behind a part, if blanks are skipped there. -/
def Spacing.gap (sp : Spacing) (k : Cursor) : List Cursor := if sp = .free then [k] else []

/-- The gaps of a repetition that goes on from `k`; `next?` gives the place behind one part, and
`gaps` the gaps inside it. -/
def repeatGaps (next? : Cursor → Option Cursor) (gaps : Cursor → List Cursor) (sp : Spacing) :
    Nat → Cursor → List Cursor
  | 0, _ => []
  | fuel + 1, k =>
    match next? (k.skip sp) with
    | none => []
    | some k' => sp.gap k ++ (gaps (k.skip sp) ++ repeatGaps next? gaps sp fuel k')

namespace Pattern

/-- The place that a pattern reads up to. -/
def next? (n : Reader) (x : Pattern) (sp : Spacing) (k : Cursor) : Option Cursor :=
  (x.read n ⟨sp, false⟩ .empty ⟨k, []⟩).result.map Progress.cursor

/-- The places where blanks are skipped while a pattern is read, if it can be read. -/
@[grind =]
def gaps (n : Reader) (G : GapReader) : Pattern → GapReader
  | .text _, _, _ | .one _, _, _ | .stop, _, _ | .unless _, _, _ => []
  | .seq x y, sp, k =>
    match x.next? n sp k with
    | none => []
    | some k' => x.gaps n G sp k ++ (sp.gap k' ++ y.gaps n G sp (k'.skip sp))
  | .either x y, sp, k => if (x.next? n sp k).isSome then x.gaps n G sp k else y.gaps n G sp k
  | .maybe x, sp, k => if (x.next? n sp k).isSome then x.gaps n G sp k else []
  | .many x, sp, k =>
    match x.next? n sp k with
    | none => []
    | some k' => x.gaps n G sp k ++
        repeatGaps (x.next? n sp) (x.gaps n G sp) sp (k'.rest.length + 1) k'
  | .rule _ kind x, sp, k => x.gaps n G (kind.body sp) k
  | .recurse, sp, k => G sp k

end Pattern

/-- The gaps of an expression that is nested at most `depth` times. -/
def expressionGaps : Nat → GapReader
  | 0, _, _ => []
  | depth + 1, sp, k => Language.expression.gaps (readExpression depth) (expressionGaps depth) sp k

theorem expressionGaps_succ (depth : Nat) : expressionGaps (depth + 1) =
    Language.expression.gaps (readExpression depth) (expressionGaps depth) := by
  funext sp k
  rw [expressionGaps]

/-- The gaps of a whole text. -/
def programGaps (text : List Char) : List Cursor :=
  Language.program.gaps (readExpression (text.length + 1)) (expressionGaps (text.length + 1)) .free
    (.ofText text)

/-! ## The gaps of what is accepted -/

namespace Pattern

variable {n : Reader} {G : GapReader} {x y : Pattern} {sp : Spacing} {k k' k₁ : Cursor}
  {ts us : List Token}

theorem Accepts.next?_eq (h : x.Accepts n ⟨sp, false⟩ k ts k') : x.next? n sp k = some k' := by
  obtain ⟨a, ha⟩ := h .empty []
  rw [next?, ha]
  rfl

theorem Rejects.next?_eq (h : x.Rejects n ⟨sp, false⟩ k) : x.next? n sp k = none := by
  obtain ⟨a, ha⟩ := h .empty []
  rw [next?, ha]
  rfl

theorem gaps_seq (h : x.Accepts n ⟨sp, false⟩ k ts k₁) : (Pattern.seq x y).gaps n G sp k =
    x.gaps n G sp k ++ (sp.gap k₁ ++ y.gaps n G sp (k₁.skip sp)) := by
  rw [gaps, h.next?_eq]

theorem gaps_either_left (h : x.Accepts n ⟨sp, false⟩ k ts k₁) :
    (Pattern.either x y).gaps n G sp k = x.gaps n G sp k := by
  rw [gaps, h.next?_eq]
  rfl

theorem gaps_either_right (h : x.Rejects n ⟨sp, false⟩ k) :
    (Pattern.either x y).gaps n G sp k = y.gaps n G sp k := by
  rw [gaps, h.next?_eq]
  rfl

theorem gaps_maybe (h : x.Accepts n ⟨sp, false⟩ k ts k₁) :
    (Pattern.maybe x).gaps n G sp k = x.gaps n G sp k := by
  rw [gaps, h.next?_eq]
  rfl

theorem gaps_maybe_of_rejects (h : x.Rejects n ⟨sp, false⟩ k) :
    (Pattern.maybe x).gaps n G sp k = [] := by
  rw [gaps, h.next?_eq]
  rfl

theorem gaps_many (h : x.Accepts n ⟨sp, false⟩ k ts k₁) : (Pattern.many x).gaps n G sp k =
    x.gaps n G sp k ++ repeatGaps (x.next? n sp) (x.gaps n G sp) sp (k₁.rest.length + 1) k₁ := by
  rw [gaps, h.next?_eq]

theorem gaps_many_of_rejects (h : x.Rejects n ⟨sp, false⟩ k) :
    (Pattern.many x).gaps n G sp k = [] := by
  rw [gaps, h.next?_eq]

theorem repeatGaps_of_accepts (h : x.Accepts n ⟨sp, false⟩ (k.skip sp) ts k₁) (fuel : Nat) :
    repeatGaps (x.next? n sp) (x.gaps n G sp) sp (fuel + 1) k = sp.gap k ++
      (x.gaps n G sp (k.skip sp) ++ repeatGaps (x.next? n sp) (x.gaps n G sp) sp fuel k₁) := by
  rw [repeatGaps, h.next?_eq]

theorem repeatGaps_of_rejects (h : x.Rejects n ⟨sp, false⟩ (k.skip sp)) (fuel : Nat) :
    repeatGaps (x.next? n sp) (x.gaps n G sp) sp fuel k = [] := by
  cases fuel with
  | zero => rfl
  | succ fuel => rw [repeatGaps, h.next?_eq]

end Pattern

/-! ## Patterns without gaps -/

namespace Pattern

/-- Whether the pattern skips nothing, read with the spacing given. -/
def gapless : Spacing → Pattern → Bool
  | _, .text _ | _, .one _ | _, .stop | _, .unless _ => true
  | sp, .seq x y => sp != .free && (x.gapless sp && y.gapless sp)
  | sp, .either x y => x.gapless sp && y.gapless sp
  | sp, .maybe x => x.gapless sp
  | sp, .many x => sp != .free && x.gapless sp
  | sp, .rule _ kind x => x.gapless (kind.body sp)
  | _, .recurse => false

variable {n : Reader} {G : GapReader} {x : Pattern} {sp : Spacing}

theorem repeatGaps_of_gapless (hsp : sp ≠ .free) (hx : ∀ k, x.gaps n G sp k = []) (fuel : Nat)
    (k : Cursor) : repeatGaps (x.next? n sp) (x.gaps n G sp) sp fuel k = [] := by
  induction fuel generalizing k with
  | zero => rfl
  | succ fuel ih =>
    rw [repeatGaps]
    split
    · rfl
    · rw [hx, ih, Spacing.gap, if_neg hsp]
      rfl

theorem gaps_of_gapless (hx : x.gapless sp = true) (k : Cursor) : x.gaps n G sp k = [] := by
  induction x generalizing sp k with
  | text _ | one _ | stop | «unless» _ => rfl
  | seq x y ihx ihy =>
    simp only [gapless, Bool.and_eq_true, bne_iff_ne] at hx
    rw [gaps]
    split
    · rfl
    · rw [ihx hx.2.1, ihy hx.2.2, Spacing.gap, if_neg hx.1]
      rfl
  | either x y ihx ihy =>
    rw [gapless, Bool.and_eq_true] at hx
    rw [gaps, ihx hx.1, ihy hx.2, ite_self]
  | maybe x ih => rw [gaps, ih hx, ite_self]
  | many x ih =>
    simp only [gapless, Bool.and_eq_true, bne_iff_ne] at hx
    rw [gaps]
    split
    · rfl
    · rw [ih hx.2, repeatGaps_of_gapless hx.1 (fun k => ih hx.2 k)]
      rfl
  | rule r kind x ih => exact ih hx k
  | recurse => cases hx

end Pattern

/-! ## The order of the gaps -/

namespace Cursor

/-- The place is read up to on the way from `k` to `k'`, and its blanks are left behind. -/
structure GapOf (k k' c : Cursor) : Prop where
  before : c.rest <:+ k.rest
  behind : k'.rest <:+ (c.skip .free).rest

theorem Reaches.suffix {b : Bool} {k k' : Cursor} (h : k.Reaches b k') : k'.rest <:+ k.rest := by
  obtain ⟨i, -, rfl, -⟩ := h
  rw [rest_advance]
  exact List.drop_suffix i _

theorem skip_suffix (k : Cursor) (sp : Spacing) : (k.skip sp).rest <:+ k.rest :=
  (Reaches.skip k sp).suffix

variable {k k₀ k₁ k' c : Cursor} {sp : Spacing}

theorem GapOf.mono (h : k.GapOf k' c) (hk : k.rest <:+ k₀.rest) (hk' : k₁.rest <:+ k'.rest) :
    k₀.GapOf k₁ c := ⟨h.before.trans hk, hk'.trans h.behind⟩

/-- The place behind a part. -/
theorem gapOf_of_mem_gap (h : c ∈ sp.gap k₁) (hk : k₁.rest <:+ k.rest)
    (hk' : k'.rest <:+ (k₁.skip sp).rest) : k.GapOf k' c := by
  unfold Spacing.gap at h
  split at h
  · next hsp =>
    obtain rfl := List.mem_singleton.mp h
    rw [hsp] at hk'
    exact ⟨hk, hk'⟩
  · cases h

end Cursor

/-- The gaps given stand on the way that the reader goes. -/
def GapReader.Ordered (G : GapReader) (n : Reader) : Prop :=
  ∀ ⦃sp k ts k'⦄, n.Accepts ⟨sp, false⟩ k ts k' → ∀ c ∈ G sp k, k.GapOf k' c

namespace Pattern

variable {n : Reader} {G : GapReader} {x : Pattern} {sp : Spacing} {k k' k₁ : Cursor}
  {ts us : List Token}

theorem Accepts.suffix (hp : n.Proceeds) (h : x.Accepts n ⟨sp, false⟩ k ts k') :
    k'.rest <:+ k.rest := (h.reaches hp).suffix

theorem ordered_repeatGaps (hn : n.Settled) (hp : n.Proceeds)
    (hx : (x.gaps n G).Ordered (x.read n)) {fuel : Nat} {a a' : Attempts} {q : Progress}
    (h : repeatReading (x.read n) ⟨sp, false⟩ fuel a ⟨k, us⟩ = ⟨a', some q⟩) :
    q.cursor.rest <:+ k.rest ∧
      ∀ c ∈ repeatGaps (x.next? n sp) (x.gaps n G sp) sp fuel k, k.GapOf q.cursor c := by
  induction fuel generalizing a us k with
  | zero =>
    cases h
    exact ⟨List.suffix_rfl, fun c hc => absurd hc List.not_mem_nil⟩
  | succ fuel ih =>
    rw [repeatReading, Progress.skip_mk] at h
    rcases accepts_or_rejects hn x ⟨sp, false⟩ (k.skip sp) with ⟨ts, k₁, hacc⟩ | hrej
    · obtain ⟨a₁, h₁⟩ := hacc a us
      rw [h₁] at h
      obtain ⟨hsuffix, hrest⟩ := ih h
      have hskip := k.skip_suffix sp
      have hacc : x.Accepts n ⟨sp, false⟩ (k.skip sp) ts k₁ := hacc
      have hstep := hacc.suffix hp
      refine ⟨(hsuffix.trans hstep).trans hskip, fun c hc => ?_⟩
      rw [repeatGaps_of_accepts hacc, List.mem_append, List.mem_append] at hc
      rcases hc with hc | hc | hc
      · exact Cursor.gapOf_of_mem_gap hc List.suffix_rfl (hsuffix.trans hstep)
      · exact (hx hacc c hc).mono hskip hsuffix
      · exact (hrest c hc).mono (hstep.trans hskip) List.suffix_rfl
    · obtain ⟨a₁, h₁⟩ := hrej a us
      rw [h₁] at h
      cases h
      rw [repeatGaps_of_rejects hrej]
      exact ⟨List.suffix_rfl, fun c hc => absurd hc List.not_mem_nil⟩

/-- The gaps of a pattern stand on the way that it is read. -/
theorem ordered_gaps (hn : n.Settled) (hp : n.Proceeds) (hG : G.Ordered n) (x : Pattern) :
    (x.gaps n G).Ordered (x.read n) := by
  induction x with
  | text _ | one _ | stop | «unless» _ => exact fun _ _ _ _ _ _ hc => nomatch hc
  | seq x y ihx ihy =>
    intro sp k ts k' h c hc
    obtain ⟨us, vs, k₁, hxacc, hyacc, rfl⟩ := (accepts_seq_iff hn).mp h
    have hfirst := hxacc.suffix hp
    have hsecond := hyacc.suffix hp
    have hskip := k₁.skip_suffix sp
    rw [gaps_seq hxacc, List.mem_append, List.mem_append] at hc
    rcases hc with hc | hc | hc
    · exact (ihx hxacc c hc).mono List.suffix_rfl (hsecond.trans hskip)
    · exact Cursor.gapOf_of_mem_gap hc hfirst hsecond
    · exact (ihy hyacc c hc).mono (hskip.trans hfirst) List.suffix_rfl
  | either x y ihx ihy =>
    intro sp k ts k' h c hc
    rcases (accepts_either_iff hn).mp h with hacc | ⟨hrej, hacc⟩
    · rw [gaps_either_left hacc] at hc
      exact ihx hacc c hc
    · rw [gaps_either_right hrej] at hc
      exact ihy hacc c hc
  | maybe x ih =>
    intro sp k ts k' h c hc
    rcases (accepts_maybe_iff hn).mp h with hacc | ⟨hrej, -, -⟩
    · rw [gaps_maybe hacc] at hc
      exact ih hacc c hc
    · rw [gaps_maybe_of_rejects hrej] at hc
      cases hc
  | many x ih =>
    intro sp k ts k' h c hc
    rcases accepts_or_rejects hn x ⟨sp, false⟩ k with ⟨us, k₁, hacc⟩ | hrej
    · have hacc : x.Accepts n ⟨sp, false⟩ k us k₁ := hacc
      obtain ⟨a, ha⟩ := h .empty []
      obtain ⟨a₁, h₁⟩ := hacc .empty []
      rw [read_many, h₁] at ha
      obtain ⟨hsuffix, hrest⟩ := ordered_repeatGaps hn hp ih ha
      rw [gaps_many hacc, List.mem_append] at hc
      rcases hc with hc | hc
      · exact (ih hacc c hc).mono List.suffix_rfl hsuffix
      · exact (hrest c hc).mono (hacc.suffix hp) List.suffix_rfl
    · rw [gaps_many_of_rejects hrej] at hc
      cases hc
  | rule r kind x ih =>
    intro sp k ts k' h c hc
    obtain ⟨us, hbody, -⟩ := (accepts_rule_iff hn).mp h
    exact ih hbody c hc
  | recurse => exact hG

end Pattern

theorem ordered_expressionGaps (d : Nat) : (expressionGaps d).Ordered (readExpression d) := by
  induction d with
  | zero => exact fun _ _ _ _ _ _ hc => nomatch hc
  | succ d ih =>
    rw [expressionGaps_succ, readExpression_succ]
    exact Pattern.ordered_gaps (settled_readExpression d) (proceeds_readExpression d) ih _

/-- A reader of what is nested in a pattern, and its gaps: it succeeds or fails, reads on where it
succeeds, and does the same wherever the same is ahead. -/
structure Reader.Regular (n : Reader) (G : GapReader) : Prop where
  settled : n.Settled
  proceeds : n.Proceeds
  placeless : n.Placeless
  ordered : G.Ordered n

theorem regular_readExpression (d : Nat) : (readExpression d).Regular (expressionGaps d) :=
  ⟨settled_readExpression d, proceeds_readExpression d, placeless_readExpression d,
    ordered_expressionGaps d⟩

/-! ## The depth does not matter -/

/-- Two gap readers that give the same where less than `len` characters are ahead. -/
def GapReader.SameBelow (G₁ G₂ : GapReader) (len : Nat) : Prop :=
  ∀ sp k, k.rest.length < len → G₁ sp k = G₂ sp k

namespace Pattern

variable {n₁ n₂ : Reader} {G₁ G₂ : GapReader} {len : Nat} {x : Pattern} {sp : Spacing} {k k' : Cursor}

/-- A pattern that fits in reads up to the same place. -/
theorem next?_eq_of_fitsIn (hn : n₁.SameBelow n₂ len) (hk : x.FitsIn len k) :
    x.next? n₁ sp k = x.next? n₂ sp k := by
  rw [next?, next?, (leads_of_fitsIn hn x ⟨sp, false⟩ k hk .empty []).1]

theorem reaches_of_next? (hn : n₁.SameBelow n₂ len) (hk : x.FitsIn len k)
    (h : x.next? n₁ sp k = some k') : k.Reaches x.nullable k' := by
  obtain ⟨q, hq, rfl⟩ := Option.map_eq_some_iff.mp h
  obtain ⟨-, -, hreaches⟩ :=
    (leads_of_fitsIn hn x ⟨sp, false⟩ k hk .empty []).2 _ q (by rw [← hq])
  exact hreaches

theorem repeatGaps_eq_of_fitsIn (hn : n₁.SameBelow n₂ len)
    (hx : ∀ sp k, x.FitsIn len k → x.gaps n₁ G₁ sp k = x.gaps n₂ G₂ sp k) (hk : x.FitsIn len k)
    (fuel : Nat) : repeatGaps (x.next? n₁ sp) (x.gaps n₁ G₁ sp) sp fuel k =
      repeatGaps (x.next? n₂ sp) (x.gaps n₂ G₂ sp) sp fuel k := by
  induction fuel generalizing k with
  | zero => rfl
  | succ fuel ih =>
    have hskip : x.FitsIn len (k.skip sp) := hk.of_le (Cursor.Reaches.skip k sp).length_le
    rw [repeatGaps, repeatGaps, ← next?_eq_of_fitsIn hn hskip, hx sp _ hskip]
    split
    · rfl
    · next k' hnext => rw [ih (hskip.of_le (reaches_of_next? hn hskip hnext).length_le)]

/-- A pattern that fits in has the same gaps. -/
theorem gaps_eq_of_fitsIn (hn : n₁.SameBelow n₂ len) (hG : G₁.SameBelow G₂ len)
    (hk : x.FitsIn len k) : x.gaps n₁ G₁ sp k = x.gaps n₂ G₂ sp k := by
  induction x generalizing sp k with
  | text _ | one _ | stop | «unless» _ => rfl
  | seq x y ihx ihy =>
    rw [gaps, gaps, ← next?_eq_of_fitsIn hn hk.left, ihx hk.left]
    split
    · rfl
    · next k' hnext =>
      have hreach := reaches_of_next? hn hk.left hnext
      rw [ihy (hk.right hreach (Cursor.Reaches.skip k' sp).length_le)]
  | either x y ihx ihy =>
    rw [gaps, gaps, ← next?_eq_of_fitsIn hn hk.first, ihx hk.first, ihy hk.second]
  | maybe x ih =>
    have hx : x.FitsIn len k := hk.part id
    rw [gaps, gaps, ← next?_eq_of_fitsIn hn hx, ih hx]
  | many x ih =>
    have hx : x.FitsIn len k := hk.part id
    rw [gaps, gaps, ← next?_eq_of_fitsIn hn hx, ih hx]
    split
    · rfl
    · next k' hnext =>
      rw [repeatGaps_eq_of_fitsIn hn (fun _ _ h => ih h)
        (hx.of_le (reaches_of_next? hn hx hnext).length_le)]
  | rule r kind x ih => exact ih (hk.part id)
  | recurse =>
    rcases hk with hlt | ⟨-, hguarded⟩
    · exact hG sp k hlt
    · cases hguarded

end Pattern

theorem sameBelow_expressionGaps (d₁ d₂ : Nat) :
    (expressionGaps d₁).SameBelow (expressionGaps d₂) (min d₁ d₂) := by
  induction d₁ generalizing d₂ with
  | zero => exact fun sp k hk => absurd hk (by omega)
  | succ d₁ ih =>
    cases d₂ with
    | zero => exact fun sp k hk => absurd hk (by omega)
    | succ d₂ =>
      rw [expressionGaps_succ, expressionGaps_succ]
      exact fun sp k hk => Pattern.gaps_eq_of_fitsIn (sameBelow_readExpression d₁ d₂) (ih d₂)
        (.of_guarded guarded_expression (by omega))

/-- Where more unfoldings than characters are left, their number does not matter. -/
theorem Pattern.gaps_readExpression_eq {d₁ d₂ : Nat} {k : Cursor} (h₁ : k.rest.length < d₁)
    (h₂ : k.rest.length < d₂) (x : Pattern) (sp : Spacing) :
    x.gaps (readExpression d₁) (expressionGaps d₁) sp k =
      x.gaps (readExpression d₂) (expressionGaps d₂) sp k :=
  gaps_eq_of_fitsIn (sameBelow_readExpression d₁ d₂) (sameBelow_expressionGaps d₁ d₂)
    (.inl (by omega))

end ExprLang
