import ExprLang.Proofs.Source.Place
import ExprLang.Proofs.Tree.Spelling

/-!
# ExprLang.Proofs.Tree.Tokens

What the grammar lets through.

A token that is read from a text stands at a place of this text and begins with the sign of its
rule, and the rules of the tokens inside it are as its own rule says (`Token.Formed`).
`Leaves` is a triple about a pattern read from anywhere in the text, with one rule for each
constructor; the lemmas about the grammar follow the definitions of `Language` from the bottom up,
and an induction on the depth of the recursion closes them (`formed_of_tokenOf`).
-/

namespace ExprLang

open ExprLang.Language Pattern

/-! ## What a token says of the text -/

/-- The sign that a token begins with, if its rule has one. -/
def Rule.sign : Rule → List Char
  | .unary op => op.symbol.toList
  | .between op => op.symbol.toList
  | .field optional => if optional then ['?', '.'] else ['.']
  | .index optional => if optional then ['?', '.'] else ['[']
  | .call optional => if optional then ['?', '.'] else ['(']
  | _ => []

/-- The rules of operands. -/
def Rule.isOperand : Rule → Bool
  | .grouped | .template | .array | .object | .regexp | .number | .string | .literal
  | .variable => true
  | _ => false

/-- The rules of the pieces of an expression. -/
def Rule.isPiece : Rule → Bool
  | .unary _ | .between _ | .field _ | .index _ | .call _ => true
  | r => r.isOperand

/-- The rules of steps. -/
def Rule.isStep : Rule → Bool
  | .field _ | .index _ | .call _ => true
  | _ => false

/-- Whether the rules of the pieces follow one another as in an expression: operators before each
operand, steps behind it, and then an operator or the end.  The flag tells whether an operand was
just read. -/
def Rule.run : Bool → List Rule → Bool
  | true, [] => true
  | true, .between _ :: rs => run false rs
  | true, r :: rs => r.isStep && run true rs
  | false, [] => false
  | false, .unary _ :: rs => run false rs
  | false, r :: rs => r.isOperand && run true rs

/-- The rules of the keys of an object. -/
def Rule.isKey : Rule → Bool
  | .computedKey | .string | .number | .name => true
  | _ => false

/-- The rules of the parts of words. -/
def Rule.isPart : Rule → Bool
  | .hexadecimal | .octal | .binary | .decimal | .doubleQuoted | .singleQuoted | .regexpBody
  | .regexpFlags => true
  | _ => false

/-- What the rules of the tokens inside a token are. -/
def Rule.Holds (rs : List Rule) : Rule → Prop
  | .program => rs = [.statements, .endOfText]
  | .statements => rs ≠ [] ∧ ∀ r ∈ rs, r = .assignment ∨ r = .expression
  | .assignment => rs = [.identifier, .expression]
  | .expression => Rule.run false rs = true
  | .grouped | .computedKey | .templateHole | .index _ | .between .choice => rs = [.expression]
  | .field _ => rs = [.name]
  | .array | .call _ => ∀ r ∈ rs, r = .expression
  | .object => ∀ r ∈ rs, r = .objectItem
  | .objectItem => ∃ key, key.isKey = true ∧ rs = [key, .expression]
  | .template => ∀ r ∈ rs, r = .templateText ∨ r = .templateHole
  | _ => ∀ r ∈ rs, r.isPart = true

/-- A name that is no keyword. -/
def IsPlain (w : List Char) : Prop := isName w = true ∧ w ∉ keywords.map String.toList

/-- A text that begins with an assignment to a name: the name, and after blanks an equals sign that
is neither doubled nor followed by a tilde. -/
def BeginsAssignment (name text : List Char) : Prop :=
  ∃ l₁ l₂, text = name ++ l₁ ∧ l₁.drop (blankLength l₁) = '=' :: l₂ ∧
    ∀ c ∈ (l₂.drop (blankLength l₂)).head?, c ≠ '=' ∧ c ≠ '~'

/-- A text that begins with a step to a field: the sign, and after blanks a name. -/
def BeginsField (sign name text : List Char) : Prop :=
  isName name = true ∧ ∃ l, text = sign ++ l ∧ name <+: l.drop (blankLength l)

/-- The rules of tokens that say more of the text than their sign. -/
def Rule.isNaming : Rule → Bool
  | .identifier | .assignment | .field _ => true
  | _ => false

/-- A token alone: its sign, the rules inside, and for names, assignments and fields the text
itself. -/
structure Token.Fits (t : Token) : Prop where
  sign : t.rule.sign <+: t.start.rest
  inner : t.rule.Holds (t.inner.map Token.rule)
  plain : t.rule = .identifier → IsPlain t.chars
  assigns : t.rule = .assignment → ∀ u ∈ t.inner.head?, BeginsAssignment u.chars u.start.rest
  names : ∀ optional, t.rule = .field optional →
    ∀ u ∈ t.inner.head?, BeginsField t.rule.sign u.chars t.start.rest

/-- A token that says no more of the text than its sign. -/
theorem Token.Fits.of_sign {t : Token} (hother : t.rule.isNaming = false)
    (hsign : t.rule.sign <+: t.start.rest) (hinner : t.rule.Holds (t.inner.map Token.rule)) :
    t.Fits := by
  have hne : ∀ r : Rule, r.isNaming = true → t.rule ≠ r := fun r hr h =>
    Bool.false_ne_true (hother.symm.trans (h ▸ hr))
  exact ⟨hsign, hinner, fun h => absurd h (hne _ rfl), fun h => absurd h (hne _ rfl),
    fun _ h => absurd h (hne _ rfl)⟩

/-- A token of a text, with everything inside it. -/
inductive Token.Formed (source : List Char) : Token → Prop
  | mk {r : Rule} {k : Cursor} {len : Nat} {inner : List Token} (place : k.In source)
      (fits : (Token.mk r k len inner).Fits) (inside : ∀ t ∈ inner, Formed source t) :
      Formed source (.mk r k len inner)

/-! ## What readings begin with -/

/-- The word that whatever a pattern reads begins with. -/
def Pattern.front : Pattern → List Char
  | .text w => w
  | .seq x _ => x.front
  | .rule _ _ x => x.front
  | _ => []

namespace Pattern

variable {n : Reader} {x y : Pattern} {m : Mode} {k : Cursor} {post : List Token → Cursor → Prop}

theorem front_isPrefix {a a' : Attempts} {ts : List Token} {q : Progress}
    (h : x.read n m a ⟨k, ts⟩ = ⟨a', some q⟩) : x.front <+: k.rest := by
  induction x generalizing m a a' ts q with
  | text w =>
    rw [read_text] at h
    split at h
    · next hw => exact List.isPrefixOf_iff_prefix.mp hw
    · cases h
  | seq x y ihx _ =>
    rw [read_seq] at h
    split at h
    · cases h
    · next hx => exact ihx hx
  | rule r kind x ih =>
    rw [read_rule, readRule] at h
    dsimp only at h
    split at h
    · cases h
    · next hx => exact ih hx
  | _ => exact List.nil_prefix

/-- What is known of a successful reading holds together with how the text begins. -/
theorem Leads.front (hx : x.Leads n n m k post) :
    x.Leads n n m k fun ts k' => x.front <+: k.rest ∧ post ts k' := by
  intro a ts
  refine ⟨rfl, fun a' q hq => ?_⟩
  obtain ⟨new, hnew, hpost⟩ := (hx a ts).2 a' q hq
  exact ⟨new, hnew, front_isPrefix hq, hpost⟩

/-- A reading that is known leads where it leads. -/
theorem Accepts.leads {ts : List Token} {k' : Cursor} (h : x.Accepts n m k ts k')
    (hpost : post ts k') : x.Leads n n m k post := by
  intro a us
  refine ⟨rfl, fun a' q hq => ?_⟩
  obtain ⟨a₁, h₁⟩ := h a us
  rw [h₁] at hq
  cases hq
  exact ⟨ts, rfl, hpost⟩

/-- Where a pattern leads, it is accepted. -/
theorem Leads.of_accepts (h : x.Leads n n m k post) {ts : List Token} {k' : Cursor}
    (hacc : x.Accepts n m k ts k') : post ts k' := by
  obtain ⟨a, ha⟩ := hacc .empty []
  obtain ⟨us, hus, hpost⟩ := (h .empty []).2 a _ ha
  obtain rfl : ts = us := by simpa using hus
  exact hpost

/-- A reading that fails leads nowhere. -/
theorem Rejects.leads (h : x.Rejects n m k) : x.Leads n n m k post := by
  intro a us
  refine ⟨rfl, fun a' q hq => ?_⟩
  obtain ⟨a₁, h₁⟩ := h a us
  rw [h₁] at hq
  cases hq

/-- Looking ahead succeeds only where the pattern looked for is not accepted. -/
theorem Leads.unless (h : (∀ ts k', ¬ x.Accepts n { m with ahead := true } k ts k') → post [] k) :
    (Pattern.unless x).Leads n n m k post := by
  intro a us
  refine ⟨rfl, fun a' q hq => ?_⟩
  rw [read_unless] at hq
  split at hq
  · next hx =>
    cases hq
    refine ⟨[], rfl, h fun ts k' haccepts => ?_⟩
    obtain ⟨a₁, h₁⟩ := haccepts a us
    rw [h₁] at hx
    cases hx
  · cases hq

/-! ## Names -/

/-- A name is read to its end. -/
theorem leads_nameBody (hm : m.spacing ≠ .free) :
    (seq (one isNameStart) (many (one isNamePart))).Leads n n m k fun ts k' =>
      ts = [] ∧ ∃ w l, k.rest = w ++ l ∧ isName w = true ∧ l.head?.any isNamePart = false ∧
        k' = k.advance w.length := by
  cases hk : k.rest with
  | nil => exact (rejects_seq (rejects_one (by simp [hk]))).leads
  | cons c l =>
    cases hc : isNameStart c with
    | false =>
      refine (rejects_seq (rejects_one fun d l' hd => ?_)).leads
      rw [hk, List.cons.injEq] at hd
      rw [← hd.1, hc]
    | true =>
      have hsplit : k.rest = c :: l.takeWhile isNamePart ++ l.dropWhile isNamePart := by
        rw [hk, List.cons_append, List.takeWhile_append_dropWhile]
      have hname : isName (c :: l.takeWhile isNamePart) = true := by
        rw [isName, hc, Bool.true_and]
        exact List.all_takeWhile
      have hend : (l.dropWhile isNamePart).head?.any isNamePart = false := by
        have hnot := List.head?_dropWhile_not isNamePart l
        cases hd : (l.dropWhile isNamePart).head? with
        | none => rfl
        | some d =>
          rw [hd] at hnot
          simpa using hnot
      exact (accepts_nameBody hm hsplit hname hend).leads
        ⟨rfl, _, _, hk ▸ hsplit, hname, hend, rfl⟩

/-- The token of a name is the name. -/
theorem leads_name : name.Leads n n .open k fun ts k' => ∃ w l, k.rest = w ++ l ∧
    isName w = true ∧ k' = k.advance w.length ∧
      ts = [.mk .name k (k'.offset - k.offset) []] := by
  refine .rule ((leads_nameBody (by decide)).mono ?_)
  rintro ts k' ⟨rfl, w, l, hk, hname, -, rfl⟩
  exact ⟨w, l, hk, hname, rfl, rfl⟩

/-- The token of an identifier is a plain name: a keyword in its place would have been accepted. -/
theorem leads_identifier :
    identifier.Leads n n .open k fun ts k' => ∃ w l, k.rest = w ++ l ∧ IsPlain w ∧
      l.head?.any isNamePart = false ∧ k' = k.advance w.length ∧
      ts = [.mk .identifier k (k'.offset - k.offset) []] := by
  have hahead : (Pattern.unless (.rule .keyword .lexeme keywordBody)).Leads n n ⟨.sealed, false⟩ k
      fun ts k' => ts = [] ∧ k' = k ∧ ∀ us k'', ¬ keywordBody.Accepts n ⟨.sealed, true⟩ k us k'' :=
    .unless fun hnot => ⟨rfl, rfl, fun us k'' h => hnot [] k'' (accepts_rule_silent rfl h)⟩
  refine .rule (.seq hahead ?_)
  rintro ts k' ⟨rfl, rfl, hnot⟩
  refine .rule ((leads_nameBody (by decide)).mono ?_)
  rintro us k'' ⟨rfl, w, l, hk, hname, hend, rfl⟩
  refine ⟨w, l, hk, ⟨hname, fun hmem => ?_⟩, hend, rfl, rfl⟩
  obtain ⟨s, hs, rfl⟩ := List.mem_map.mp hmem
  exact hnot _ _ (accepts_keywordBody (by decide) hs hk hend)

end Pattern

/-! ## A triple for the tokens left -/

/-- From anywhere in the text the pattern stays in the text, and the tokens that it leaves are of
the text, with rules of which `Q` holds in their order. -/
def Leaves (source : List Char) (n : Reader) (sp : Spacing) (x : Pattern) (Q : List Rule → Prop) :
    Prop :=
  ∀ k : Cursor, k.In source → x.Leads n n ⟨sp, false⟩ k fun ts k' =>
    k'.In source ∧ (∀ t ∈ ts, t.Formed source) ∧ Q (ts.reverse.map Token.rule)

/-- All rules in a list are such that `S`. -/
abbrev Only (S : Rule → Prop) (rs : List Rule) : Prop := ∀ r ∈ rs, S r

/-- A list of one rule, such that `S`. -/
abbrev Single (S : Rule → Prop) (rs : List Rule) : Prop := ∃ r, S r ∧ rs = [r]

variable {source : List Char} {n : Reader} {sp : Spacing} {x y : Pattern} {P Q R : List Rule → Prop}
  {S : Rule → Prop} {r : Rule} {kind : RuleKind}

theorem only_nil : Only S [] := fun _ hr => absurd hr List.not_mem_nil

namespace Leaves

theorem mono (hx : Leaves source n sp x P) (h : ∀ rs, P rs → Q rs) : Leaves source n sp x Q := by
  intro k hk
  refine (hx k hk).mono ?_
  rintro ts k' ⟨hin, hts, hp⟩
  exact ⟨hin, hts, h _ hp⟩

/-- Where nothing is left. -/
theorem post_nil {k : Cursor} (hk : k.In source) (hq : Q []) :
    k.In source ∧ (∀ t ∈ ([] : List Token), t.Formed source) ∧
      Q (([] : List Token).reverse.map Token.rule) :=
  ⟨hk, by simp, hq⟩

theorem text {w : List Char} (hq : Q []) : Leaves source n sp (.text w) Q :=
  fun _ hk => .text fun _ _ => post_nil (hk.advance _) hq

theorem one {f : Char → Bool} (hq : Q []) : Leaves source n sp (.one f) Q :=
  fun _ hk => .one fun _ _ _ _ => post_nil (hk.advance _) hq

theorem stop (hq : Q []) : Leaves source n sp .stop Q :=
  fun _ hk => .stop fun _ => post_nil hk hq

theorem seq (hx : Leaves source n sp x P) (hy : Leaves source n sp y Q)
    (h : ∀ as bs, P as → Q bs → R (as ++ bs)) : Leaves source n sp (.seq x y) R := by
  intro k hk
  refine .seq (hx k hk) ?_
  rintro ts k₁ ⟨hin, hts, hp⟩
  refine (hy (k₁.skip sp) (hin.skip sp)).mono ?_
  rintro us k₂ ⟨hin₂, hus, hq⟩
  refine ⟨hin₂, fun t ht => ?_, ?_⟩
  · rcases List.mem_append.mp ht with ht | ht
    · exact hus t ht
    · exact hts t ht
  · rw [List.reverse_append, List.map_append]
    exact h _ _ hp hq

/-- What a pattern leaves is left with a word before it. -/
theorem word_seq {w : String} (hx : Leaves source n sp x Q) :
    Leaves source n sp (.seq (word w) x) Q :=
  seq (P := (· = [])) (text rfl) hx fun as bs has hbs => by rw [has]; exact hbs

/-- What a pattern leaves is left with a word after it. -/
theorem seq_word {w : String} (hx : Leaves source n sp x Q) :
    Leaves source n sp (.seq x (word w)) Q :=
  seq (Q := (· = [])) hx (text rfl) fun as bs has hbs => by rw [hbs, List.append_nil]; exact has

theorem either (hx : Leaves source n sp x Q) (hy : Leaves source n sp y Q) :
    Leaves source n sp (.either x y) Q :=
  fun k hk => .either (hx k hk) (hy k hk)

theorem choice {xs : List Pattern} (hxs : ∀ x ∈ xs, Leaves source n sp x Q) :
    Leaves source n sp (.choice xs) Q := by
  induction xs with
  | nil => exact fun k hk => .one fun c l hc hf => by cases hf
  | cons x xs ih =>
    cases xs with
    | nil => exact hxs x List.mem_cons_self
    | cons y ys =>
      exact either (hxs x List.mem_cons_self) (ih fun z hz => hxs z (List.mem_cons_of_mem _ hz))

theorem maybe (hx : Leaves source n sp x Q) (hq : Q []) : Leaves source n sp (.maybe x) Q :=
  fun k hk => .maybe (hx k hk) (post_nil hk hq)

theorem many (hx : Leaves source n sp x Q) (hq : Q [])
    (h : ∀ as bs, Q as → Q bs → Q (as ++ bs)) : Leaves source n sp (.many x) Q := by
  intro k hk
  refine .many (post_nil hk hq) (hx k hk) ?_
  rintro ts k₁ ⟨hin, hts, hp⟩
  refine (hx (k₁.skip sp) (hin.skip sp)).mono ?_
  rintro us k₂ ⟨hin₂, hus, hq⟩
  refine ⟨hin₂, fun t ht => ?_, ?_⟩
  · rcases List.mem_append.mp ht with ht | ht
    · exact hus t ht
    · exact hts t ht
  · rw [List.reverse_append, List.map_append]
    exact h _ _ hp hq

theorem ahead (hflat : x.flat = true) (hq : Q []) : Leaves source n sp (.unless x) Q :=
  fun _ hk => .ahead hflat fun _ => post_nil hk hq

/-- A rule whose token fits. -/
theorem rule (hvis : Mode.visible ⟨kind.outer sp, false⟩ = true)
    (hother : r.isNaming = false) (hx : Leaves source n (kind.body sp) x Q)
    (hsign : r.sign <+: x.front) (hq : ∀ rs, Q rs → r.Holds rs) :
    Leaves source n sp (.rule r kind x) (· = [r]) := by
  intro k hk
  refine .rule ((hx k hk).front.mono ?_)
  rintro ts k' ⟨hfront, hin, hts, hrs⟩
  rw [if_pos hvis]
  refine ⟨hin, fun t ht => ?_, rfl⟩
  rw [List.mem_singleton.mp ht]
  have hfits : (Token.mk r k (k'.offset - k.offset) ts.reverse).Fits :=
    .of_sign hother (hsign.trans hfront) (hq _ hrs)
  exact .mk hk hfits fun u hu => hts u (List.mem_reverse.mp hu)

/-! Patterns that leave any number of tokens of some rules. -/

theorem seq_only (hx : Leaves source n sp x (Only S)) (hy : Leaves source n sp y (Only S)) :
    Leaves source n sp (.seq x y) (Only S) :=
  seq hx hy fun _ _ has hbs => List.forall_mem_append.mpr ⟨has, hbs⟩

theorem maybe_only (hx : Leaves source n sp x (Only S)) : Leaves source n sp (.maybe x) (Only S) :=
  maybe hx only_nil

theorem many_only (hx : Leaves source n sp x (Only S)) : Leaves source n sp (.many x) (Only S) :=
  many hx only_nil fun _ _ has hbs => List.forall_mem_append.mpr ⟨has, hbs⟩

theorem only (hx : Leaves source n sp x (· = [r])) (hr : S r) : Leaves source n sp x (Only S) :=
  hx.mono fun _ hrs => hrs ▸ List.forall_mem_singleton.mpr hr

theorem single (hx : Leaves source n sp x (· = [r])) (hr : S r) : Leaves source n sp x (Single S) :=
  hx.mono fun _ hrs => ⟨r, hr, hrs⟩

end Leaves

/-! ## Runs of pieces -/

/-- The rules lead on from before an operand, or from behind one, to before or behind another. -/
def Rule.Goes (b c : Bool) (rs : List Rule) : Prop :=
  ∀ bs, Rule.run c bs = true → Rule.run b (rs ++ bs) = true

namespace Rule.Goes

variable {b c d : Bool} {rs ss : List Rule}

theorem nil : Goes b b [] := fun _ h => h

theorem append (h : Goes b c rs) (h' : Goes c d ss) : Goes b d (rs ++ ss) := by
  intro bs hbs
  rw [List.append_assoc]
  exact h _ (h' bs hbs)

theorem unary (op : UnaryOp) : Goes false false [.unary op] := fun _ h => h

theorem between (op : InfixOp) : Goes true false [.between op] := fun _ h => h

theorem operand (h : r.isOperand = true) : Goes false true [r] := by
  intro bs hbs
  cases r <;> first | exact hbs | cases h

theorem step (h : r.isStep = true) : Goes true true [r] := by
  intro bs hbs
  cases r <;> first | exact hbs | cases h

theorem run_eq_true (h : Goes false true rs) : Rule.run false rs = true := by
  rw [← List.append_nil rs]
  exact h [] rfl

end Rule.Goes

/-- Whatever stands in a run is a piece. -/
theorem Rule.isPiece_of_run {b : Bool} {rs : List Rule} (h : Rule.run b rs = true) :
    ∀ r ∈ rs, r.isPiece = true := by
  have hpiece : ∀ r : Rule, (r.isOperand = true ∨ r.isStep = true) → r.isPiece = true := by
    intro r hr
    cases r <;> first | rfl | simp [Rule.isOperand, Rule.isStep] at hr
  induction b, rs using Rule.run.induct with
  | case1 | case4 => simp
  | case2 op rs ih => exact List.forall_mem_cons.mpr ⟨rfl, ih h⟩
  | case3 r rs hop ih =>
    rw [Rule.run, Bool.and_eq_true] at h
    · exact List.forall_mem_cons.mpr ⟨hpiece r (.inr h.1), ih h.2⟩
    · exact hop
  | case5 op rs ih => exact List.forall_mem_cons.mpr ⟨rfl, ih h⟩
  | case6 r rs hop ih =>
    rw [Rule.run, Bool.and_eq_true] at h
    · exact List.forall_mem_cons.mpr ⟨hpiece r (.inl h.1), ih h.2⟩
    · exact hop

namespace Leaves

variable {b c d : Bool}

theorem goes (hx : Leaves source n sp x (· = [r])) (hr : Rule.Goes b c [r]) :
    Leaves source n sp x (Rule.Goes b c) :=
  hx.mono fun _ hrs => hrs ▸ hr

theorem seq_goes (hx : Leaves source n sp x (Rule.Goes b c))
    (hy : Leaves source n sp y (Rule.Goes c d)) : Leaves source n sp (.seq x y) (Rule.Goes b d) :=
  seq hx hy fun _ _ => .append

theorem many_goes (hx : Leaves source n sp x (Rule.Goes b b)) :
    Leaves source n sp (.many x) (Rule.Goes b b) :=
  many hx .nil fun _ _ => .append

end Leaves

/-! ## Words -/

/-- The rules of words and of their parts. -/
def Rule.isLeaf : Rule → Bool
  | .number | .string | .regexp | .templateText | .literal | .variable | .name | .endOfText => true
  | r => r.isPart

/-- Whether a pattern leaves tokens of the parts of words only. -/
def Pattern.isLeafy (sp : Spacing) : Pattern → Bool
  | .text _ | .one _ | .stop => true
  | .seq x y | .either x y => x.isLeafy sp && y.isLeafy sp
  | .maybe x | .many x => x.isLeafy sp
  | .unless x => x.flat
  | .rule r kind x => (kind.outer sp == .sealed || r.isPart) && x.isLeafy (kind.body sp)
  | .recurse => false

theorem leaves_leaf (hvis : Mode.visible ⟨kind.outer sp, false⟩ = true) (hr : r.isLeaf = true)
    (hx : Leaves source n (kind.body sp) x (Only (Rule.isPart · = true))) :
    Leaves source n sp (.rule r kind x) (· = [r]) := by
  refine .rule hvis ?_ hx ?_ fun rs hrs => ?_
  · cases r <;> first | rfl | cases hr
  · cases r <;> first | exact List.nil_prefix | cases hr
  · cases r <;> first | exact hrs | cases hr

theorem leaves_of_isLeafy (hx : x.isLeafy sp = true) :
    Leaves source n sp x (Only (Rule.isPart · = true)) := by
  induction x generalizing sp with
  | text w => exact .text only_nil
  | one f => exact .one only_nil
  | stop => exact .stop only_nil
  | seq x y ihx ihy =>
    rw [isLeafy, Bool.and_eq_true] at hx
    exact .seq_only (ihx hx.1) (ihy hx.2)
  | either x y ihx ihy =>
    rw [isLeafy, Bool.and_eq_true] at hx
    exact .either (ihx hx.1) (ihy hx.2)
  | maybe x ih => exact .maybe_only (ih hx)
  | many x ih => exact .many_only (ih hx)
  | «unless» x => exact .ahead hx only_nil
  | rule r kind x ih =>
    rw [isLeafy, Bool.and_eq_true, Bool.or_eq_true, beq_iff_eq] at hx
    by_cases hsealed : kind.outer sp = .sealed
    · have hhidden : Mode.visible ⟨kind.outer sp, false⟩ = false := by rw [hsealed]; rfl
      intro k hk
      refine .rule ((ih hx.2 k hk).mono ?_)
      rintro ts k' ⟨hin, -, -⟩
      rw [if_neg (by rw [hhidden]; exact Bool.false_ne_true)]
      exact Leaves.post_nil hin only_nil
    · have hvis : Mode.visible ⟨kind.outer sp, false⟩ = true := by
        simpa [Mode.visible] using hsealed
      have hpart := hx.1.resolve_left hsealed
      have hleaf : r.isLeaf = true := by cases r <;> first | rfl | cases hpart
      exact (leaves_leaf hvis hleaf (ih hx.2)).only hpart
  | recurse => cases hx

/-- A word is one token. -/
theorem leaves_word (hvis : Mode.visible ⟨kind.outer sp, false⟩ = true) (hr : r.isLeaf = true)
    (hx : x.isLeafy (kind.body sp) = true) : Leaves source n sp (.rule r kind x) (· = [r]) :=
  leaves_leaf hvis hr (leaves_of_isLeafy hx)

/-! ## The grammar

From here on the rule that contains itself is taken to leave one expression, as it does. -/

section Grammar

variable (hn : Leaves source n .free .recurse (· = [.expression]))
include hn

omit hn in
theorem leaves_brackets {a b : String} (hx : Leaves source n .free x Q) :
    Leaves source n .free (all [word a, x, word b]) Q :=
  .word_seq (.seq_word hx)

omit hn in
theorem leaves_commaList (hx : Leaves source n .free x (Only S)) :
    Leaves source n .free (.maybe (commaList x)) (Only S) :=
  .maybe_only (.seq_only hx (.seq_only (.many_only (.word_seq hx)) (.maybe_only (.text only_nil))))

theorem leaves_grouped : Leaves source n .free grouped (· = [.grouped]) :=
  .rule rfl rfl (leaves_brackets hn) List.nil_prefix fun _ hrs => hrs

theorem leaves_array : Leaves source n .free array (· = [.array]) := by
  have hitems := leaves_commaList (hn.only (S := (· = .expression)) rfl)
  exact .rule rfl rfl (leaves_brackets hitems) List.nil_prefix fun _ hrs => hrs

theorem leaves_computedKey : Leaves source n .free computedKey (· = [.computedKey]) :=
  .rule rfl rfl (leaves_brackets hn) List.nil_prefix fun _ hrs => hrs

theorem leaves_objectItem : Leaves source n .free objectItem (· = [.objectItem]) := by
  have hkey : Leaves source n .free (choice [computedKey, string, number, name])
      (Single (Rule.isKey · = true)) := by
    refine .choice fun x hx => ?_
    simp only [List.mem_cons, List.not_mem_nil, or_false] at hx
    rcases hx with rfl | rfl | rfl | rfl
    · exact (leaves_computedKey hn).single rfl
    · exact (leaves_word rfl rfl rfl).single rfl
    · exact (leaves_word rfl rfl rfl).single rfl
    · exact (leaves_word rfl rfl rfl).single rfl
  refine .rule rfl rfl (.seq hkey (.word_seq hn) ?_) List.nil_prefix fun _ hrs => hrs
  rintro as bs ⟨key, hkey, rfl⟩ rfl
  exact ⟨key, hkey, rfl⟩

theorem leaves_object : Leaves source n .free object (· = [.object]) := by
  have hitems := leaves_commaList ((leaves_objectItem hn).only (S := (· = .objectItem)) rfl)
  exact .rule rfl rfl (leaves_brackets hitems) List.nil_prefix fun _ hrs => hrs

theorem leaves_template : Leaves source n .free template (· = [.template]) := by
  have htext : Leaves source n .tight templateText (· = [.templateText]) :=
    leaves_word rfl rfl rfl
  have hhole : Leaves source n .tight templateHole (· = [.templateHole]) :=
    .rule rfl rfl (leaves_brackets hn) List.nil_prefix fun _ hrs => hrs
  have hparts : Leaves source n .tight (.many (.either templateText templateHole))
      (Only fun r => r = .templateText ∨ r = .templateHole) :=
    .many_only (.either (htext.only (.inl rfl)) (hhole.only (.inr rfl)))
  exact .rule rfl rfl (.word_seq (.seq_word hparts)) List.nil_prefix fun _ hrs => hrs

theorem leaves_operand : Leaves source n .free operand (Rule.Goes false true) := by
  refine .choice fun x hx => ?_
  simp only [List.mem_cons, List.not_mem_nil, or_false] at hx
  rcases hx with rfl | rfl | rfl | rfl | rfl | rfl | rfl | rfl | rfl
  · exact (leaves_grouped hn).goes (.operand rfl)
  · exact (leaves_template hn).goes (.operand rfl)
  · exact (leaves_array hn).goes (.operand rfl)
  · exact (leaves_object hn).goes (.operand rfl)
  · exact (leaves_word rfl rfl rfl).goes (.operand rfl)
  · exact (leaves_word rfl rfl rfl).goes (.operand rfl)
  · exact (leaves_word rfl rfl rfl).goes (.operand rfl)
  · exact (leaves_word rfl rfl rfl).goes (.operand rfl)
  · exact (leaves_word rfl rfl rfl).goes (.operand rfl)

omit hn in
theorem leaves_unaryOps : Leaves source n .free unaryOps (Rule.Goes false false) := by
  have hop : ∀ op, Leaves source n .free (unaryOp op) (· = [.unary op]) := fun op =>
    .rule rfl rfl (.text only_nil) (List.prefix_refl _) fun _ hrs => hrs
  exact .either ((hop .not).goes (.unary .not)) ((hop .bitNot).goes (.unary .bitNot))

omit hn in
/-- An operator other than the conditional has nothing inside. -/
theorem holds_between {op : InfixOp} (hop : op ≠ .choice) {rs : List Rule}
    (hrs : Only (Rule.isPart · = true) rs) : (Rule.between op).Holds rs := by
  cases op with
  | choice => exact absurd rfl hop
  | _ => exact hrs

omit hn in
theorem leaves_infixOp {op : InfixOp} (hop : op ≠ .choice) :
    Leaves source n .free (infixOp op op.symbol) (· = [.between op]) :=
  .rule rfl rfl (.text only_nil) (List.prefix_refl _) fun _ hrs => holds_between hop hrs

theorem leaves_choiceOp : Leaves source n .free choiceOp (· = [.between .choice]) := by
  have hmiddle : Leaves source n .free
      (.seq (.unless (.either (word ":") (word "."))) (.seq .recurse (word ":")))
      (· = [.expression]) :=
    .seq (P := (· = [])) (.ahead rfl rfl) (.seq_word hn) fun as bs has hbs => by rw [has, hbs]; rfl
  exact .rule rfl rfl (.word_seq hmiddle) (by decide) fun _ hrs => hrs

theorem leaves_infixOps : Leaves source n .free infixOps (Rule.Goes true false) := by
  rw [infixOps_eq]
  refine .choice fun x hx => ?_
  simp only [List.mem_append, List.mem_cons, List.not_mem_nil, or_false] at hx
  rcases hx with (rfl | rfl) | hx
  · have hop : InfixOp.fallback ≠ .choice := by decide
    exact (leaves_infixOp hop).goes (.between _)
  · exact (leaves_choiceOp hn).goes (.between _)
  · obtain ⟨op, hop, rfl⟩ := List.mem_map.mp hx
    have hchoice : InfixOp.choice ∉ operators := by decide
    exact (leaves_infixOp fun h => hchoice (h ▸ hop)).goes (.between _)

omit hn in
theorem leads_word {w : String} {m : Mode} {k : Cursor} (hk : k.In source) :
    (word w).Leads n n m k fun ts k' => ts = [] ∧ k'.In source ∧ k.rest = w.toList ++ k'.rest := by
  refine .text fun l hl => ⟨rfl, hk.advance _, ?_⟩
  rw [Cursor.rest_advance, hl, List.drop_left]

omit hn in
/-- A field is read with the name that follows its sign. -/
theorem leads_field {w : String} {k : Cursor} (hk : k.In source) :
    (Pattern.seq (word w) name).Leads n n .open k fun ts k' => k'.In source ∧
      ∃ u, ts = [u] ∧ u.Formed source ∧ u.rule = .name ∧
        BeginsField w.toList u.chars k.rest := by
  refine .seq (leads_word hk) ?_
  rintro us k₁ ⟨rfl, hin₁, hsign⟩
  refine leads_name.mono ?_
  rintro us k₂ ⟨v, l, hv, hname, rfl, rfl⟩
  have hin₂ : (k₁.skip .free).In source := hin₁.skip .free
  have hchars := Token.chars_mk_advance hv .name []
  refine ⟨hin₂.advance _, _, rfl, ?_, rfl, by rw [hchars]; exact hname, k₁.rest, hsign, ?_⟩
  · exact .mk hin₂ (.of_sign rfl List.nil_prefix only_nil) (by simp)
  · rw [hchars, ← Cursor.rest_skip_free]
    exact ⟨l, hv.symm⟩

omit hn in
theorem leaves_field (optional : Bool) {w : String}
    (hw : w.toList = (Rule.field optional).sign) :
    Leaves source n .free (.rule (.field optional) .plain (.seq (word w) name))
      (· = [.field optional]) := by
  intro k hk
  refine .rule ((leads_field hk).mono ?_)
  rintro ts k' ⟨hin, u, rfl, hu, hrule, hbegins⟩
  refine ⟨hin, fun t ht => ?_, rfl⟩
  rw [if_pos (by rfl), List.mem_singleton] at ht
  subst ht
  rw [hw] at hbegins
  obtain ⟨l, hl, -⟩ := hbegins.2
  refine .mk hk ⟨⟨l, hl.symm⟩, congrArg ([·]) hrule, by simp [Token.rule], by simp [Token.rule],
    fun _ _ v hv => ?_⟩ fun v hv => ?_
  · cases hv
    exact hbegins
  · rw [List.mem_singleton.mp (List.mem_reverse.mp hv)]
    exact hu

theorem leaves_steps : Leaves source n .free steps (Rule.Goes true true) := by
  have harguments : Leaves source n .free arguments (Only (· = .expression)) :=
    leaves_brackets (leaves_commaList (hn.only (S := (· = .expression)) rfl))
  refine .choice fun x hx => ?_
  simp only [List.mem_cons, List.not_mem_nil, or_false] at hx
  rcases hx with rfl | rfl | rfl | rfl | rfl | rfl
  · refine Leaves.goes (.rule rfl rfl (.word_seq harguments) ?_ fun _ hrs => hrs) (.step rfl)
    exact List.prefix_refl _
  · refine Leaves.goes (.rule rfl rfl (.word_seq (leaves_brackets hn)) ?_ fun _ hrs => hrs)
      (.step rfl)
    exact List.prefix_refl _
  · exact (leaves_field true rfl).goes (.step rfl)
  · refine Leaves.goes (.rule rfl rfl harguments ?_ fun _ hrs => hrs) (.step rfl)
    exact List.prefix_refl _
  · refine Leaves.goes (.rule rfl rfl (leaves_brackets hn) ?_ fun _ hrs => hrs) (.step rfl)
    exact List.prefix_refl _
  · exact (leaves_field false rfl).goes (.step rfl)

theorem leaves_expression : Leaves source n .free expression (· = [.expression]) := by
  have hsteps := (leaves_steps hn).many_goes
  have hrest := Leaves.many_goes (.seq_goes (leaves_infixOps hn)
    (.seq_goes leaves_unaryOps.many_goes (.seq_goes (leaves_operand hn) hsteps)))
  exact .rule rfl (by decide)
    (.seq_goes leaves_unaryOps.many_goes (.seq_goes (leaves_operand hn) (.seq_goes hsteps hrest)))
    List.nil_prefix fun _ hrs => hrs.run_eq_true

/-- What an assignment says of the text is known only along the way: where the name was read, what
stood behind it, and what was looked ahead for. -/
theorem leads_assignment {k : Cursor} (hk : k.In source) :
    (all [identifier, word "=", .unless (.either (word "=") (word "~")), .recurse]).Leads n n .open k
      fun ts k' => k'.In source ∧ ∃ target value, ts = [value, target] ∧
        target.Formed source ∧ value.Formed source ∧ target.rule = .identifier ∧
        value.rule = .expression ∧ BeginsAssignment target.chars target.start.rest := by
  refine .seq leads_identifier ?_
  rintro ts k₁ ⟨w, l₁, hw, hplain, -, rfl, rfl⟩
  have hchars := Token.chars_mk_advance hw .identifier []
  have hrest₁ : ((k.advance w.length).skip .free).rest = l₁.drop (blankLength l₁) := by
    rw [Cursor.rest_skip_free, Cursor.rest_advance, hw, List.drop_left]
  have hin₁ := (hk.advance w.length).skip .free
  -- the equals sign
  refine .seq (leads_word hin₁) ?_
  rintro us k₂ ⟨rfl, hin₂, hequals⟩
  rw [hrest₁] at hequals
  change _ = '=' :: k₂.rest at hequals
  -- what does not follow it
  have hahead : (Pattern.unless (.either (word "=") (word "~"))).Leads n n .open (k₂.skip .free)
      fun us k₃ => us = [] ∧ k₃.In source ∧ BeginsAssignment w k.rest := by
    refine .ahead rfl fun hbegins => ⟨rfl, hin₂.skip .free, l₁, _, hw, hequals, fun c hc => ?_⟩
    change (Pattern.either (word "=") (word "~")).begins (k₂.skip .free).rest = false at hbegins
    rw [Cursor.rest_skip_free] at hbegins
    generalize k₂.rest.drop (blankLength k₂.rest) = l at hc hbegins
    obtain ⟨l', rfl⟩ := List.head?_eq_some_iff.mp hc
    rw [begins, Bool.or_eq_false_iff] at hbegins
    have hne : ∀ d, [d].isPrefixOf (c :: l') = false → c ≠ d := by
      intro d hd heq
      simp [List.isPrefixOf, heq] at hd
    exact ⟨hne '=' hbegins.1, hne '~' hbegins.2⟩
  refine .seq hahead ?_
  rintro us k₃ ⟨rfl, hin₃, hbegins⟩
  refine (hn _ (hin₃.skip .free)).mono ?_
  rintro us k₄ ⟨hin₄, hus, hrules⟩
  rw [List.map_reverse, List.reverse_eq_iff] at hrules
  obtain ⟨u, rfl, hu⟩ := List.map_eq_singleton_iff.mp hrules
  refine ⟨hin₄, _, u, rfl, ?_, hus u (List.mem_singleton_self u), rfl, hu,
    by rw [hchars]; exact hbegins⟩
  exact .mk hk ⟨List.nil_prefix, only_nil, fun _ => by rw [hchars]; exact hplain,
    by simp [Token.rule], by simp [Token.rule]⟩ (by simp)

theorem leaves_assignment : Leaves source n .free assignment (· = [.assignment]) := by
  intro k hk
  refine .rule ((leads_assignment hn hk).mono ?_)
  rintro ts k' ⟨hin, target, value, rfl, htarget, hvalue, hname, hexpression, hbegins⟩
  refine ⟨hin, fun t ht => ?_, rfl⟩
  rw [if_pos (by rfl), List.mem_singleton] at ht
  subst ht
  refine .mk hk ⟨List.nil_prefix, ?_, by simp [Token.rule], fun _ u hu => ?_,
    by simp [Token.rule]⟩ fun u hu => ?_
  · simp only [Rule.Holds, Token.inner, Token.rule, List.reverse_cons, List.reverse_nil,
      List.nil_append, List.map_cons, List.map_nil, List.cons_append] at hname hexpression ⊢
    rw [hname, hexpression]
  · cases hu
    exact hbegins
  · rcases List.mem_cons.mp (List.mem_reverse.mp hu) with rfl | hu
    · exact hvalue
    · rw [List.mem_singleton.mp hu]
      exact htarget

theorem leaves_program : Leaves source n .free program (· = [.program]) := by
  have hstatement : Leaves source n .free statement
      (Single fun r => r = .assignment ∨ r = .expression) :=
    .either ((leaves_assignment hn).single (.inl rfl)) (hn.single (.inr rfl))
  have honly : Leaves source n .free statement (Only fun r => r = .assignment ∨ r = .expression) :=
    hstatement.mono fun _ ⟨r, hr, hrs⟩ => hrs ▸ List.forall_mem_singleton.mpr hr
  have hstatements : Leaves source n .free statements (· = [.statements]) := by
    refine .rule rfl rfl (.seq hstatement (.seq_only (.many_only (.word_seq honly))
      (.maybe_only (.text only_nil))) ?_) List.nil_prefix fun _ hrs => hrs
    rintro as bs ⟨r, hr, rfl⟩ hbs
    exact ⟨List.cons_ne_nil _ _, List.forall_mem_cons.mpr ⟨hr, hbs⟩⟩
  have hend : Leaves source n .free (.rule .endOfText .plain .stop) (· = [.endOfText]) :=
    leaves_word rfl rfl rfl
  have hbody : Leaves source n .free (.seq statements (.rule .endOfText .plain .stop))
      (· = [.statements, .endOfText]) :=
    .seq hstatements hend fun as bs has hbs => by rw [has, hbs]; rfl
  exact .rule rfl rfl (.word_seq (w := "") hbody) List.nil_prefix fun _ hrs => hrs

end Grammar

/-! ## Texts -/

/-- The rule that contains itself leaves one expression, however deep it may go. -/
theorem leaves_recurse (source : List Char) (depth : Nat) :
    Leaves source (readExpression depth) .free .recurse (· = [.expression]) := by
  induction depth with
  | zero =>
    intro k _ a ts
    exact ⟨rfl, fun a' q hq => by cases hq⟩
  | succ depth ih =>
    intro k hk
    rw [readExpression_succ]
    exact .recurse (leaves_expression ih k hk)

/-- The token of a text is of the text. -/
theorem formed_of_tokenOf {source : List Char} {t : Token} (h : tokenOf source = .ok t) :
    t.Formed source ∧ t.rule = .program := by
  have hread : ∀ a q, readProgram source = ⟨a, some q⟩ →
      ∃ t, q.tokens = [t] ∧ t.Formed source ∧ t.rule = .program := by
    intro a q hq
    rw [readProgram] at hq
    obtain ⟨ts, hts, -, hformed, hrules⟩ := (leaves_program (leaves_recurse source _) _
      (Cursor.in_ofText source) .empty []).2 a q hq
    rw [List.map_reverse, List.reverse_eq_iff] at hrules
    obtain ⟨t, rfl, ht⟩ := List.map_eq_singleton_iff.mp hrules
    exact ⟨t, hts, hformed t (List.mem_singleton_self t), ht⟩
  unfold tokenOf at h
  split at h
  · next a k t' ts heq =>
    cases h
    obtain ⟨u, hu, hformed⟩ := hread _ _ heq
    cases hu
    exact hformed
  · cases h

end ExprLang
