import ExprLang.Proofs.Grammar.OwnLines
import ExprLang.Proofs.Tree.Around
import ExprLang.Proofs.Tree.Single
import ExprLang.Proofs.Tree.Tokens

/-!
# ExprLang.Proofs.Tree.Compositional

The grammar is compositional, but for two signs.

A single expression `e` is parsed alone.  Put on lines of its own into a larger text, it is read there
token by token as it was read alone (`readAs_of_accepts`): the line break behind it keeps what follows
from its last token, and what is ahead after it is nothing that an expression goes on with.  So it is
a run of tokens (`Flows`) that are the pieces of the tree of `e`.  Each frame then adds its own signs
around the run, and of that a statement comes out (`Frame.takes_statement`), the only one of the
text.

The two signs are the `=` of an assignment and the `?` of a conditional.  Both look ahead so as not to
be read for a part of `=~`, of `?:` or of `?.`; but they look ahead behind the blanks, and there the
expression begins.  Where it begins with `~` after `=`, or with `.` after `?`, the statement ends
before the sign (`Frame.takes_statement_of_clashes`), and the text is not parsed.
-/

namespace ExprLang

open ExprLang.Language Pattern
open Token (Means Forms)

/-! ## On lines of its own -/

/-- A text on lines of its own, before another text. -/
def onLines (e l : List Char) : List Char := '\n' :: (e ++ '\n' :: l)

theorem pastBlanks_onLines {e : List Char} (he : pastBlanks e ≠ []) (t : Tail)
    (ht : closesBlock t.chars = false) :
    pastBlanks (onLines e t.chars) = pastBlanks e ++ '\n' :: t.chars := by
  rw [onLines, pastBlanks_of_isBlank rfl, ← t.across_joint, ← t.across_joint]
  have hpast := Cursor.pastBlanks_across (l := e) (s := t.joint) (fun _ => .inl List.nil_suffix)
    (.inl ht)
  exact hpast.resolve_right fun ⟨_, hnil, _⟩ => he hnil

/-- Wherever the text stands on lines of its own, it is read as a run of tokens that are the pieces
of the tree, by a reader that goes deep enough. -/
structure ReadAs (e : List Char) (node : Node) (d : Nat) : Prop where
  begins : ∃ c, (pastBlanks e).head? = some c ∧ expression.eats (some c) = true
  flows : ∀ t : Tail, closesBlock t.chars = false →
    Flows (readExpression d) false (pastBlanks (onLines e t.chars)) t.chars
      fun ts => Forms ts.reverse node

theorem forms_of_build {k : Cursor} {len limit : Nat} {ts us : List Token} {node : Node}
    (h : (Token.mk .expression k len ts).build limit 0 = .ok node)
    {α : Type} {f f' : Cursor → α} (hshapes : Token.shapes f ts = Token.shapes f' us) :
    Forms us node.unplaced := by
  rw [Token.build] at h
  split at h
  · cases h
  · refine ⟨limit, fun limit' depth hlimit => ?_⟩
    have hroom : limit + depth ≤ limit' + (0 + Token.levels ts) := by omega
    have halike := Token.builtAlike_tokens (g := fun _ => .first) ts us
      (Token.shapes_comp_eq (fun _ => Position.first) ts us hshapes)
    obtain ⟨n, hn, hmoved⟩ := Piece.agrees_toTree (halike hroom).2.2 node h
    rw [Node.moved_first, Node.moved_first] at hmoved
    exact ⟨n, hn, hmoved⟩

section Alone

variable {e : List Char} {u : Token} {k : Cursor}

/-- A text that is read alone begins as expressions do. -/
theorem exists_head_of_accepts_expression {d : Nat} (h : expression.Accepts (readExpression d) .open
    ((Cursor.ofText e).skip .free) [u] k) :
    ∃ c, (pastBlanks e).head? = some c ∧ expression.eats (some c) = true := by
  obtain ⟨c, l, hl, heats⟩ := exists_head_of_accepts (proceeds_readExpression d)
    (Cursor.blankLength_skip _) h rfl
  rw [Cursor.rest_skip] at hl
  exact ⟨c, List.head?_eq_some_iff.mpr ⟨l, hl⟩, heats⟩

/-- A text that is read alone as an expression, and by which a tree is built. -/
theorem readAs_of_accepts {limit d : Nat} {node : Node}
    (hacc : expression.Accepts (readExpression e.length) .open ((Cursor.ofText e).skip .free) [u] k)
    (hrest : (k.skip .free).rest = []) (hbuild : u.build limit 0 = .ok node) (hd : e.length ≤ d) :
    ReadAs e node.unplaced d := by
  have hn := settled_readExpression e.length
  have hp := proceeds_readExpression e.length
  have hahead : ((Cursor.ofText e).skip .free).rest = pastBlanks e := Cursor.rest_skip _
  have hbegins := exists_head_of_accepts_expression hacc
  have hne : pastBlanks e ≠ [] := by
    obtain ⟨c, hc, -⟩ := hbegins
    exact List.ne_nil_of_mem (List.mem_of_head? hc)
  refine ⟨hbegins, fun t ht k₂ hk₂ => ?_⟩
  have hfresh : k₂.skip .free = k₂ := skip_eq_self (by rw [hk₂, blankLength_pastBlanks]) .free
  rw [pastBlanks_onLines hne t ht] at hk₂
  have hbeginsAt : ((Cursor.ofText e).skip .free).Begins t.joint .free k₂ :=
    ⟨.inl (by rw [hk₂, hahead, t.across_joint]), Cursor.skip_skip _, hfresh⟩
  have hend : AtEnd (k.skip .free) := by
    rw [AtEnd, hrest]
    decide
  have hlength : ((Cursor.ofText e).skip .free).rest.length ≤ e.length :=
    ((Cursor.ofText e).skip_suffix .free).length_le
  have hdeep := hacc.readExpression guarded_expression hlength (hlength.trans hd)
  obtain ⟨us, k', hacc', hmeets, halike⟩ :=
    (matched_readExpression t.joint d).expression.carry hbeginsAt
      (.of_left_eq_nil rfl hdeep (.inl ht)) (t.behind_joint hend)
  obtain ⟨ts, -, htoken⟩ := Flow.of_accepts_expression hn hp (Cursor.skip_skip _) hacc
  obtain ⟨us', hflow, rfl⟩ := Flow.of_accepts_expression (settled_readExpression d)
    (proceeds_readExpression d) hfresh hacc'
  obtain rfl : u = expressionToken _ k ts := by simpa using htoken
  have hshape := halike.shapes
  simp only [Token.shapes, List.cons.injEq, and_true] at hshape
  have hbehind := hmeets.skip (t.behind_joint hend).1 fun _ => .inl ht
  refine ⟨us', k'.skip .free, ?_, hflow, forms_of_build hbuild (Token.inner_of_shape_eq hshape rfl)⟩
  rw [hbehind.rest_eq_of_ended rfl hrest, t.pastBlanks_joint]

end Alone

/-! ## Runs as expressions -/

section Runs

variable {n : Reader} {d : Nat} {l l' : List Char} {x : Pattern} {a node : Node}

/-- Where an expression ends. -/
theorem Pattern.Misses.of_ends (hl : blankLength l = 0) (hends : l.head? ∈ endings)
    (hx : endings.all (fun c => !(x.eats c || x.idles c)) = true) : x.Misses n l :=
  .of_first hl (by simpa using List.all_eq_true.mp hx _ hends)

theorem Pattern.Takes.recurse {Q : List Token → Prop}
    (h : expression.Takes (readExpression d) l l' Q) :
    Pattern.recurse.Takes (readExpression (d + 1)) l l' Q := by
  intro k hk
  obtain ⟨ts, k', hacc, hrest⟩ := h k hk
  exact ⟨ts, k', accepts_recurse_iff.mpr hacc, hrest⟩

namespace Flows

/-- A run up to the end of an expression. -/
theorem recurse (h : Flows (readExpression d) false l l' fun ts => Forms ts.reverse node)
    (hl : blankLength l = 0) (hl' : blankLength l' = 0) (hends : l'.head? ∈ endings) :
    Pattern.recurse.TakesOne (readExpression (d + 1)) l l' (·.Means node) := by
  have hexpression := h.expression hl (.of_ends hl' hends (by decide))
    (.of_ends hl' hends (by decide))
  refine hexpression.recurse.mono ?_
  rintro _ ⟨_, rfl, k, k', ts, rfl, hforms⟩
  exact ⟨_, rfl, hforms.means⟩

/-- An operand alone. -/
theorem single (hops : unaryOps.Misses n l)
    (hoperand : Language.operand.TakesOne n l l' (·.Means node)) :
    Flows n false l l' fun ts => Forms ts.reverse node := by
  refine .operand hops hoperand .done ?_
  rintro _ _ ⟨t, rfl, ht⟩ rfl
  exact .operand ht

/-- An operand and a step. -/
theorem pair {l₁ : List Char} {T U : Token → Prop} (hops : unaryOps.Misses n l)
    (hoperand : Language.operand.TakesOne n l l₁ T) (hstep : steps.TakesOne n l₁ l' U)
    (h : ∀ t u, T t → U u → Forms [t, u] node) :
    Flows n false l l' fun ts => Forms ts.reverse node := by
  have hsteps : Flows n true l₁ l' fun ts => ∃ u, ts = [u] ∧ U u := by
    refine .step hstep .done ?_
    rintro _ _ hu rfl
    exact hu
  refine .operand hops hoperand hsteps ?_
  rintro _ _ ⟨t, rfl, ht⟩ ⟨u, rfl, hu⟩
  exact h t u ht hu

/-- A conditional, the rest of which is a run. -/
theorem choice {l₁ l₂ : List Char} {b : Node} (hops : unaryOps.Misses n l)
    (hoperand : Language.operand.TakesOne n l l₁ (·.Means a)) (hsteps : steps.Misses n l₁)
    (hop : infixOps.TakesOne n l₁ l₂ fun t =>
      t.rule = .between .choice ∧ ∃ u, t.inner = [u] ∧ u.Means b)
    (hlast : Flows n false l₂ l' fun ts => Forms ts.reverse node) :
    Flows n false l l' fun ts => Forms ts.reverse (.choice .first a b node) := by
  have hrest : Flows n true l₁ l' fun ts => ∀ v, v.Means a →
      Forms (v :: ts.reverse) (.choice .first a b node) := by
    refine .operator hsteps hop hlast ?_
    rintro _ ts ⟨t, rfl, hr, u, hu, hmeans⟩ hforms v hv
    rw [List.reverse_append]
    exact .choice hv hr hu hmeans hforms
  refine .operand hops hoperand hrest ?_
  rintro _ ts ⟨t, rfl, ht⟩ hts
  rw [List.reverse_append]
  exact hts t ht

end Flows

/-- The text on lines of its own is read as an expression, up to what follows. -/
theorem ReadAs.recurse {e : List Char} (h : ReadAs e node d) (t : Tail)
    (ht : closesBlock t.chars = false) :
    Pattern.recurse.TakesOne (readExpression (d + 1)) (pastBlanks (onLines e t.chars)) t.chars
      (·.Means node) :=
  (h.flows t ht).recurse (blankLength_pastBlanks _) t.fresh t.ends

theorem head?_onLines {e : List Char} (he : pastBlanks e ≠ []) (t : Tail)
    (ht : closesBlock t.chars = false) :
    (pastBlanks (onLines e t.chars)).head? = (pastBlanks e).head? := by
  rw [pastBlanks_onLines he t ht, List.head?_append_of_ne_nil _ he]

theorem ReadAs.ne_nil {e : List Char} (h : ReadAs e node d) : pastBlanks e ≠ [] := by
  obtain ⟨c, hc, -⟩ := h.begins
  exact List.ne_nil_of_mem (List.mem_of_head? hc)

/-- The text does not begin with what no expression begins with. -/
theorem ReadAs.head?_ne {e : List Char} (h : ReadAs e node d) {c : Char}
    (hc : expression.eats (some c) = false) : (pastBlanks e).head? ≠ some c := by
  obtain ⟨c', hc', heats⟩ := h.begins
  rw [hc', Ne, Option.some.injEq]
  rintro rfl
  rw [hc] at heats
  cases heats

end Runs

/-! ## Frames -/

theorem closesBlock_eq_false {l : List Char} (h : '*' ∉ l) : closesBlock l = false := by
  induction l with
  | nil => rfl
  | cons c l ih =>
    rw [List.mem_cons, not_or] at h
    simp [closesBlock, Ne.symm h.1, ih h.2]

namespace Frame

/-- The line after the expression keeps it from going on. -/
def tail (s : Frame) : Tail where
  chars := s.after
  fresh := by
    cases s with
    | assigned | last => rfl
    | _ => exact blankLength_cons (by decide) _
  ends := by
    unfold endings
    cases s <;> simp [after]

theorem closesBlock_tail (s : Frame) : closesBlock s.tail.chars = false := by
  cases s with
  | middle c other =>
    have hname : '*' ∉ other.chars := fun hmem =>
      absurd (List.all_eq_true.mp (all_isNamePart other.valid) '*' hmem) (by decide)
    exact closesBlock_eq_false (by simp [tail, after, hname])
  | _ => rfl

variable {n : Reader} {e : List Char} {d : Nat} {node : Node}

theorem pastBlanks_before_sign {c : Char} (hc : isSolid c = true) (l : List Char) :
    pastBlanks (' ' :: c :: l) = c :: l := by
  rw [pastBlanks_of_isBlank rfl, pastBlanks_cons hc]

/-- An operand that is a name, with a sign behind a space after it. -/
theorem takes_plainName_sign (w : PlainName) {c : Char} (hc : isSolid c = true) (l : List Char) :
    operand.TakesOne n (w.chars ++ ' ' :: c :: l) (c :: l)
      (·.Means (.var .first (String.ofList w.chars))) := by
  have h := takes_plainName (n := n) w (l := ' ' :: c :: l) rfl
  rwa [pastBlanks_before_sign hc] at h

/-- The last operand of a conditional, if it is a name. -/
theorem flows_plainName (w : PlainName) : Flows n false (pastBlanks (' ' :: w.chars)) []
    fun ts => Forms ts.reverse (.var .first (String.ofList w.chars)) := by
  have hname := Flows.single (misses_unaryOps w.toName [])
    (takes_plainName (n := n) w (l := []) rfl)
  have hblank := blankLength_name w.toName []
  rw [List.append_nil] at hname hblank
  rw [pastBlanks_of_isBlank rfl, pastBlanks_of_blankLength_eq_zero hblank]
  exact hname

/-- An expression in a frame is a run, but for assignments. -/
theorem flows (s : Frame) (hs : ∀ x, s ≠ .assigned x) (hclash : s.clashes e = false)
    (h : ∀ d, e.length ≤ d → ReadAs e node d) (hd : e.length ≤ d) :
    Flows (readExpression (d + 1)) false (s.before ++ onLines e s.after) []
      fun ts => Forms ts.reverse (s.node node) := by
  have hinside := (h d hd).recurse s.tail s.closesBlock_tail
  cases s with
  | assigned x => exact absurd rfl (hs x)
  | grouped =>
    exact .single (.of_head (c := '(') (by decide) (by decide)) (takes_grouped (r := []) hinside)
  | element =>
    exact .single (.of_head (c := '[') (by decide) (by decide)) (takes_array (r := []) hinside)
  | argument f =>
    have hname := takes_plainName (n := readExpression (d + 1)) f (l := '(' :: onLines e [')']) rfl
    rw [pastBlanks_cons (by decide)] at hname
    have hcall := takes_call (r := []) hinside
    show Flows _ false ((f.chars ++ ['(']) ++ onLines e [')']) [] _
    rw [List.append_assoc]
    exact .pair (misses_unaryOps f.toName _) hname hcall fun t u ht ⟨hr, v, hv, hmeans⟩ =>
      .call ht hr hv hmeans
  | index x =>
    have hname := takes_plainName (n := readExpression (d + 1)) x (l := '[' :: onLines e [']']) rfl
    rw [pastBlanks_cons (by decide)] at hname
    have hkey := takes_index (r := []) hinside
    show Flows _ false ((x.chars ++ ['[']) ++ onLines e [']']) [] _
    rw [List.append_assoc]
    exact .pair (misses_unaryOps x.toName _) hname hkey fun t u ht ⟨hr, v, hv, hmeans⟩ =>
      .index ht hr hv hmeans
  | value k =>
    have hitem := takes_objectItem k hinside
    rw [← pastBlanks_of_blankLength_eq_zero (blankLength_name k _)] at hitem
    show Flows _ false ('\x7b' :: ((k.chars ++ [':']) ++ onLines e ['\x7d'])) [] _
    rw [List.append_assoc]
    exact .single (.of_head (by decide) (by decide)) (takes_object (r := []) hitem)
  | hole =>
    exact .single (.of_head (c := '\x60') (by decide) (by decide))
      (takes_template (r := []) hinside)
  | middle c other =>
    have hhead := head?_onLines (h d hd).ne_nil _ (closesBlock_tail (.middle c other))
    have hahead : (Pattern.either (word ":") (word ".")).Misses (readExpression (d + 1))
        (pastBlanks (onLines e (':' :: ' ' :: other.chars))) := by
      refine .either (.of_word (c := ':') rfl ?_) (.of_word (c := '.') rfl ?_)
      · exact hhead ▸ (h d hd).head?_ne (by decide)
      · exact hhead ▸ beq_eq_false_iff_ne.mp hclash
    have hop := takes_choice (by simp [onLines]) hahead hinside
    show Flows _ false ((c.chars ++ [' ', '?']) ++ onLines e (':' :: ' ' :: other.chars)) [] _
    rw [List.append_assoc]
    exact .choice (misses_unaryOps c.toName _) (takes_plainName_sign c (by decide) _)
      (fun _ k hk => rejects_steps_of_mark hk (by simp [onLines])) hop (flows_plainName other)
  | last c other =>
    have hother := takes_plainName_sign (n := readExpression d) other (c := ':') (by decide)
      (onLines e [])
    have hmiddle := (Flows.single (misses_unaryOps other.toName _) hother).recurse
      (blankLength_name other.toName _) (blankLength_cons (by decide) _) (by simp [endings])
    have hahead : (Pattern.either (word ":") (word ".")).Misses (readExpression (d + 1))
        (other.chars ++ ' ' :: ':' :: onLines e []) := by
      refine .of_name other.toName fun c hc => ?_
      have hne := @not_isNameStart [':', '.'] (by decide) c
      simp [word, eats, idles, hne, hc]
    have hblank := pastBlanks_of_blankLength_eq_zero
      (blankLength_name other.toName (' ' :: ':' :: onLines e []))
    rw [← hblank, ← pastBlanks_of_isBlank (c := ' ') rfl] at hmiddle hahead
    have hop := takes_choice (by simp) hahead hmiddle
    have hlast := (h (d + 1) (by omega)).flows _ (closesBlock_tail (.last c other))
    have hrun := Flows.choice (misses_unaryOps c.toName _) (takes_plainName_sign c (by decide) _)
      (fun _ k hk => rejects_steps_of_mark hk (by simp)) hop hlast
    simp only [before, List.append_assoc, List.cons_append, List.nil_append]
    exact hrun

/-- What stands before the expression begins with no blank. -/
theorem blankLength_text (s : Frame) (l : List Char) : blankLength (s.before ++ l) = 0 := by
  cases s with
  | grouped | element | value | hole => exact blankLength_cons (by decide) _
  | assigned x =>
    rw [before, List.append_assoc]
    exact blankLength_name x.toName _
  | argument x | index x | middle x | last x =>
    rw [before, List.append_assoc]
    exact blankLength_name x.toName _

/-- Only an assignment begins like one. -/
theorem misses_assignment (s : Frame) (hs : ∀ x, s ≠ .assigned x) (l : List Char) :
    assignment.Misses n (s.before ++ l) := by
  have hname : ∀ (x : PlainName) {l : List Char}, l.head?.any isNamePart = false →
      (pastBlanks l).head? ≠ some '=' → assignment.Misses n (x.chars ++ l) :=
    fun x l hl hne => .assignment x hl (.seq (.of_word rfl hne))
  cases s with
  | assigned x => exact absurd rfl (hs x)
  | grouped | element | value | hole => exact .of_head (by decide) (by decide)
  | argument x | index x =>
    rw [before, List.append_assoc]
    refine hname x rfl ?_
    rw [List.singleton_append, pastBlanks_cons (by decide)]
    simp
  | middle x | last x =>
    rw [before, List.append_assoc]
    refine hname x rfl ?_
    simp only [List.cons_append]
    rw [pastBlanks_before_sign (by decide)]
    simp

/-- An assignment of the expression, unless the two signs run together. -/
theorem takes_assignment (x : PlainName) (hclash : (assigned x).clashes e = false)
    (h : ReadAs e node d) : assignment.TakesOne (readExpression (d + 1))
      ((assigned x).before ++ onLines e []) [] (·.Means ((assigned x).node node)) := by
  have hname := takes_identifier (n := readExpression (d + 1)) x
    (l := ' ' :: '=' :: onLines e []) rfl
  rw [pastBlanks_before_sign (by decide)] at hname
  have hhead := head?_onLines h.ne_nil _ (closesBlock_tail (.assigned x))
  have hahead : (Pattern.either (word "=") (word "~")).Misses (readExpression (d + 1))
      (pastBlanks (onLines e [])) := by
    refine .either (.of_word (c := '=') rfl ?_) (.of_word (c := '~') rfl ?_)
    · exact hhead ▸ h.head?_ne (by decide)
    · exact hhead ▸ beq_eq_false_iff_ne.mp hclash
  have hassignment : assignment.TakesOne (readExpression (d + 1))
      (x.chars ++ ' ' :: '=' :: onLines e []) [] _ :=
    .rule_two hname (.text_seq (w := ['=']) (by decide)
      (.unless_seq (blankLength_pastBlanks _) hahead
        (h.recurse _ (closesBlock_tail (.assigned x)))))
  rw [before, List.append_assoc]
  exact hassignment.mono fun _ ⟨t, ht, hr, u, v, hinner, hu, hv⟩ =>
    ⟨t, ht, .assignment hr hinner hu hv⟩

/-- An expression in a frame is a statement. -/
theorem takes_statement (s : Frame) (hclash : s.clashes e = false)
    (h : ∀ d, e.length ≤ d → ReadAs e node d) (hd : e.length ≤ d) :
    statement.TakesOne (readExpression (d + 2)) (s.before ++ onLines e s.after) []
      (·.Means (s.node node)) := by
  by_cases hs : ∃ x, s = .assigned x
  · obtain ⟨x, rfl⟩ := hs
    show (Pattern.choice ([] ++ assignment :: [.recurse])).TakesOne _ _ _ _
    exact .choice (by simp) (takes_assignment x hclash (h (d + 1) (by omega)))
  · have hs' : ∀ x, s ≠ .assigned x := fun x hx => hs ⟨x, hx⟩
    show (Pattern.choice ([assignment] ++ .recurse :: [])).TakesOne _ _ _ _
    exact .choice (by simpa using misses_assignment s hs' _)
      ((flows s hs' hclash h hd).recurse (blankLength_text s _) rfl (by decide))

/-! ### Where the signs run together -/

/-- Where nothing goes on from a name, it is the whole statement. -/
theorem takes_statement_name (w : PlainName) {c : Char} {l : List Char} (hc : isSolid c = true)
    (hassignment : assignment.Misses (readExpression (d + 1)) (w.chars ++ ' ' :: c :: l))
    (hsteps : steps.Misses (readExpression d) (c :: l))
    (hops : infixOps.Misses (readExpression d) (c :: l)) :
    statement.Takes (readExpression (d + 1)) (w.chars ++ ' ' :: c :: l) (c :: l) fun _ => True := by
  have hflows := Flows.single (misses_unaryOps w.toName _)
    (takes_plainName_sign (n := readExpression d) w hc l)
  have hexpression := (hflows.expression (blankLength_name w.toName _) hsteps hops).recurse
  show (Pattern.choice ([assignment] ++ .recurse :: [])).Takes _ _ _ _
  exact .choice (by simpa using hassignment) (hexpression.mono fun _ _ => trivial)

/-- Where the sign before the expression runs together with its beginning, the name before the sign
is the whole statement. -/
theorem takes_statement_of_clashes (s : Frame) (hclash : s.clashes e = true)
    (he : pastBlanks e ≠ []) (d : Nat) : ∃ c l, (c = '=' ∨ c = '?') ∧
      statement.Takes (readExpression (d + 1)) (s.before ++ onLines e s.after) (c :: l)
        fun _ => True := by
  have hhead := head?_onLines he s.tail s.closesBlock_tail
  cases s with
  | assigned x =>
    have htilde : (pastBlanks (onLines e [])).head? = some '~' := hhead.trans (beq_iff_eq.mp hclash)
    obtain ⟨l', hl'⟩ := List.head?_eq_some_iff.mp htilde
    refine ⟨'=', onLines e [], .inl rfl, ?_⟩
    rw [before, List.append_assoc]
    refine takes_statement_name x (by decide) (.assignment x rfl ?_)
      (.of_head (by decide) (by decide)) (misses_infixOps_equals _)
    rw [pastBlanks_before_sign (by decide)]
    exact .text_seq (w := ['=']) (.seq (.unless_words (w := "~") (.inr ⟨l', hl'.symm⟩)))
  | middle c other =>
    have hpoint : (pastBlanks (onLines e (':' :: ' ' :: other.chars))).head? = some '.' :=
      hhead.trans (beq_iff_eq.mp hclash)
    refine ⟨'?', onLines e (':' :: ' ' :: other.chars), .inr rfl, ?_⟩
    rw [before, List.append_assoc]
    refine takes_statement_name c (by decide) (.assignment c rfl ?_)
      (fun _ k hk => rejects_steps_of_mark hk (by simp [onLines]))
      (misses_infixOps_mark (by simp [onLines]) hpoint)
    rw [pastBlanks_before_sign (by decide)]
    exact .seq (.of_word (c := '=') (l := '?' :: _) rfl (by simp))
  | _ => cases hclash

end Frame

/-! ## Expressions in frames -/

section Fill

variable {e : String} {limit : Nat} {tree : Node}

theorem Frame.toList_fill (s : Frame) (e : String) :
    (s.fill e).toList = s.before ++ onLines e.toList s.after := by
  rw [fill, String.toList_ofList]
  rfl

theorem Frame.pastBlanks_fill (s : Frame) (e : String) :
    pastBlanks (s.fill e).toList = s.before ++ onLines e.toList s.after := by
  rw [toList_fill, pastBlanks_of_blankLength_eq_zero (s.blankLength_text _)]

theorem Frame.length_lt_fill (s : Frame) (e : String) :
    e.toList.length + 1 < (s.fill e).toList.length := by
  rw [toList_fill, onLines]
  simp only [List.length_append, List.length_cons]
  omega

/-- An expression in a frame is parsed as its tree in the tree of the frame. -/
theorem exists_parseWithin_fill (hexpression : isExpression e.toList = true)
    (h : parseWithin limit e = .ok tree) (s : Frame) (hclash : s.clashes e.toList = false) :
    ∃ d, ∀ limit', d ≤ limit' →
      ∃ n, parseWithin limit' (s.fill e) = .ok n ∧ n.unplaced = s.node tree.unplaced := by
  obtain ⟨u, k, hacc, hrest, hbuild⟩ := exists_of_parseWithin hexpression h
  have hread : ∀ d, e.toList.length ≤ d → ReadAs e.toList tree.unplaced d :=
    fun d hd => readAs_of_accepts hacc hrest hbuild hd
  refine parseWithin_of_takes ?_
  have hlength := s.length_lt_fill e
  obtain ⟨d, hd⟩ : ∃ d, (s.fill e).toList.length = d + 1 := ⟨(s.fill e).toList.length - 1, by omega⟩
  rw [hd, s.pastBlanks_fill]
  exact s.takes_statement hclash hread (by omega)

/-- Where the signs run together, there is no tree. -/
theorem exists_parseWithin_fill_error (hexpression : isExpression e.toList = true) (s : Frame)
    (hclash : s.clashes e.toList = true) (limit : Nat) :
    ∃ err, parseWithin limit (s.fill e) = .error err := by
  obtain ⟨u, k, hacc, -, -⟩ := exists_of_isExpression hexpression
  obtain ⟨c', hc', -⟩ := exists_head_of_accepts_expression hacc
  have hne : pastBlanks e.toList ≠ [] := List.ne_nil_of_mem (List.mem_of_head? hc')
  obtain ⟨c, l, hc, htakes⟩ :=
    s.takes_statement_of_clashes hclash hne (s.fill e).toList.length
  rw [← s.pastBlanks_fill] at htakes
  exact exists_parseWithin_error htakes rfl (by rcases hc with rfl | rfl <;> decide) limit

/-- The grammar is compositional, but for two signs: a single expression that is parsed alone is
parsed in every frame, if the limit is large enough, and its tree stands in the tree of the frame.
Only where the sign before the expression runs together with its beginning, though on another line, is
there no tree, whatever the limit. -/
theorem parseWithin_fill (hexpression : isExpression e.toList = true)
    (h : parseWithin limit e = .ok tree) (s : Frame) :
    (s.clashes e.toList = false → ∃ d, ∀ limit', d ≤ limit' →
      ∃ n, parseWithin limit' (s.fill e) = .ok n ∧ n.unplaced = s.node tree.unplaced) ∧
    (s.clashes e.toList = true → ∀ limit', ∃ err, parseWithin limit' (s.fill e) = .error err) :=
  ⟨exists_parseWithin_fill hexpression h s, exists_parseWithin_fill_error hexpression s⟩

end Fill

/-- A complement, which begins with the sign that an equals sign looks ahead for. -/
theorem exists_parseWithin_complement :
    isExpression "~a".toList = true ∧ ∃ tree, parseWithin 2 "~a" = .ok tree := by
  have hparse : (parseWithin 2 "~a").isOk = true := by decide +kernel
  refine ⟨by decide +kernel, ?_⟩
  cases htree : parseWithin 2 "~a" with
  | ok tree => exact ⟨tree, rfl⟩
  | error err =>
    rw [htree] at hparse
    cases hparse

/-- The complement is parsed as a part of a conditional, and not as the value of an assignment. -/
theorem parseWithin_fill_complement : ∃ tree, isExpression "~a".toList = true ∧
    parseWithin 2 "~a" = .ok tree ∧
    (∃ d, ∀ limit, d ≤ limit → ∃ n, parseWithin limit "c ?\n~a\n: d" = .ok n ∧
      n.unplaced = .choice .first (.var .first "c") tree.unplaced (.var .first "d")) ∧
    ∀ limit, ∃ err, parseWithin limit "x =\n~a\n" = .error err := by
  obtain ⟨hexpression, tree, htree⟩ := exists_parseWithin_complement
  let c : PlainName := ⟨⟨['c'], by decide⟩, by decide⟩
  let d : PlainName := ⟨⟨['d'], by decide⟩, by decide⟩
  let x : PlainName := ⟨⟨['x'], by decide⟩, by decide⟩
  exact ⟨tree, hexpression, htree, (parseWithin_fill hexpression htree (.middle c d)).1 rfl,
    (parseWithin_fill hexpression htree (.assigned x)).2 rfl⟩

/-- So the grammar is not compositional. -/
theorem not_compositional : ¬ ∀ (e : String) (limit : Nat) (tree : Node),
    isExpression e.toList = true → parseWithin limit e = .ok tree → ∀ s : Frame,
      ∃ d, ∀ limit', d ≤ limit' →
        ∃ n, parseWithin limit' (s.fill e) = .ok n ∧ n.unplaced = s.node tree.unplaced := by
  intro h
  obtain ⟨hexpression, tree, htree⟩ := exists_parseWithin_complement
  let x : PlainName := ⟨⟨['x'], by decide⟩, by decide⟩
  obtain ⟨d, hd⟩ := h "~a" 2 tree hexpression htree (.assigned x)
  obtain ⟨n, hn, -⟩ := hd d (Nat.le_refl d)
  obtain ⟨err, herr⟩ := exists_parseWithin_fill_error hexpression (.assigned x) rfl d
  rw [hn] at herr
  cases herr

end ExprLang
