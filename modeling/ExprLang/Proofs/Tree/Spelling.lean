import ExprLang.Proofs.Grammar.Flow
import ExprLang.Proofs.Tree.Runs
import ExprLang.Proofs.Tree.Signs
import ExprLang.Tree.Parse

/-!
# ExprLang.Proofs.Tree.Spelling

The grammar reads what is written.  `Phrase.Reads` says that the lexemes of a phrase are read as part
of a flat expression, whatever follows, and leave tokens that are the phrase.  There is one lemma for
each form of phrase, and `Phrase.reads` puts them together, with the recursion unfolded as often as
there are lexemes.
-/

namespace ExprLang

open ExprLang.Language Pattern

/-! ## The expression inside an expression -/

theorem read_recurse (n : Reader) : Pattern.recurse.read n = n := rfl

theorem readExpression_succ (d : Nat) :
    readExpression (d + 1) = expression.read (readExpression d) := by
  funext m a p
  rw [readExpression, readNested, readExpression]

theorem accepts_recurse_iff {d : Nat} {m : Mode} {k k' : Cursor} {ts : List Token} :
    Pattern.recurse.Accepts (readExpression (d + 1)) m k ts k' ↔
      expression.Accepts (readExpression d) m k ts k' := by
  unfold Pattern.Accepts
  rw [read_recurse, readExpression_succ]

/-- Whether an expression is accepted does not depend on what was read and noted before. -/
theorem settled_readExpression (d : Nat) : (readExpression d).Settled := by
  induction d with
  | zero => exact fun _ _ => .inr fun a _ => ⟨a, rfl⟩
  | succ d ih =>
    rw [readExpression_succ]
    exact accepts_or_rejects ih expression

theorem proceeds_readExpression (d : Nat) : (readExpression d).Proceeds := by
  induction d with
  | zero => exact fun _ _ _ _ => ⟨rfl, fun _ _ h => by cases h⟩
  | succ d ih =>
    rw [readExpression_succ]
    exact fun m k => leads_reaches ih expression m k

/-- No expression begins where one ends. -/
theorem refuses_recurse (d : Nat) {L : List Lexeme} (hL : closes L = true) :
    Pattern.recurse.Refuses (readExpression (d + 1)) L := by
  have hexpression : expression.Refuses (readExpression d) L := refuses_of_closes (by decide) hL
  intro ahead k hk
  unfold Pattern.Rejects
  rw [read_recurse, readExpression_succ]
  exact hexpression ahead k hk

namespace Phrase

/-- The phrase is read as a part of a flat expression: its tokens are the phrase, and the run goes
on after them, whatever follows. -/
def Reads (n : Reader) (p : Phrase) : Prop :=
  ∀ L k, k.rest = spaced (p.lexemes ++ L) → ∃ ts k', k'.rest = spaced L ∧ Runs ts p ∧
    ∀ us k'', Flow n true k' us k'' → Flow n false k (us ++ ts) k''

/-- The phrase is read as an expression inside another, where that ends. -/
def ReadsInside (n : Reader) (p : Phrase) : Prop :=
  ∀ L, closes L = true → Pattern.recurse.ReadsOne n (p.lexemes ++ L) L (·.Means p.node)

theorem Reads.inside {d : Nat} {p : Phrase} (h : p.Reads (readExpression d)) (hp : p.Grouped) :
    p.ReadsInside (readExpression (d + 1)) := by
  intro L hL k hk
  obtain ⟨ts, k', hrest, hruns, hflow⟩ := h L k hk
  have hsteps : steps.Refuses (readExpression d) L := refuses_of_closes (by decide) hL
  have hops : infixOps.Refuses (readExpression d) L := refuses_of_closes (by decide) hL
  obtain ⟨k₁, hskip, hlt, hacc⟩ := (hflow [] k' .done).accepts_expression
    (Cursor.skip_of_spaced hk _) (hsteps false k' hrest) (hops false k' hrest)
  exact ⟨_, k₁, accepts_recurse_iff.mpr hacc, by rw [hskip, hrest], hlt, _, rfl, hruns.means hp k _⟩

/-! ## Operands -/

variable {n : Reader} {p : Phrase}

theorem Reads.of_operand (hunary : ∀ L, unaryOps.Refuses n (p.lexemes ++ L))
    (h : ∀ L, operand.ReadsOne n (p.lexemes ++ L) L (·.Means p.node)) : p.Reads n := by
  intro L k hk
  obtain ⟨_, k₁, hacc, hrest, hlt, t, rfl, ht⟩ := h L k hk
  exact ⟨[t], _, hrest, .operand ht, fun us k'' hflow =>
    .operand (hunary L false k hk) hacc hlt hflow⟩

theorem reads_atom (a : Atom) : (atom a).Reads n := by
  refine .of_operand (fun L => ?_) fun L => ?_
  · rw [lexemes]
    exact refuses_unaryOps a L
  · rw [lexemes, node]
    exact Pattern.reads_atom a L

theorem reads_paren (hp : p.ReadsInside n) : (paren p).Reads n := by
  have hlexemes : ∀ L, (paren p).lexemes ++ L =
      Lexeme.openParen :: (p.lexemes ++ Lexeme.closeParen :: L) := by
    intro L
    rw [lexemes, List.cons_append, List.append_assoc, List.singleton_append]
  refine .of_operand (fun L => ?_) fun L => ?_
  · rw [hlexemes]
    exact .of_head (c := '(') rfl (by decide)
  · have hread : grouped.ReadsOne n (.openParen :: (p.lexemes ++ .closeParen :: L)) L _ :=
      .rule_one (.text_seq (w := .openParen)
        (.seq_text (w := .closeParen) (hp _ (closes_cons (c := ')') rfl rfl L))))
    rw [hlexemes, node]
    show (Pattern.choice ([] ++ grouped :: _)).ReadsOne n _ L _
    refine (Pattern.Reads.choice (by simp) hread).mono fun _ ⟨t, ht, hr, u, hinner, hu⟩ => ?_
    exact ⟨t, ht, hu.bracket (.inl hr) hinner⟩

theorem lexemesEach_eq_map (ps : List Phrase) : lexemesEach ps = ps.map lexemes := by
  induction ps with
  | nil => rfl
  | cons p ps ih => rw [lexemesEach, ih, List.map_cons]

theorem itemLexemes_eq_map (is : List Item) : itemLexemes is = is.map Item.lexemes := by
  induction is with
  | nil => rfl
  | cons i is ih => rw [itemLexemes, ih, List.map_cons]

/-- Expressions with commas between them, up to a closing sign. -/
theorem reads_list {ps : List Phrase} (hps : ∀ p ∈ ps, p.ReadsInside n) {w : Lexeme}
    {L : List Lexeme} (hclose : closes (w :: L) = true) (hcomma : (word ",").Refuses n (w :: L))
    (hempty : Pattern.recurse.Refuses n (w :: L)) :
    (Pattern.seq (.maybe (commaList .recurse)) (.text w.chars)).Reads n
      (separated (lexemesEach ps) ++ w :: L) L fun ts =>
        List.Forall₂ (fun (p : Phrase) t => Token.Means t p.node) ps ts.reverse := by
  rw [lexemesEach_eq_map]
  exact .maybe_commaList (fun p hp L' hL' => hps p hp L' hL') hclose hcomma hempty

theorem reads_array {ps : List Phrase} (hps : ∀ p ∈ ps, p.ReadsInside n)
    (hempty : ∀ L, Pattern.recurse.Refuses n (.closeBracket :: L)) : (array ps).Reads n := by
  have hlexemes : ∀ L, (array ps).lexemes ++ L =
      Lexeme.openBracket :: (separated (lexemesEach ps) ++ Lexeme.closeBracket :: L) := by
    intro L
    rw [lexemes, List.cons_append, List.append_assoc, List.singleton_append]
  refine .of_operand (fun L => ?_) fun L => ?_
  · rw [hlexemes]
    exact .of_head (c := '[') rfl (by decide)
  · have hlist := reads_list hps (w := .closeBracket) (closes_cons (c := ']') rfl rfl L)
      (.of_head (c := ']') rfl (by decide)) (hempty L)
    have hread : Language.array.ReadsOne n
        (.openBracket :: (separated (lexemesEach ps) ++ .closeBracket :: L)) L _ :=
      .rule (.text_seq (w := .openBracket) hlist)
    rw [hlexemes, node]
    show (Pattern.choice ([grouped, template] ++ Language.array :: _)).ReadsOne n _ L _
    refine (Pattern.Reads.choice (fun z hz => .of_head (c := '[') rfl ?_) hread).mono
      fun _ ⟨t, ht, hr, hts⟩ => ⟨t, ht, .array hr ?_⟩
    · simp only [List.mem_cons, List.not_mem_nil, or_false] at hz
      rcases hz with rfl | rfl <;> decide
    · rwa [List.reverse_reverse] at hts

/-- An item of an object. -/
def ItemReads (n : Reader) (i : Item) : Prop :=
  ∀ L, closes L = true → objectItem.ReadsOne n (i.lexemes ++ L) L (·.Means i.node)

/-- A key, a colon and a value. -/
theorem reads_keyed {key value : Node} {L₀ L₁ L : List Lexeme}
    (hkey : (Pattern.choice [computedKey, string, number, name]).ReadsOne n L₀ (.colon :: L₁)
      (·.Means key))
    (hvalue : Pattern.recurse.ReadsOne n L₁ L (·.Means value)) :
    objectItem.ReadsOne n L₀ L (·.Means (.item .first key value)) := by
  have hbody : (all [Pattern.choice [computedKey, string, number, name], word ":",
      .recurse]).Reads n L₀ L fun ts => ∃ t u, ts = [u, t] ∧ t.Means key ∧ u.Means value := by
    refine .seq hkey (.text_seq (w := .colon) hvalue) ?_
    rintro _ _ ⟨t, rfl, ht⟩ ⟨u, rfl, hu⟩
    exact ⟨t, u, rfl, ht, hu⟩
  refine hbody.rule.mono fun _ ⟨t, ht, hr, k, v, hinner, hk, hv⟩ => ⟨t, ht, ?_⟩
  refine .item hr ?_ hk hv
  rw [← List.reverse_reverse t.inner, hinner]
  rfl

theorem reads_plain (k : Key) (hp : p.ReadsInside n) : ItemReads n (.plain k p) := by
  intro L hL
  rw [Item.lexemes, Item.node, List.cons_append, List.cons_append]
  exact reads_keyed (reads_key k _) (hp L hL)

theorem reads_computed {k : Phrase} (hk : k.ReadsInside n) (hp : p.ReadsInside n) :
    ItemReads n (.computed k p) := by
  intro L hL
  have hread : computedKey.ReadsOne n
      (.openBracket :: (k.lexemes ++ .closeBracket :: .colon :: (p.lexemes ++ L)))
      (.colon :: (p.lexemes ++ L)) _ :=
    .rule_one (.text_seq (w := .openBracket) (.seq_text (w := .closeBracket)
      (hk _ (closes_cons (c := ']') rfl rfl _))))
  have hkey : (Pattern.choice ([] ++ computedKey :: [string, number, name])).ReadsOne n _ _
      (·.Means k.node) :=
    (Pattern.Reads.choice (by simp) hread).mono fun _ ⟨t, ht, hr, u, hinner, hu⟩ =>
      ⟨t, ht, hu.bracket (.inr hr) hinner⟩
  rw [Item.lexemes, Item.node, List.cons_append, List.append_assoc, List.cons_append,
    List.cons_append]
  exact reads_keyed hkey (hp L hL)

theorem reads_object {is : List Item} (his : ∀ i ∈ is, ItemReads n i) : (object is).Reads n := by
  have hlexemes : ∀ L, (object is).lexemes ++ L =
      Lexeme.openBrace :: (separated (itemLexemes is) ++ Lexeme.closeBrace :: L) := by
    intro L
    rw [lexemes, List.cons_append, List.append_assoc, List.singleton_append]
  refine .of_operand (fun L => ?_) fun L => ?_
  · rw [hlexemes]
    exact .of_head (c := '\x7b') rfl (by decide)
  · have hlist : (Pattern.seq (.maybe (commaList objectItem)) (word "\x7d")).Reads n
        (separated (is.map Item.lexemes) ++ .closeBrace :: L) L _ :=
      .maybe_commaList (w := .closeBrace) (fun i hi L' hL' => his i hi L' hL')
        (closes_cons (c := '\x7d') rfl rfl L) (.of_head (c := '\x7d') rfl (by decide))
        (.of_head (c := '\x7d') rfl (by decide))
    have hread : Language.object.ReadsOne n
        (.openBrace :: (separated (is.map Item.lexemes) ++ .closeBrace :: L)) L _ :=
      .rule (.text_seq (w := .openBrace) hlist)
    rw [hlexemes, itemLexemes_eq_map, node]
    show (Pattern.choice ([grouped, template, Language.array] ++ Language.object :: _)).ReadsOne n _ L _
    refine (Pattern.Reads.choice (fun z hz => .of_head (c := '\x7b') rfl ?_) hread).mono
      fun _ ⟨t, ht, hr, hts⟩ => ⟨t, ht, .object hr ?_⟩
    · simp only [List.mem_cons, List.not_mem_nil, or_false] at hz
      rcases hz with rfl | rfl | rfl <;> decide
    · rwa [List.reverse_reverse] at hts

/-! ## Operators -/

theorem reads_unary (op : UnaryOp) (hp : p.Reads n) : (unary op p).Reads n := by
  intro L k hk
  rw [lexemes, List.cons_append] at hk
  obtain ⟨_, k₁, hacc, hrest, hlt, t, rfl, ht⟩ := reads_unaryOp op (p.lexemes ++ L) k hk
  obtain ⟨ts, k', hrest', hruns, hflow⟩ := hp L _ hrest
  refine ⟨ts ++ [t], k', hrest', hruns.unary ht, fun us k'' h => ?_⟩
  rw [← List.append_assoc]
  exact .unary hacc hlt (hflow us k'' h)

/-- An operand, an operator (with a middle, perhaps) and an operand. -/
theorem reads_operator (op : InfixOp) (ws : List Lexeme) {l r : Phrase} (hl : l.Reads n)
    (hr : r.Reads n) (hlexemes : p.lexemes = l.lexemes ++ op.lexeme :: (ws ++ r.lexemes))
    {T : Token → Prop} (hop : ∀ L, infixOps.ReadsOne n (op.lexeme :: (ws ++ L)) L T)
    (hruns : ∀ ts us t, Runs ts l → T t → Runs us r → Runs (us ++ [t] ++ ts) p) : p.Reads n := by
  intro L k hk
  rw [hlexemes, List.append_assoc, List.cons_append, List.append_assoc] at hk
  obtain ⟨ts, k₁, hrest₁, hts, hflow⟩ := hl _ k hk
  obtain ⟨_, k₂, hacc, hrest₂, hlt, t, rfl, ht⟩ := hop (r.lexemes ++ L) k₁ hrest₁
  obtain ⟨us, k', hrest', hus, hflow'⟩ := hr L _ hrest₂
  refine ⟨us ++ [t] ++ ts, k', hrest', hruns ts us t hts ht hus, fun vs k'' h => ?_⟩
  have hsteps : steps.Rejects n .open k₁ := refuses_steps op _ false k₁ hrest₁
  have hrun := hflow _ k'' (.operator hsteps hacc hlt (hflow' vs k'' h))
  rwa [List.append_assoc vs, List.append_assoc vs] at hrun

theorem reads_between {l r : Phrase} (op : Operator) (hl : l.Reads n) (hr : r.Reads n) :
    (between op l r).Reads n :=
  reads_operator op.1 [] hl hr (by rw [lexemes]; rfl) (fun L => reads_infixOp op L)
    fun _ _ _ hts ht hus => hts.between ht hus

/-- No phrase begins with a colon or a point. -/
theorem refuses_lexemes (p : Phrase) {s : String} (hs : s = ":" ∨ s = ".") (L : List Lexeme) :
    (word s).Refuses n (p.lexemes ++ L) := by
  have hcons : ∀ {w : Lexeme} {c : Char} (L : List Lexeme), w.chars.head? = some c → c ≠ ':' →
      c ≠ '.' → (word s).Refuses n (w :: L) := by
    intro w c L hc hcolon hpoint
    refine .of_head hc ?_
    rcases hs with rfl | rfl
    · simp [word, eats, idles, Ne.symm hcolon]
    · simp [word, eats, idles, Ne.symm hpoint]
  cases p with
  | atom a =>
    rw [lexemes, List.cons_append]
    cases a with
    | plain w =>
      obtain ⟨c, hc, hstart⟩ := head?_of_isName w.valid
      have hne := @not_isNameStart [':', '.'] (by decide) c
      exact hcons _ hc (hne (by simp) hstart).symm (hne (by simp) hstart).symm
    | capture w => exact hcons (c := '$') _ rfl (by decide) (by decide)
    | string s =>
      have hquote : s.quote ≠ ':' ∧ s.quote ≠ '.' := by
        unfold StringLiteral.quote
        split <;> decide
      exact hcons _ rfl hquote.1 hquote.2
    | keyword w => cases w <;> exact hcons _ rfl (by decide) (by decide)
  | paren p =>
    rw [lexemes, List.cons_append]
    exact hcons (c := '(') _ rfl (by decide) (by decide)
  | array ps =>
    rw [lexemes, List.cons_append]
    exact hcons (c := '[') _ rfl (by decide) (by decide)
  | object is =>
    rw [lexemes, List.cons_append]
    exact hcons (c := '\x7b') _ rfl (by decide) (by decide)
  | unary op x =>
    rw [lexemes, List.cons_append]
    cases op with
    | not => exact hcons (c := '!') _ rfl (by decide) (by decide)
    | bitNot => exact hcons (c := '~') _ rfl (by decide) (by decide)
  | between op p r | choice p m r | field p optional w | index p optional k | call p optional as =>
    rw [lexemes, List.append_assoc]
    exact refuses_lexemes p hs _

theorem reads_choice {c m r : Phrase} (hc : c.Reads n) (hm : m.ReadsInside n) (hr : r.Reads n) :
    (choice c m r).Reads n := by
  have hop : ∀ L, infixOps.ReadsOne n
      (InfixOp.choice.lexeme :: ((m.lexemes ++ [Lexeme.colon]) ++ L)) L fun t =>
        t.rule = .between .choice ∧ ∃ u, t.inner = [u] ∧ u.Means m.node := by
    intro L
    rw [List.append_assoc, List.singleton_append]
    exact reads_choiceOp (hm _ (closes_cons (c := ':') rfl rfl L))
      (refuses_lexemes m (.inl rfl) _) (refuses_lexemes m (.inr rfl) _)
  refine reads_operator .choice (m.lexemes ++ [Lexeme.colon]) hc hr ?_ hop
    fun ts us t hts ht hus => ?_
  · rw [lexemes, List.append_assoc, List.singleton_append]
    rfl
  · obtain ⟨hrule, u, hinner, hu⟩ := ht
    exact hts.choice hrule hinner hu hus

/-! ## Steps -/

theorem reads_step {b : Phrase} (hb : b.Reads n) (ws : List Lexeme)
    (hlexemes : p.lexemes = b.lexemes ++ ws) {T : Token → Prop}
    (hstep : ∀ L, steps.ReadsOne n (ws ++ L) L T)
    (hruns : ∀ ts t, Runs ts b → T t → Runs (t :: ts) p) : p.Reads n := by
  intro L k hk
  rw [hlexemes, List.append_assoc] at hk
  obtain ⟨ts, k₁, hrest₁, hts, hflow⟩ := hb _ k hk
  obtain ⟨_, k₂, hacc, hrest₂, hlt, t, rfl, ht⟩ := hstep L k₁ hrest₁
  refine ⟨t :: ts, _, hrest₂, hruns ts t hts ht, fun us k'' h => ?_⟩
  have hrun := hflow _ k'' (.step hacc hlt h)
  rwa [List.append_assoc, List.singleton_append] at hrun

theorem reads_field {b : Phrase} (optional : Bool) (w : Name) (hb : b.Reads n) :
    (field b optional w).Reads n := by
  refine reads_step hb [.dot optional, w.lexeme] (by rw [lexemes])
    (fun L => ExprLang.reads_field optional w L) fun ts t hts ht => ?_
  obtain ⟨hrule, u, hinner, hu⟩ := ht
  exact hts.field hrule hinner hu

theorem reads_index {b k : Phrase} (optional : Bool) (hb : b.Reads n) (hk : k.ReadsInside n) :
    (index b optional k).Reads n := by
  have hstep : ∀ L, steps.ReadsOne n
      ((optionalDot optional ++ Lexeme.openBracket :: (k.lexemes ++ [Lexeme.closeBracket])) ++ L) L
      fun t => t.rule = .index optional ∧ ∃ u, t.inner = [u] ∧ u.Means k.node := by
    intro L
    rw [List.append_assoc, List.cons_append, List.append_assoc, List.singleton_append]
    exact ExprLang.reads_index optional (hk _ (closes_cons (c := ']') rfl rfl L))
  refine reads_step hb _ (by rw [lexemes]) hstep fun ts t hts ht => ?_
  obtain ⟨hrule, u, hinner, hu⟩ := ht
  exact hts.index hrule hinner hu

theorem reads_call {f : Phrase} {args : List Phrase} (optional : Bool) (hf : f.Reads n)
    (hargs : ∀ p ∈ args, p.ReadsInside n)
    (hempty : ∀ L, Pattern.recurse.Refuses n (.closeParen :: L)) :
    (call f optional args).Reads n := by
  have hstep : ∀ L, steps.ReadsOne n
      ((optionalDot optional ++
        Lexeme.openParen :: (separated (lexemesEach args) ++ [Lexeme.closeParen])) ++ L) L
      fun t => t.rule = .call optional ∧ List.Forall₂ (fun (p : Phrase) t => Token.Means t p.node)
        args t.inner.reverse.reverse := by
    intro L
    rw [List.append_assoc, List.cons_append, List.append_assoc, List.singleton_append]
    exact ExprLang.reads_call optional (reads_list hargs (w := .closeParen)
      (closes_cons (c := ')') rfl rfl L) (.of_head (c := ')') rfl (by decide)) (hempty L))
  refine reads_step hf _ (by rw [lexemes]) hstep fun ts t hts ht => ?_
  obtain ⟨hrule, hinner⟩ := ht
  rw [List.reverse_reverse] at hinner
  exact hts.call hrule hinner

/-! ## All phrases -/

theorem length_le_separated {wss : List (List Lexeme)} {ws : List Lexeme} (h : ws ∈ wss) :
    ws.length ≤ (separated wss).length := by
  cases wss with
  | nil => cases h
  | cons vs wss =>
    rw [separated, List.length_append]
    rcases List.mem_cons.mp h with rfl | h
    · exact Nat.le_add_right _ _
    · have hflat : ws.length + 1 ≤ (wss.flatMap (.comma :: ·)).length := by
        obtain ⟨as, bs, rfl⟩ := List.append_of_mem h
        simp only [List.flatMap_append, List.flatMap_cons, List.length_append, List.length_cons]
        omega
      omega

theorem length_le_of_mem {ps : List Phrase} {p : Phrase} (h : p ∈ ps) :
    p.lexemes.length ≤ (separated (lexemesEach ps)).length := by
  rw [lexemesEach_eq_map]
  exact length_le_separated (List.mem_map_of_mem h)

theorem length_le_of_mem_items {is : List Item} {i : Item} (h : i ∈ is) :
    i.lexemes.length ≤ (separated (itemLexemes is)).length := by
  rw [itemLexemes_eq_map]
  exact length_le_separated (List.mem_map_of_mem h)

mutual

/-- A grouped phrase is read as it is written. -/
theorem reads (p : Phrase) (hp : p.Grouped) (d : Nat) (hd : p.lexemes.length ≤ d) :
    p.Reads (readExpression d) := by
  cases p with
  | atom a => exact reads_atom a
  | paren p =>
    rw [Grouped] at hp
    simp only [lexemes, List.length_cons, List.length_append, List.length_nil] at hd
    obtain ⟨d, rfl⟩ : ∃ e, d = e + 1 := ⟨d - 1, by omega⟩
    exact reads_paren ((reads p hp d (by omega)).inside hp)
  | array ps =>
    rw [Grouped] at hp
    simp only [lexemes, List.length_cons, List.length_append, List.length_nil] at hd
    obtain ⟨d, rfl⟩ : ∃ e, d = e + 1 := ⟨d - 1, by omega⟩
    have hle : ∀ p ∈ ps, p.lexemes.length ≤ d := fun p h => by
      have := length_le_of_mem h
      omega
    exact reads_array (readsEach ps hp d hle)
      fun L => refuses_recurse d (closes_cons (c := ']') rfl rfl L)
  | object is =>
    rw [Grouped] at hp
    simp only [lexemes, List.length_cons, List.length_append, List.length_nil] at hd
    obtain ⟨d, rfl⟩ : ∃ e, d = e + 1 := ⟨d - 1, by omega⟩
    have hle : ∀ i ∈ is, i.lexemes.length ≤ d := fun i h => by
      have := length_le_of_mem_items h
      omega
    exact reads_object (readsItems is hp d hle)
  | unary op x =>
    rw [Grouped] at hp
    rw [lexemes, List.length_cons] at hd
    exact reads_unary op (reads x hp.1 d (by omega))
  | between op l r =>
    rw [Grouped] at hp
    rw [lexemes, List.length_append, List.length_cons] at hd
    exact reads_between op (reads l hp.1 d (by omega)) (reads r hp.2.1 d (by omega))
  | choice c m r =>
    rw [Grouped] at hp
    obtain ⟨hc, hm, hr, -, -⟩ := hp
    simp only [lexemes, List.length_cons, List.length_append] at hd
    obtain ⟨d, rfl⟩ : ∃ e, d = e + 1 := ⟨d - 1, by omega⟩
    exact reads_choice (reads c hc _ (by omega)) ((reads m hm d (by omega)).inside hm)
      (reads r hr _ (by omega))
  | field b optional w =>
    rw [Grouped] at hp
    rw [lexemes, List.length_append] at hd
    exact reads_field optional w (reads b hp.1 d (by omega))
  | index b optional k =>
    rw [Grouped] at hp
    obtain ⟨hb, hk, -⟩ := hp
    simp only [lexemes, List.length_cons, List.length_append, List.length_nil] at hd
    obtain ⟨d, rfl⟩ : ∃ e, d = e + 1 := ⟨d - 1, by omega⟩
    exact reads_index optional (reads b hb _ (by omega)) ((reads k hk d (by omega)).inside hk)
  | call f optional args =>
    rw [Grouped] at hp
    obtain ⟨hf, hargs, -⟩ := hp
    simp only [lexemes, List.length_cons, List.length_append, List.length_nil] at hd
    obtain ⟨d, rfl⟩ : ∃ e, d = e + 1 := ⟨d - 1, by omega⟩
    have hle : ∀ p ∈ args, p.lexemes.length ≤ d := fun p h => by
      have := length_le_of_mem h
      omega
    exact reads_call optional (reads f hf _ (by omega)) (readsEach args hargs d hle)
      fun L => refuses_recurse d (closes_cons (c := ')') rfl rfl L)

theorem readsEach (ps : List Phrase) (hps : AllGrouped ps) (d : Nat)
    (hd : ∀ p ∈ ps, p.lexemes.length ≤ d) :
    ∀ p ∈ ps, p.ReadsInside (readExpression (d + 1)) := by
  cases ps with
  | nil => simp
  | cons p ps =>
    rw [AllGrouped] at hps
    rw [List.forall_mem_cons] at hd ⊢
    exact ⟨(reads p hps.1 d hd.1).inside hps.1, readsEach ps hps.2 d hd.2⟩

theorem readsItem (i : Item) (hi : i.Grouped) (d : Nat) (hd : i.lexemes.length ≤ d) :
    ItemReads (readExpression (d + 1)) i := by
  cases i with
  | plain k v =>
    rw [Item.Grouped] at hi
    simp only [Item.lexemes, List.length_cons] at hd
    exact reads_plain k ((reads v hi d (by omega)).inside hi)
  | computed k v =>
    rw [Item.Grouped] at hi
    simp only [Item.lexemes, List.length_cons, List.length_append] at hd
    exact reads_computed ((reads k hi.1 d (by omega)).inside hi.1)
      ((reads v hi.2 d (by omega)).inside hi.2)

theorem readsItems (is : List Item) (his : ItemsGrouped is) (d : Nat)
    (hd : ∀ i ∈ is, i.lexemes.length ≤ d) : ∀ i ∈ is, ItemReads (readExpression (d + 1)) i := by
  cases is with
  | nil => simp
  | cons i is =>
    rw [ItemsGrouped] at his
    rw [List.forall_mem_cons] at hd ⊢
    exact ⟨readsItem i his.1 d hd.1, readsItems is his.2 d hd.2⟩

end

end Phrase

end ExprLang
