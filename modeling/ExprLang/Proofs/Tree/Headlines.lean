import ExprLang.Proofs.Error.Rows
import ExprLang.Proofs.Literal.Escapes
import ExprLang.Proofs.Number.Notation
import ExprLang.Proofs.Tree.Leaves
import ExprLang.Tree.Outline

/-!
# ExprLang.Proofs.Tree.Headlines

The line of a node in an outline, and what is told from it.

A headline is the name of a kind up to the first blank, the place behind the last one, and between
them whatever is particular to the node (`eq_of_headline_eq`).  For a node that a text can have it
stays on its line (`newline_notMem_headline`).
-/

namespace ExprLang

open ExprLang.Language

/-! ## Cutting a text at a character -/

section Cuts

variable {α : Type} {a : α} {u u' v v' : List α}

/-- A text is cut at the first of the characters in one way. -/
theorem eq_of_append_cons (hu : a ∉ u) (hu' : a ∉ u') (h : u ++ a :: v = u' ++ a :: v') :
    u = u' ∧ v = v' := by
  induction u generalizing u' with
  | nil =>
    cases u' with
    | nil => exact ⟨rfl, (List.cons.inj h).2⟩
    | cons b u' => exact absurd ((List.cons.inj h).1 ▸ List.mem_cons_self) hu'
  | cons b u ih =>
    cases u' with
    | nil => exact absurd ((List.cons.inj h).1 ▸ List.mem_cons_self) hu
    | cons b' u' =>
      obtain ⟨rfl, htail⟩ := List.cons.inj h
      obtain ⟨rfl, rfl⟩ := ih (List.not_mem_of_not_mem_cons hu) (List.not_mem_of_not_mem_cons hu')
        htail
      exact ⟨rfl, rfl⟩

/-- A text is cut at the last of the characters in one way. -/
theorem eq_of_append_cons_last (hv : a ∉ v) (hv' : a ∉ v') (h : u ++ a :: v = u' ++ a :: v') :
    u = u' ∧ v = v' := by
  have hreverse := congrArg List.reverse h
  simp only [List.reverse_append, List.reverse_cons, List.append_assoc, List.singleton_append]
    at hreverse
  obtain ⟨hback, hfront⟩ := eq_of_append_cons (by simpa using hv) (by simpa using hv') hreverse
  exact ⟨List.reverse_injective hfront, List.reverse_injective hback⟩

end Cuts

/-! ## Texts in the debugging form -/

/-- The hexadecimal digits of a number denote it. -/
theorem exists_hexValues (n : Nat) : ∃ ds,
    List.Forall₂ (fun digit d => Escape.hexValue? digit = some d) (hexDigits n) ds ∧
      Nat.ofDigits 16 ds.reverse = n := by
  have hdigit : ∀ d : Fin 16, Escape.hexValue? (Nat.digitChar d) = some d.1 := by decide
  induction n using Nat.strongRecOn with
  | ind n ih =>
    rw [hexDigits, Nat.toDigits_eq_if (by decide)]
    split
    · next hlt => exact ⟨[n], .cons (hdigit ⟨n, hlt⟩) .nil, Nat.ofDigits_singleton⟩
    · next hle =>
      obtain ⟨ds, hds, hvalue⟩ := ih (n / 16) (by omega)
      refine ⟨ds ++ [n % 16],
        List.rel_append hds (.cons (hdigit ⟨n % 16, Nat.mod_lt n (by decide)⟩) .nil), ?_⟩
      rw [List.reverse_append, List.reverse_singleton, List.singleton_append, Nat.ofDigits_cons,
        hvalue]
      exact Nat.mod_add_div n 16

theorem names_hexDigits (c : Char) : Escape.Names (hexDigits c.toNat) c := exists_hexValues c.toNat

theorem length_hexDigits_le (c : Char) : (hexDigits c.toNat).length ≤ 6 := by
  have hlt : c.toNat < 0x110000 := by
    have := c.valid
    simp only [UInt32.isValidChar, Nat.isValidChar] at this
    show c.val.toNat < 0x110000
    omega
  exact (Nat.length_toDigits_le_iff (by decide) (by decide)).mpr (by omega)

/-- Each character is written as a unit that stands for it. -/
theorem isUnit_debugChar (c : Char) : Escape.IsUnit (debugChar c) [c] := by
  unfold debugChar
  split
  case h_7 hslash _ _ _ _ =>
    split
    · exact .plain hslash
    · exact .braced Nat.toDigits_ne_nil (length_hexDigits_le c) (names_hexDigits c)
  all_goals exact .simple (by decide)

/-- What stands between the quotes is unescaped into the text. -/
theorem unescape_debugChar (s : List Char) : unescape (s.flatMap debugChar) = .ok s := by
  induction s with
  | nil => rw [List.flatMap_nil, unescape]
  | cons c s ih =>
    rw [List.flatMap_cons, EscapeUnit.unescape_append ⟨debugChar c, [c], isUnit_debugChar c⟩, ih]
    rfl

theorem newline_notMem_debugChar (c : Char) : '\n' ∉ debugChar c := by
  unfold debugChar
  split
  case h_7 hline _ _ _ =>
    split
    · exact fun h => hline (List.mem_singleton.mp h).symm
    · intro h
      have hdigits : '\n' ∈ hexDigits c.toNat := by simpa using h
      exact (names_hexDigits c).ne_of_mem (by decide) _ hdigits rfl
  all_goals decide

theorem debugQuoted_injective : Function.Injective debugQuoted := by
  intro s t h
  have hchars := congrArg String.toList h
  rw [debugQuoted, debugQuoted, String.toList_ofList, String.toList_ofList, List.cons_inj_right,
    List.append_left_inj] at hchars
  have hs := unescape_debugChar s.toList
  rw [hchars, unescape_debugChar t.toList] at hs
  exact (String.toList_injective (Except.ok.inj hs)).symm

/-! ## What is particular to a node -/

theorem LogicalOp.symbol_injective : Function.Injective LogicalOp.symbol := by
  intro op op' h
  cases op <;> cases op' <;> first | rfl | exact absurd h (by decide)

theorem BitwiseOp.symbol_injective : Function.Injective BitwiseOp.symbol := by
  intro op op' h
  cases op <;> cases op' <;> first | rfl | exact absurd h (by decide)

theorem RelationalOp.symbol_injective : Function.Injective RelationalOp.symbol := by
  intro op op' h
  cases op <;> cases op' <;> first | rfl | exact absurd h (by decide)

theorem ArithmeticOp.symbol_injective : Function.Injective ArithmeticOp.symbol := by
  intro op op' h
  cases op <;> cases op' <;> first | rfl | exact absurd h (by decide)

theorem UnaryOp.symbol_injective : Function.Injective UnaryOp.symbol := by
  intro op op' h
  cases op <;> cases op' <;> first | rfl | exact absurd h (by decide)

theorem Token.display_keywordValue? {s : String} {v : Value} (h : keywordValue? s = some v) :
    v.display = s := by
  unfold keywordValue? at h
  split at h <;> cases h <;> rfl

theorem RegExp.isLetter_flags (r : RegExp) : r.flags.toList.all isLetter = true := by
  have hcompiled := r.compiled
  rw [compileProgram] at hcompiled
  split at hcompiled
  · cases hcompiled
  · next hread => exact List.all_eq_true.mpr (isLetter_of_readFlags hread)

/-- The flags of a regular expression stand behind the last slash of its text. -/
theorem RegExp.text_injective : Function.Injective RegExp.text := by
  intro r r' h
  have hchars := congrArg String.toList h
  simp only [text, String.toList_append] at hchars
  obtain ⟨hsource, hflags⟩ := eq_of_append_slash (a := '/' :: r.source.toList)
    (b := '/' :: r'.source.toList) (by simpa using hchars) r.isLetter_flags r'.isLetter_flags
  exact RegExp.ext (String.toList_injective (List.cons.inj hsource).2)
    (String.toList_injective hflags)

theorem mem_of_mem_formatNumber {x : Float} {c : Char} (hc : c ∈ (formatNumber x).toList) :
    c ∈ decimalChars ∨ c ∈ "NaN-Infinity".toList := by
  cases h : Binary.ofFloat x with
  | nan =>
    rw [formatNumber, h] at hc
    exact .inr (List.mem_append_left "-Infinity".toList hc)
  | infinite s =>
    rw [formatNumber, h] at hc
    refine .inr (List.mem_append_right "NaN".toList ?_)
    cases s with
    | true => exact hc
    | false => exact List.mem_cons_of_mem _ hc
  | finite s m e =>
    obtain ⟨negative, n, y, htext, hread, -⟩ := exists_numeral_formatNumber h
    rw [htext, List.mem_append] at hc
    refine .inl (hc.elim (fun hsign => ?_) (mem_decimalChars hread c))
    cases negative with
    | true => exact List.mem_singleton.mp hsign ▸ by decide
    | false => cases hsign

namespace Node

variable {a b n : Node}

/-- The text of the attribute stays on its line. -/
theorem newline_notMem_attribute (hn : n.Lexical) : '\n' ∉ n.attribute.toList := by
  have hnone : '\n' ∉ "".toList := by decide
  have hmarked : ∀ {s : String}, '\n' ∉ s.toList → '\n' ∉ (" " ++ s).toList := by
    intro s hs
    rw [String.toList_append, List.mem_append]
    exact fun h => h.elim (by decide) hs
  cases n with
  | logical p op | bitwise p op | relational p op | arithmetic p op | unary p op =>
    exact hmarked (by cases op <;> decide)
  | call p f as optional =>
    cases optional with
    | true => exact hmarked (s := "?.") (by decide)
    | false => exact hnone
  | identifier p name | var p name => exact hmarked hn
  | string p s =>
    refine hmarked ?_
    rw [debugQuoted, String.toList_ofList]
    have hbody : '\n' ∉ s.toList.flatMap debugChar := by
      rw [List.mem_flatMap]
      rintro ⟨c, -, hc⟩
      exact newline_notMem_debugChar c hc
    simpa using hbody
  | regexp p r =>
    have hflags : '\n' ∉ r.flags.toList := fun h =>
      absurd (List.all_eq_true.mp r.isLetter_flags _ h) (by decide)
    refine hmarked ?_
    have hsource : '\n' ∉ r.source.toList := hn
    simpa [RegExp.text, hsource] using hflags
  | number p x =>
    exact hmarked fun h => (mem_of_mem_formatNumber h).elim (by decide) (by decide)
  | literal p v =>
    obtain ⟨s, hs⟩ := hn
    refine hmarked ?_
    unfold Token.keywordValue? at hs
    split at hs <;> cases hs <;> decide
  | _ => exact hnone

end Node

/-! ## Headlines -/

theorem NodeKind.name_injective : Function.Injective NodeKind.name := by
  let kinds : List NodeKind := [.sequence, .assignment, .fallback, .choice, .logical, .bitwise,
    .relational, .arithmetic, .unary, .select, .call, .identifier, .var, .array, .object, .item,
    .template, .string, .regexp, .number, .literal]
  have hnodup : (kinds.map NodeKind.name).Nodup := by decide
  have hmem : ∀ k, k ∈ kinds := by
    intro k
    cases k <;> decide
  exact fun k k' h => List.inj_on_of_nodup_map hnodup (hmem k) (hmem k') h

/-- The name of a kind is letters. -/
theorem NodeKind.isAlpha_of_mem_name {k : NodeKind} {c : Char} (hc : c ∈ k.name.toList) :
    c.isAlpha = true := by
  have hall : k.name.toList.all Char.isAlpha = true := by cases k <;> decide
  exact List.all_eq_true.mp hall c hc

/-- A place as it is written. -/
def placeChars (p : Position) : List Char :=
  '@' :: ((toString p.line).toList ++ ':' :: (toString p.column).toList)

theorem placeChars_injective : Function.Injective placeChars := by
  have hcolon : ∀ n : Nat, ':' ∉ (toString n).toList := fun n h =>
    absurd (isDigit_of_mem_toString h) (by decide)
  intro p q h
  obtain ⟨hline, hcolumn⟩ := eq_of_append_cons (hcolon _) (hcolon _) (List.cons.inj h).2
  obtain ⟨l, c⟩ := p
  obtain ⟨l', c'⟩ := q
  obtain rfl : l = l' := Nat.repr_injective (String.toList_injective hline)
  obtain rfl : c = c' := Nat.repr_injective (String.toList_injective hcolumn)
  rfl

theorem notMem_placeChars {p : Position} {c : Char} (hc : c ∉ ['@', ':']) (hd : c.isDigit = false) :
    c ∉ placeChars p := by
  have hdigits : ∀ n : Nat, c ∉ (toString n).toList := by
    intro n h
    rw [isDigit_of_mem_toString h] at hd
    cases hd
  simp only [List.mem_cons, List.not_mem_nil, or_false, not_or] at hc
  rw [placeChars, List.mem_cons, List.mem_append, List.mem_cons]
  exact fun h => h.elim hc.1 fun h => h.elim (hdigits _) fun h => h.elim hc.2 (hdigits _)

namespace Node

variable {a b n : Node}

theorem toList_headline (n : Node) : n.headline.toList =
    n.kind.name.toList ++ (n.attribute.toList ++ ' ' :: placeChars n.position) := by
  have hparts : n.headline = n.kind.name ++ n.attribute ++ " @" ++ toString n.position.line ++
      ":" ++ toString n.position.column := rfl
  rw [hparts]
  simp only [String.toList_append, List.append_assoc]
  rfl

/-- A headline begins with a letter. -/
theorem exists_headline (n : Node) :
    ∃ c w, n.headline.toList = c :: w ∧ c.isAlpha = true := by
  rw [toList_headline]
  cases hname : n.kind.name.toList with
  | nil => exact absurd hname (by cases n.kind <;> decide)
  | cons c w =>
    exact ⟨c, _, rfl, NodeKind.isAlpha_of_mem_name (k := n.kind) (hname ▸ List.mem_cons_self)⟩

/-- The headline of a node that a text can have is one line. -/
theorem newline_notMem_headline (hn : n.Lexical) : '\n' ∉ n.headline.toList := by
  have hname : '\n' ∉ n.kind.name.toList := fun h =>
    absurd (NodeKind.isAlpha_of_mem_name h) (by decide)
  have hplace : '\n' ∉ placeChars n.position := notMem_placeChars (by decide) (by decide)
  simp [toList_headline, hname, newline_notMem_attribute hn, hplace]

/-- What is particular to a node is set off by a blank. -/
theorem exists_attribute_append (n : Node) (w : List Char) :
    ∃ v, n.attribute.toList ++ ' ' :: w = ' ' :: v := by
  have hmarked : ∀ s : String, ∃ v, (" " ++ s).toList ++ ' ' :: w = ' ' :: v := by
    intro s
    exact ⟨s.toList ++ ' ' :: w, by rw [String.toList_append]; rfl⟩
  cases n with
  | call p f as optional =>
    cases optional with
    | true => exact hmarked "?."
    | false => exact ⟨w, rfl⟩
  | logical | bitwise | relational | arithmetic | unary | identifier | var | string | regexp
  | number | literal => exact hmarked _
  | _ => exact ⟨w, rfl⟩

/-- Kind, attribute and place are told from the headline. -/
theorem eq_of_headline_eq (h : a.headline = b.headline) :
    a.kind = b.kind ∧ a.attribute = b.attribute ∧ a.position = b.position := by
  have hblank : ∀ k : NodeKind, ' ' ∉ k.name.toList := fun k h =>
    absurd (NodeKind.isAlpha_of_mem_name h) (by decide)
  have hplace : ∀ p, ' ' ∉ placeChars p := fun p => notMem_placeChars (by decide) (by decide)
  have hchars := congrArg String.toList h
  rw [toList_headline, toList_headline] at hchars
  have hkind : a.kind = b.kind := by
    obtain ⟨v, hv⟩ := a.exists_attribute_append (placeChars a.position)
    obtain ⟨v', hv'⟩ := b.exists_attribute_append (placeChars b.position)
    rw [hv, hv'] at hchars
    obtain ⟨hname, -⟩ := eq_of_append_cons (hblank _) (hblank _) hchars
    exact NodeKind.name_injective (String.toList_injective hname)
  rw [hkind, List.append_cancel_left_eq] at hchars
  obtain ⟨hattribute, hposition⟩ := eq_of_append_cons_last (hplace _) (hplace _) hchars
  exact ⟨hkind, String.toList_injective hattribute, placeChars_injective hposition⟩

end Node

end ExprLang
