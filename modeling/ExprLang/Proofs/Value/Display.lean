import ExprLang.Proofs.Source.Brackets
import ExprLang.Proofs.Tree.Data
import ExprLang.Proofs.Tree.Single
import ExprLang.Proofs.Value.Contents
import ExprLang.Value.Display

/-!
# ExprLang.Proofs.Value.Display

The literal form of plain data reads back as that data.

`Value.IsData` says which values are plain data, `Value.nesting` how deeply their containers nest,
and `Value.readBack` which value is read back: the same one, but for the sign of a zero.  The text is
an operand that denotes that value (`Value.takesOperand_display`), and its brackets nest as deeply
as the value does (`Value.passes_display`); so it parses with one level more than the value nests,
and evaluates to the value wherever it is evaluated (`evaluate_display`).
-/

namespace ExprLang

open ExprLang.Language Pattern

namespace Value

/-! ## Plain data -/

mutual

/-- Whether a value is plain data: no regular expression, no function and no negative infinity, and
every map sorted by its names. -/
def IsData : Value → Prop
  | null | undefined | boolean _ | string _ => True
  | number x => x ≠ -1.0 / 0.0
  | array items => AllData items
  | map entries => Entries.Sorted entries ∧ EntriesData entries
  | regexp _ | function _ => False

def AllData : List Value → Prop
  | [] => True
  | v :: vs => v.IsData ∧ AllData vs

def EntriesData : List (String × Value) → Prop
  | [] => True
  | (_, v) :: es => v.IsData ∧ EntriesData es

end

mutual

/-- How deeply containers nest in a value. -/
def nesting : Value → Nat
  | array items => nestingAll items + 1
  | map entries => nestingEntries entries + 1
  | _ => 0

def nestingAll : List Value → Nat
  | [] => 0
  | v :: vs => max v.nesting (nestingAll vs)

def nestingEntries : List (String × Value) → Nat
  | [] => 0
  | (_, v) :: es => max v.nesting (nestingEntries es)

end

mutual

/-- The value with all zeros positive. -/
def readBack : Value → Value
  | number x => number (if x = -0.0 then 0.0 else x)
  | array items => array (readBackAll items)
  | map entries => map (readBackEntries entries)
  | v => v

def readBackAll : List Value → List Value
  | [] => []
  | v :: vs => v.readBack :: readBackAll vs

def readBackEntries : List (String × Value) → List (String × Value)
  | [] => []
  | (name, v) :: es => (name, v.readBack) :: readBackEntries es

end

variable {vs : List Value} {es : List (String × Value)}

theorem allData_iff : AllData vs ↔ ∀ v ∈ vs, v.IsData := by
  induction vs with
  | nil => simp [AllData]
  | cons v vs ih => rw [AllData, ih, List.forall_mem_cons]

theorem entriesData_iff : EntriesData es ↔ ∀ e ∈ es, e.2.IsData := by
  induction es with
  | nil => simp [EntriesData]
  | cons e es ih => rw [EntriesData, ih, List.forall_mem_cons]

theorem nesting_le_nestingAll {v : Value} (h : v ∈ vs) : v.nesting ≤ nestingAll vs := by
  induction vs with
  | nil => cases h
  | cons w vs ih =>
    rw [nestingAll]
    rcases List.mem_cons.mp h with rfl | h
    · exact Nat.le_max_left _ _
    · exact (ih h).trans (Nat.le_max_right _ _)

theorem nesting_le_nestingEntries {e : String × Value} (h : e ∈ es) :
    e.2.nesting ≤ nestingEntries es := by
  induction es with
  | nil => cases h
  | cons f es ih =>
    rw [nestingEntries]
    rcases List.mem_cons.mp h with rfl | h
    · exact Nat.le_max_left _ _
    · exact (ih h).trans (Nat.le_max_right _ _)

theorem readBackAll_eq_map (vs : List Value) : readBackAll vs = vs.map readBack := by
  induction vs with
  | nil => rfl
  | cons v vs ih => rw [readBackAll, ih, List.map_cons]

theorem readBackEntries_eq_map (es : List (String × Value)) :
    readBackEntries es = es.map fun e => (e.1, e.2.readBack) := by
  induction es with
  | nil => rfl
  | cons e es ih => rw [readBackEntries, ih, List.map_cons]

theorem sorted_readBackEntries (h : Entries.Sorted es) : Entries.Sorted (readBackEntries es) := by
  rw [readBackEntries_eq_map]
  exact List.pairwise_map.mpr h

/-! ## The text -/

/-- The characters of the literal form. -/
def chars (v : Value) : List Char := v.display.toList

/-- The characters of an entry. -/
def entryChars (e : String × Value) : List Char := (quoted e.1).toList ++ ':' :: e.2.chars

theorem displayAll_eq_map (vs : List Value) : displayAll vs = vs.map display := by
  induction vs with
  | nil => rfl
  | cons v vs ih => rw [displayAll, ih, List.map_cons]

theorem chars_array (vs : List Value) :
    (array vs).chars = '[' :: ([','].intercalate (vs.map chars) ++ [']']) := by
  have hitems : (displayAll vs).map String.toList = vs.map chars := by
    rw [displayAll_eq_map, List.map_map]
    rfl
  rw [chars, display, String.toList_append, String.toList_append, String.toList_intercalate, hitems]
  rfl

theorem chars_map (es : List (String × Value)) :
    (map es).chars = '\x7b' :: ([','].intercalate (es.map entryChars) ++ ['\x7d']) := by
  have hentries : (displayEntries es).map String.toList = es.map entryChars := by
    induction es with
    | nil => rfl
    | cons e es ih =>
      rw [displayEntries, List.map_cons, List.map_cons, ih, String.toList_append,
        String.toList_append, List.append_assoc]
      rfl
  rw [chars, display, String.toList_append, String.toList_append, String.toList_intercalate,
    hentries]
  rfl

theorem length_le_intercalate (sep : List Char) {w : List Char} {ws : List (List Char)} (h : w ∈ ws) :
    w.length ≤ (sep.intercalate ws).length := by
  induction ws with
  | nil => cases h
  | cons w' ws ih =>
    cases ws with
    | nil =>
      rw [List.mem_singleton.mp h]
      simp [List.intercalate]
    | cons w'' ws =>
      rw [List.intercalate_cons_cons, List.length_append, List.length_append]
      rcases List.mem_cons.mp h with rfl | h
      · omega
      · have := ih h
        omega

/-! ## Numbers -/

/-- The text of a number is one of the keywords or a numeral, with a sign perhaps. -/
theorem formatNumber_cases {x : Float} (hx : x ≠ -1.0 / 0.0) :
    (formatNumber x = "NaN" ∧ x = 0.0 / 0.0) ∨ (formatNumber x = "Infinity" ∧ x = 1.0 / 0.0) ∨
      ∃ (negative : Bool) (n : Numeral) (y : Float),
        (formatNumber x).toList = (if negative then ['-'] else []) ++ n.chars ∧
        readDecimal n.chars = some y ∧
        (if negative then -y else y) = if x = -0.0 then 0.0 else x := by
  cases h : Binary.ofFloat x with
  | nan => exact .inl ⟨by rw [formatNumber, h], Binary.eq_of_ofFloat_eq_nan h⟩
  | infinite s =>
    have hinfinite := Binary.eq_of_ofFloat_eq_infinite h
    cases s with
    | true => exact absurd hinfinite hx
    | false => exact .inr (.inl ⟨by rw [formatNumber, h]; rfl, hinfinite⟩)
  | finite s m e => exact .inr (.inr (exists_numeral_formatNumber h))

theorem passes_numeral (n : Numeral) : Scan.Passes 0 n.chars := by
  have hdigits : ∀ l : List Char, l.all isDecimalDigit = true → Scan.Passes 0 l :=
    fun l hl => .chars (List.all_eq_true.mpr fun c hc => List.all_eq_true.mp
      (by decide : "0123456789".toList.all (fun c => !Scan.isMark c) = true) c
      (mem_of_isDecimalDigit (List.all_eq_true.mp hl c hc)))
  have hpointed : Scan.Passes 0 (Numeral.pointed n.fraction) := by
    cases hfraction : n.fraction with
    | nil => exact .nil
    | cons c l =>
      rw [Numeral.pointed, ← hfraction]
      exact .cons (.inl (by decide)) (hdigits _ n.all_fraction)
      exact List.cons_ne_nil c l
  have hmarked : Scan.Passes 0 (Numeral.marked n.exponent) := by
    cases hexponent : n.exponent with
    | none => exact .nil
    | some p =>
      obtain ⟨negative, l⟩ := p
      rw [Numeral.marked]
      exact .cons (.inl (by decide)) (.cons (.inl (by cases negative <;> decide))
        (hdigits l (n.all_exponent _ hexponent)))
  exact (hdigits _ n.all_whole).append (hpointed.append hmarked)

theorem passes_quoted (s : String) : Scan.Passes 0 (quoted s).toList := by
  rw [toList_quoted]
  exact .quoted (isQuotable_quoteChar s.toList)

theorem passes_formatNumber {x : Float} (hx : x ≠ -1.0 / 0.0) :
    Scan.Passes 0 (formatNumber x).toList := by
  rcases formatNumber_cases hx with ⟨h, -⟩ | ⟨h, -⟩ | ⟨negative, n, -, h, -, -⟩
  · rw [h]
    exact .chars (by decide)
  · rw [h]
    exact .chars (by decide)
  · rw [h]
    refine .append ?_ (passes_numeral n)
    cases negative with
    | true => exact .chars (by decide)
    | false => exact .nil

theorem takesOperand_formatNumber {n : Reader} {x : Float} (hx : x ≠ -1.0 / 0.0) :
    TakesOperand n (formatNumber x).toList 0 (.number (if x = -0.0 then 0.0 else x)) := by
  rcases formatNumber_cases hx with ⟨h, rfl⟩ | ⟨h, rfl⟩ | ⟨negative, num, y, h, hy, hread⟩
  · have hne : (0.0 / 0.0 : Float) ≠ -0.0 := by decide
    rw [h, if_neg hne]
    exact .keyword (by decide) rfl rfl
  · have hne : (1.0 / 0.0 : Float) ≠ -0.0 := by decide
    rw [h, if_neg hne]
    exact .keyword (by decide) rfl rfl
  · rw [h, ← hread]
    exact .number negative num hy

/-! ## Values -/

variable {v : Value}

/-- The brackets of the text nest as deeply as the value does. -/
theorem passes_display (hv : v.IsData) : Scan.Passes v.nesting v.chars := by
  induction v using contained with
  | plain v hplain =>
    cases v with
    | null => exact .chars (by decide)
    | undefined => exact .chars (by decide)
    | boolean b => cases b <;> exact .chars (by decide)
    | number x => exact passes_formatNumber hv
    | string s => exact passes_quoted s
    | array vs => cases hplain
    | map es => cases hplain
    | regexp r => cases hv
    | function f => cases hv
  | items vs ih =>
    rw [chars_array, nesting]
    refine .bracketed (o := .bracket) rfl rfl (.intercalate ?_)
    rw [List.forall_mem_map]
    exact fun v hmem => (ih v hmem (allData_iff.mp hv v hmem)).mono (nesting_le_nestingAll hmem)
  | entries es ih =>
    rw [chars_map, nesting]
    refine .bracketed (o := .brace) rfl rfl (.intercalate ?_)
    rw [List.forall_mem_map]
    intro e hmem
    have hvalue := (ih e hmem (entriesData_iff.mp hv.2 e hmem)).mono (nesting_le_nestingEntries hmem)
    exact ((passes_quoted e.1).mono (Nat.zero_le _)).append (.cons (.inr rfl) hvalue)

/-- The text is an operand that denotes the value, with positive zeros. -/
theorem takesOperand_display (hv : v.IsData) {d : Nat} (hd : v.chars.length ≤ d) :
    TakesOperand (readExpression d) v.chars v.nesting v.readBack := by
  induction v using contained generalizing d with
  | plain v hplain =>
    cases v with
    | null => exact .keyword (s := "null") (by decide) rfl rfl
    | undefined => exact .keyword (s := "undefined") (by decide) rfl rfl
    | boolean b =>
      cases b with
      | true => exact .keyword (s := "true") (by decide) rfl rfl
      | false => exact .keyword (s := "false") (by decide) rfl rfl
    | number x => exact takesOperand_formatNumber hv
    | string s => exact .string s
    | array vs => cases hplain
    | map es => cases hplain
    | regexp r => cases hv
    | function f => cases hv
  | items vs ih =>
    rw [chars_array] at hd ⊢
    rw [List.length_cons, List.length_append, List.length_singleton] at hd
    obtain ⟨d, rfl⟩ : ∃ d', d = d' + 1 := ⟨d - 1, by omega⟩
    rw [nesting, readBack, readBackAll_eq_map]
    refine .array (fun v hmem => ?_) (misses_recurse d)
    have hlength := length_le_intercalate [','] (List.mem_map_of_mem (f := chars) hmem)
    have hitem := ih v hmem (allData_iff.mp hv v hmem) (d := d) (by omega)
    have hle := nesting_le_nestingAll hmem
    exact hitem.nested.mono fun t ht => ht.mono (by omega)
  | entries es ih =>
    rw [chars_map] at hd ⊢
    rw [List.length_cons, List.length_append, List.length_singleton] at hd
    obtain ⟨d, rfl⟩ : ∃ d', d = d' + 1 := ⟨d - 1, by omega⟩
    have hsorted := sorted_readBackEntries hv.1
    rw [readBackEntries_eq_map] at hsorted
    rw [nesting, readBack, readBackEntries_eq_map]
    refine .object (fun e hmem => ?_) hsorted
    have hlength := length_le_intercalate [','] (List.mem_map_of_mem (f := entryChars) hmem)
    have hentry : e.2.chars.length ≤ (entryChars e).length := by
      rw [entryChars, List.length_append, List.length_cons]
      omega
    have hvalue := ih e hmem (entriesData_iff.mp hv.2 e hmem) (d := d) (by omega)
    have hle := nesting_le_nestingEntries hmem
    exact TakesOperand.item (hvalue.nested.mono fun t ht => ht.mono (by omega))

end Value

/-! ## The tree -/

open Value

/-- Plain data is a statement. -/
theorem takes_statement_display {v : Value} (hv : v.IsData) :
    statement.TakesOne (readExpression (v.chars.length + 1)) (pastBlanks v.chars) []
      (Token.Denotes (v.nesting + 1) v.readBack) := by
  have hoperand := takesOperand_display hv (le_refl _)
  obtain ⟨hblank, hrecurse⟩ := hoperand.nested [] rfl
  have hassignment := (takesOperand_display hv (Nat.le_succ _)).assignment [] rfl
  rw [List.append_nil] at hblank hrecurse hassignment
  rw [pastBlanks_of_blankLength_eq_zero hblank]
  show (Pattern.choice ([assignment] ++ .recurse :: [])).TakesOne _ _ _ _
  refine .choice (fun z hz => ?_) hrecurse
  rw [List.mem_singleton.mp hz]
  exact hassignment

/-- Plain data is read back from its literal form: with one level more than its containers nest the
text has a tree, whose value is the data with positive zeros wherever it is evaluated. -/
theorem evaluate_display {v : Value} (hv : v.IsData) {limit : Nat} (hlimit : v.nesting + 1 ≤ limit) :
    ∃ tree, parseWithin limit v.display = .ok tree ∧
      ∀ {σ : Type} (s : Surroundings σ) (r : Run σ), (tree.evaluate s r).1 = .ok v.readBack ∧
        (tree.evaluate s r).2.state = r.state ∧ (tree.evaluate s r).2.host = r.host := by
  obtain ⟨_, k, hacc, hrest, -, u, rfl, hu⟩ :=
    takes_statement_display hv _ (Cursor.rest_skip (.ofText v.chars))
  obtain ⟨t, htoken, hbuild⟩ := exists_tokenOf hacc hrest
  obtain ⟨tree, htree, hgives⟩ := hu.2 limit 0 (by omega)
  have hopener : deepOpener? limit v.chars = none :=
    deepOpener?_of_passes (passes_display hv) (by omega)
  refine ⟨tree, ?_, fun s r => hgives.evaluate s r⟩
  unfold chars at hopener htoken
  simp only [parseWithin, hopener, htoken]
  exact (hbuild limit 0).trans htree

/-- A map of texts to escape, of numbers and of what is empty. -/
theorem evaluate_display_map :
    ∃ v : Value, v = .map [("", .array [.number (-0.0), .number 2.5e-8, .undefined, .map []]),
        ("a \"b\"\n", .string "\x01\\\x60/*")] ∧
      v.display = "\x7b\"\":[0,2.5e-8,undefined,\x7b\x7d]," ++
        "\"a \\\"b\\\"\\n\":\"\\u0001\\\\\x60/*\"\x7d" ∧
      v.readBack = .map [("", .array [.number 0.0, .number 2.5e-8, .undefined, .map []]),
        ("a \"b\"\n", .string "\x01\\\x60/*")] ∧
      ∃ tree, parseWithin 4 v.display = .ok tree ∧
        ∀ {σ : Type} (s : Surroundings σ) (r : Run σ), (tree.evaluate s r).1 = .ok v.readBack ∧
          (tree.evaluate s r).2.state = r.state ∧ (tree.evaluate s r).2.host = r.host := by
  have hzero : (-0.0 : Float) ≠ -1.0 / 0.0 := by decide +kernel
  have hsmall : (2.5e-8 : Float) ≠ -1.0 / 0.0 ∧ (2.5e-8 : Float) ≠ -0.0 := by decide +kernel
  refine ⟨_, rfl, by decide +kernel, ?_, evaluate_display ?_ (by decide)⟩
  · simp [readBack, readBackEntries, readBackAll, hsmall.2]
  · have hnames : ("" : String) < "a \"b\"\n" := by decide +kernel
    have hsorted : ∀ v w : Value, Entries.Sorted [("", v), ("a \"b\"\n", w)] :=
      fun _ _ => List.pairwise_pair.mpr hnames
    refine ⟨hsorted _ _, ?_⟩
    have hempty : Entries.Sorted ([] : Bag) := .nil
    simp [IsData, AllData, EntriesData, hzero, hsmall.1, hempty]

end ExprLang
