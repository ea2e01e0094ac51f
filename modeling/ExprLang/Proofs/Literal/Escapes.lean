import Mathlib.Data.List.Forall2
import Mathlib.Data.Nat.Digits.Defs
import Mathlib.Tactic.Ring
import ExprLang.Literal.Escape

/-!
# ExprLang.Proofs.Literal.Escapes

The notation of escaped texts, and that it is what `unescape` reads.

An escaped text is made of units, each of which stands for a character, or for none where the line
goes on (`Escape.IsUnit`).  A text is unescaped just if it is a row of units, into what these stand
for, and it is such a row in one way only (`unescape_units`): what follows a backslash tells where
the unit ends (`Escape.read_eq_ok_iff`).
-/

namespace ExprLang

namespace Escape

/-! ## Units -/

/-- The digits are hexadecimal, and the number that they denote is that of the character. -/
def Names (digits : List Char) (c : Char) : Prop :=
  ∃ ds, List.Forall₂ (fun digit d => hexValue? digit = some d) digits ds ∧
    Nat.ofDigits 16 ds.reverse = c.toNat

/-- The characters that stand for a character after a backslash. -/
def simpleEscapes : List (Char × Char) :=
  [('n', '\n'), ('t', '\t'), ('r', '\r'), ('0', '\x00'), ('b', '\x08'), ('f', '\x0c'),
    ('v', '\x0b'), ('\\', '\\'), ('\x27', '\x27'), ('"', '"'), ('\x60', '\x60'), ('$', '$'),
    ('/', '/')]

/-- A unit of an escaped text, and the characters that it stands for. -/
inductive IsUnit : List Char → List Char → Prop
  /-- Any character but the backslash stands for itself. -/
  | plain {c : Char} : c ≠ '\\' → IsUnit [c] [c]
  | simple {e c : Char} : (e, c) ∈ simpleEscapes → IsUnit ['\\', e] [c]
  /-- The line goes on. -/
  | continued : IsUnit ['\\', '\n'] []
  /-- Two digits. -/
  | byte {digits : List Char} {c : Char} : digits.length = 2 → Names digits c →
      IsUnit ('\\' :: 'x' :: digits) [c]
  /-- Four digits. -/
  | fixed {digits : List Char} {c : Char} : digits.length = 4 → Names digits c →
      IsUnit ('\\' :: 'u' :: digits) [c]
  /-- One to six digits between braces. -/
  | braced {digits : List Char} {c : Char} : digits ≠ [] → digits.length ≤ 6 → Names digits c →
      IsUnit ('\\' :: 'u' :: '\x7b' :: (digits ++ ['\x7d'])) [c]

/-! ## Digits -/

theorem hexNumber?_eq_some_iff {digits : List Char} {n m : Nat} :
    hexNumber? digits n = some m ↔
      ∃ ds, List.Forall₂ (fun digit d => hexValue? digit = some d) digits ds ∧
        m = n * 16 ^ ds.length + Nat.ofDigits 16 ds.reverse := by
  induction digits generalizing n with
  | nil =>
    simp only [hexNumber?, Option.some.injEq, List.forall₂_nil_left_iff]
    constructor
    · rintro rfl
      exact ⟨[], rfl, by simp⟩
    · rintro ⟨_, rfl, rfl⟩
      simp
  | cons digit digits ih =>
    rw [hexNumber?]
    cases hdigit : hexValue? digit with
    | none =>
      refine ⟨nofun, ?_⟩
      rintro ⟨_, _ | ⟨hd, -⟩, -⟩
      rw [hdigit] at hd
      cases hd
    | some d =>
      have hvalue : ∀ ds : List Nat, (16 * n + d) * 16 ^ ds.length + Nat.ofDigits 16 ds.reverse =
          n * 16 ^ (d :: ds).length + Nat.ofDigits 16 (d :: ds).reverse := by
        intro ds
        rw [List.reverse_cons, Nat.ofDigits_append, Nat.ofDigits_singleton, List.length_reverse,
          List.length_cons, pow_succ]
        ring
      dsimp only
      rw [ih]
      constructor
      · rintro ⟨ds, hds, rfl⟩
        exact ⟨d :: ds, .cons hdigit hds, hvalue ds⟩
      · rintro ⟨_, _ | ⟨hd, hds⟩, rfl⟩
        rw [hdigit, Option.some.injEq] at hd
        subst hd
        exact ⟨_, hds, (hvalue _).symm⟩

theorem charOf?_eq_some_iff {n : Nat} {c : Char} : charOf? n = some c ↔ n = c.toNat := by
  by_cases h : n.isValidChar
  · rw [charOf?, dif_pos h, Option.some.injEq, ← Char.toNat_inj]
    exact Iff.rfl
  · rw [charOf?, dif_neg h]
    constructor
    · intro hnone
      cases hnone
    · rintro rfl
      exact absurd c.valid h

/-- Digits, of which there are some, are read as the character that they name. -/
theorem codePoint_eq_ok_iff {digits : List Char} (hne : digits ≠ []) {c : Char} :
    codePoint digits = .ok c ↔ Names digits c := by
  have hread : codePoint? digits = some c ↔ Names digits c := by
    cases digits with
    | nil => exact absurd rfl hne
    | cons digit digits =>
      simp only [codePoint?, Option.bind_eq_some_iff, hexNumber?_eq_some_iff, charOf?_eq_some_iff,
        Nat.zero_mul, Nat.zero_add]
      constructor
      · rintro ⟨_, ⟨ds, hds, rfl⟩, hc⟩
        exact ⟨ds, hds, hc⟩
      · rintro ⟨ds, hds, hc⟩
        exact ⟨_, ⟨ds, hds, rfl⟩, hc⟩
  rw [← hread, codePoint]
  cases codePoint? digits <;> simp

/-- What names a character are digits. -/
theorem Names.exists_hexValue? {digits : List Char} {c : Char} (h : Names digits c) :
    ∀ digit ∈ digits, ∃ d, hexValue? digit = some d := by
  obtain ⟨ds, hds, -⟩ := h
  induction hds with
  | nil => simp
  | cons hd _ ih => exact List.forall_mem_cons.mpr ⟨⟨_, hd⟩, ih⟩

theorem Names.ne_of_mem {digits : List Char} {c : Char} (h : Names digits c) {x : Char}
    (hx : hexValue? x = none) : ∀ digit ∈ digits, digit ≠ x := by
  rintro _ hmem rfl
  obtain ⟨d, hd⟩ := h.exists_hexValue? _ hmem
  rw [hx] at hd
  cases hd

/-! ## Reading what follows a backslash -/

theorem simple?_eq_some_iff {e c : Char} : simple? e = some c ↔ (e, c) ∈ simpleEscapes := by
  unfold simple?
  split
  case h_14 =>
    simp only [simpleEscapes, List.mem_cons, Prod.mk.injEq, List.not_mem_nil, reduceCtorEq]
    tauto
  all_goals simp [simpleEscapes, eq_comm]

theorem fixedDigits_eq_ok_iff {n : Nat} (hn : n ≠ 0) {s s' : List Char} {d : Option Char} :
    fixedDigits n s = .ok (d, s') ↔
      ∃ digits c, s = digits ++ s' ∧ digits.length = n ∧ Names digits c ∧ d = some c := by
  unfold fixedDigits
  split
  · next hlt =>
    refine ⟨nofun, ?_⟩
    rintro ⟨digits, c, rfl, rfl, -⟩
    rw [List.length_append] at hlt
    omega
  · next hle =>
    rw [Nat.not_lt] at hle
    have hlength : (s.take n).length = n := List.length_take_of_le hle
    have hne : s.take n ≠ [] := fun h => hn (by rw [← hlength, h, List.length_nil])
    constructor
    · intro h
      cases hpoint : codePoint (s.take n) with
      | error e =>
        rw [hpoint] at h
        cases h
      | ok c =>
        rw [hpoint] at h
        cases h
        exact ⟨_, c, (List.take_append_drop n s).symm, hlength,
          (codePoint_eq_ok_iff hne).mp hpoint, rfl⟩
    · rintro ⟨digits, c, rfl, rfl, hnames, rfl⟩
      rw [List.take_left, List.drop_left] at *
      rw [(codePoint_eq_ok_iff hne).mpr hnames]
      rfl

theorem bracedDigits_append {digits : List Char} (h : '\x7d' ∉ digits) (s : List Char) :
    bracedDigits (digits ++ '\x7d' :: s) =
      if 6 < digits.length then .error (.noCharacter digits)
      else (codePoint digits).map fun c => (some c, s) := by
  have htake : (digits ++ '\x7d' :: s).takeWhile (· != '\x7d') = digits := by
    have hdigits : ∀ c ∈ digits, (c != '\x7d') = true := by
      intro c hc
      exact bne_iff_ne.mpr (ne_of_mem_of_not_mem hc h)
    rw [List.takeWhile_append_of_pos hdigits, List.takeWhile_cons_of_neg (by decide),
      List.append_nil]
  have hdrop : (digits ++ '\x7d' :: s).drop (digits.length + 1) = s := by
    rw [List.drop_append, List.drop_of_length_le (Nat.le_succ _), Nat.add_sub_cancel_left]
    rfl
  rw [bracedDigits, if_pos (by simp)]
  dsimp only
  rw [htake, hdrop]

theorem bracedDigits_eq_ok_iff {s s' : List Char} {d : Option Char} :
    bracedDigits s = .ok (d, s') ↔
      ∃ digits c, s = digits ++ '\x7d' :: s' ∧ digits ≠ [] ∧ digits.length ≤ 6 ∧ Names digits c ∧
        d = some c := by
  constructor
  · intro h
    by_cases hmem : '\x7d' ∈ s
    · obtain ⟨digits, t, rfl, hdigits⟩ := List.eq_append_cons_of_mem hmem
      rw [bracedDigits_append hdigits] at h
      split at h
      · cases h
      · next hlength =>
        cases hpoint : codePoint digits with
        | error e =>
          rw [hpoint] at h
          cases h
        | ok c =>
          rw [hpoint] at h
          cases h
          have hne : digits ≠ [] := by
            rintro rfl
            cases hpoint
          exact ⟨digits, c, rfl, hne, Nat.not_lt.mp hlength, (codePoint_eq_ok_iff hne).mp hpoint,
            rfl⟩
    · rw [bracedDigits, if_neg hmem] at h
      cases h
  · rintro ⟨digits, c, rfl, hne, hlength, hnames, rfl⟩
    rw [bracedDigits_append fun hmem => hnames.ne_of_mem (by decide) _ hmem rfl,
      if_neg (Nat.not_lt.mpr hlength), (codePoint_eq_ok_iff hne).mpr hnames]
    rfl

/-- What follows a backslash is read just if the two are a unit. -/
theorem read_eq_ok_iff {s s' : List Char} {d : Option Char} :
    read s = .ok (d, s') ↔ ∃ w, s = w ++ s' ∧ IsUnit ('\\' :: w) d.toList := by
  constructor
  · intro h
    unfold read at h
    split at h
    · cases h
    · cases h
      exact ⟨['\n'], rfl, .continued⟩
    · obtain ⟨digits, c, rfl, hlength, hnames, rfl⟩ := (fixedDigits_eq_ok_iff (by decide)).mp h
      exact ⟨'x' :: digits, rfl, .byte hlength hnames⟩
    · obtain ⟨digits, c, rfl, hne, hlength, hnames, rfl⟩ := bracedDigits_eq_ok_iff.mp h
      exact ⟨'u' :: '\x7b' :: (digits ++ ['\x7d']), by simp, .braced hne hlength hnames⟩
    · obtain ⟨digits, c, rfl, hlength, hnames, rfl⟩ := (fixedDigits_eq_ok_iff (by decide)).mp h
      exact ⟨'u' :: digits, rfl, .fixed hlength hnames⟩
    · next e s _ _ _ _ =>
      split at h
      · next c hc =>
        cases h
        exact ⟨[e], rfl, .simple (simple?_eq_some_iff.mp hc)⟩
      · cases h
  · rintro ⟨w, rfl, hunit⟩
    generalize hm : d.toList = m at hunit
    cases hunit with
    | plain hne => exact absurd rfl hne
    | simple hmem =>
      obtain rfl := Option.toList_eq_singleton_iff.mp hm
      simp only [simpleEscapes, List.mem_cons, Prod.mk.injEq, List.not_mem_nil, or_false] at hmem
      rcases hmem with ⟨rfl, rfl⟩ | ⟨rfl, rfl⟩ | ⟨rfl, rfl⟩ | ⟨rfl, rfl⟩ | ⟨rfl, rfl⟩ | ⟨rfl, rfl⟩ |
        ⟨rfl, rfl⟩ | ⟨rfl, rfl⟩ | ⟨rfl, rfl⟩ | ⟨rfl, rfl⟩ | ⟨rfl, rfl⟩ | ⟨rfl, rfl⟩ | ⟨rfl, rfl⟩ <;>
        rfl
    | continued =>
      obtain rfl := Option.toList_eq_nil_iff.mp hm
      rfl
    | byte hlength hnames =>
      obtain rfl := Option.toList_eq_singleton_iff.mp hm
      exact (fixedDigits_eq_ok_iff (by decide)).mpr ⟨_, _, rfl, hlength, hnames, rfl⟩
    | @fixed digits _ hlength hnames =>
      obtain rfl := Option.toList_eq_singleton_iff.mp hm
      rw [List.cons_append, read]
      · exact (fixedDigits_eq_ok_iff (by decide)).mpr ⟨_, _, rfl, hlength, hnames, rfl⟩
      · intro t ht
        cases digits with
        | nil => cases hlength
        | cons digit digits =>
          cases ht
          exact hnames.ne_of_mem (by decide) _ List.mem_cons_self rfl
    | braced hne hlength hnames =>
      obtain rfl := Option.toList_eq_singleton_iff.mp hm
      exact bracedDigits_eq_ok_iff.mpr ⟨_, _, by simp, hne, hlength, hnames, rfl⟩

/-! ## Units in front -/

/-- What a unit stands for is one character or none. -/
theorem IsUnit.exists_toList {unit meaning : List Char} (h : IsUnit unit meaning) :
    ∃ d : Option Char, d.toList = meaning := by
  cases h with
  | continued => exact ⟨none, rfl⟩
  | plain | simple | byte | fixed | braced => exact ⟨some _, rfl⟩

theorem IsUnit.ne_nil {unit meaning : List Char} (h : IsUnit unit meaning) : unit ≠ [] := by
  cases h <;> exact List.cons_ne_nil _ _

/-- No unit goes on as another: what follows does not tell where a unit ends. -/
theorem IsUnit.append_inj {unit unit' meaning meaning' s s' : List Char}
    (h : IsUnit unit meaning) (h' : IsUnit unit' meaning') (heq : unit ++ s = unit' ++ s') :
    unit = unit' ∧ meaning = meaning' ∧ s = s' := by
  obtain ⟨c, w, rfl⟩ := List.exists_cons_of_ne_nil h.ne_nil
  obtain ⟨c', w', rfl⟩ := List.exists_cons_of_ne_nil h'.ne_nil
  rw [List.cons_append, List.cons_append, List.cons.injEq] at heq
  obtain ⟨rfl, hrest⟩ := heq
  by_cases hc : c = '\\'
  · subst hc
    obtain ⟨d, rfl⟩ := h.exists_toList
    obtain ⟨d', rfl⟩ := h'.exists_toList
    have hread : read (w ++ s) = .ok (d, s) := read_eq_ok_iff.mpr ⟨w, rfl, h⟩
    have hread' : read (w ++ s) = .ok (d', s') := read_eq_ok_iff.mpr ⟨w', hrest, h'⟩
    rw [hread] at hread'
    cases hread'
    exact ⟨congrArg _ (List.append_cancel_right hrest), rfl, rfl⟩
  · cases h <;> first | exact absurd rfl hc | skip
    cases h' <;> first | exact absurd rfl hc | skip
    exact ⟨rfl, rfl, hrest⟩

end Escape

/-! ## Rows of units -/

open Escape

/-- A unit with what it stands for. -/
structure EscapeUnit where
  chars : List Char
  meaning : List Char
  valid : IsUnit chars meaning

theorem unescape_escape {rest rest' : List Char} {d : Option Char}
    (h : Escape.read rest = .ok (d, rest')) :
    unescape ('\\' :: rest) = (unescape rest').map (d.toList ++ ·) := by
  rw [unescape, if_pos rfl]
  split
  · next e he =>
    rw [h] at he
    cases he
  · next d' s he =>
    rw [h] at he
    cases he
    rfl

theorem unescape_cons {c : Char} (hc : c ≠ '\\') (s : List Char) :
    unescape (c :: s) = (unescape s).map (c :: ·) := by
  rw [unescape, if_neg hc]

/-- A unit in front is read first. -/
theorem EscapeUnit.unescape_append (u : EscapeUnit) (s : List Char) :
    unescape (u.chars ++ s) = (unescape s).map (u.meaning ++ ·) := by
  obtain ⟨c, w, hchars⟩ := List.exists_cons_of_ne_nil u.valid.ne_nil
  have hvalid := u.valid
  rw [hchars] at hvalid ⊢
  by_cases hc : c = '\\'
  · subst hc
    obtain ⟨d, hd⟩ := hvalid.exists_toList
    rw [← hd] at hvalid ⊢
    exact unescape_escape (read_eq_ok_iff.mpr ⟨w, rfl, hvalid⟩)
  · generalize u.meaning = m at hvalid ⊢
    cases hvalid with
    | plain => exact unescape_cons hc s
    | simple | continued | byte | fixed | braced => exact absurd rfl hc

theorem unescape_flatMap (units : List EscapeUnit) :
    unescape (units.flatMap EscapeUnit.chars) = .ok (units.flatMap EscapeUnit.meaning) := by
  induction units with
  | nil => rw [List.flatMap_nil, unescape, List.flatMap_nil]
  | cons u units ih =>
    rw [List.flatMap_cons, u.unescape_append, ih, List.flatMap_cons]
    rfl

/-- What is unescaped is a row of units. -/
theorem exists_units {text s : List Char} (h : unescape text = .ok s) :
    ∃ units : List EscapeUnit, units.flatMap EscapeUnit.chars = text := by
  induction text using unescape.induct generalizing s with
  | case1 => exact ⟨[], rfl⟩
  | case2 rest e hread =>
    rw [unescape, if_pos rfl] at h
    split at h
    · cases h
    · next hok =>
      rw [hread] at hok
      cases hok
  | case3 rest d rest' hread ih =>
    rw [unescape_escape hread] at h
    obtain ⟨w, rfl, hunit⟩ := read_eq_ok_iff.mp hread
    cases hrest : unescape rest' with
    | error e =>
      rw [hrest] at h
      cases h
    | ok s' =>
      obtain ⟨units, rfl⟩ := ih hrest
      exact ⟨⟨'\\' :: w, d.toList, hunit⟩ :: units, rfl⟩
  | case4 c rest hc ih =>
    rw [unescape_cons hc] at h
    cases hrest : unescape rest with
    | error e =>
      rw [hrest] at h
      cases h
    | ok s' =>
      obtain ⟨units, rfl⟩ := ih hrest
      exact ⟨⟨[c], [c], .plain hc⟩ :: units, rfl⟩

/-- A text is a row of units in one way at most. -/
theorem EscapeUnit.flatMap_chars_injective :
    Function.Injective fun units : List EscapeUnit => units.flatMap EscapeUnit.chars := by
  intro units units' heq
  dsimp only at heq
  induction units generalizing units' with
  | nil =>
    cases units' with
    | nil => rfl
    | cons u' units' =>
      rw [List.flatMap_nil, List.flatMap_cons, eq_comm, List.append_eq_nil_iff] at heq
      exact absurd heq.1 u'.valid.ne_nil
  | cons u units ih =>
    cases units' with
    | nil =>
      rw [List.flatMap_nil, List.flatMap_cons, List.append_eq_nil_iff] at heq
      exact absurd heq.1 u.valid.ne_nil
    | cons u' units' =>
      rw [List.flatMap_cons, List.flatMap_cons] at heq
      obtain ⟨hchars, hmeaning, hrest⟩ := u.valid.append_inj u'.valid heq
      rw [ih hrest]
      cases u
      cases u'
      cases hchars
      cases hmeaning
      rfl

/-- A text is unescaped just if it is a row of units, which it is in one way only, and then into
what the units stand for: so a text in which each character is written in any of its forms stands
for that text. -/
theorem unescape_units :
    (∀ text s : List Char, unescape text = .ok s ↔
      ∃ units : List EscapeUnit, units.flatMap EscapeUnit.chars = text ∧
        units.flatMap EscapeUnit.meaning = s) ∧
    (∀ units units' : List EscapeUnit,
      units.flatMap EscapeUnit.chars = units'.flatMap EscapeUnit.chars → units = units') ∧
    (∀ (s : List Char) (forms : List (List Char)),
      List.Forall₂ (fun c form => IsUnit form [c]) s forms → unescape forms.flatten = .ok s) := by
  refine ⟨fun text s => ⟨fun h => ?_, ?_⟩, fun units units' heq =>
    EscapeUnit.flatMap_chars_injective heq, fun s forms hforms => ?_⟩
  · obtain ⟨units, rfl⟩ := exists_units h
    rw [unescape_flatMap] at h
    cases h
    exact ⟨units, rfl, rfl⟩
  · rintro ⟨units, rfl, rfl⟩
    exact unescape_flatMap units
  · induction hforms with
    | nil => exact unescape_flatMap []
    | @cons c form s forms hform _ ih =>
      rw [List.flatten_cons, EscapeUnit.unescape_append ⟨form, [c], hform⟩, ih]
      rfl

/-- A letter as it stands and by its number in each notation, over two lines. -/
theorem unescape_units_of_letter :
    unescape "A\\x41\\u0041\\\n\\u\x7b41\x7d".toList = .ok "AAAA".toList := by
  have hnames : Names ['4', '1'] 'A' := ⟨[4, 1], .cons rfl (.cons rfl .nil), rfl⟩
  have hnames' : Names ['0', '0', '4', '1'] 'A' :=
    ⟨[0, 0, 4, 1], .cons rfl (.cons rfl (.cons rfl (.cons rfl .nil))), rfl⟩
  exact (unescape_units.1 _ _).mpr ⟨[⟨_, _, .plain (by decide)⟩, ⟨_, _, .byte rfl hnames⟩,
    ⟨_, _, .fixed rfl hnames'⟩, ⟨_, _, .continued⟩,
    ⟨_, _, .braced (by decide) (by decide) hnames⟩], rfl, rfl⟩

end ExprLang
