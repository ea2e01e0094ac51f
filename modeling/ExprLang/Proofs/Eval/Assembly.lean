import ExprLang.Proofs.Eval.Chaining
import ExprLang.Proofs.Eval.Exchange
import ExprLang.Proofs.Value.Entries

/-!
# ExprLang.Proofs.Eval.Assembly

Literals and `+`.

A literal evaluates its parts one after the other and puts their values together as `+` does: arrays
are joined (`Eval.findAll_append`), the entries of later items are put to those of earlier ones
(`Eval.findItems_append`), and the text of a template grows by the text of each part.  So a literal may
be written in two pieces with a `+` between them, and a template as a chain of them.
-/

namespace ExprLang

open Eval

namespace Node

/-- The sum of a node and the parts that are added to it one after the other, each by a `+` at a
place. -/
def sum (first : Node) (parts : List (Position × Node)) : Node :=
  parts.foldl (fun acc part => .arithmetic part.1 .add acc part.2) first

/-- A sum is a name only if it is nothing but the first node. -/
theorem names_sum (first : Node) (hvar : first.varName? = none) (hbare : first.bareName? = none)
    (parts : List (Position × Node)) :
    (first.sum parts).varName? = none ∧ (first.sum parts).bareName? = none := by
  induction parts generalizing first with
  | nil => exact ⟨hvar, hbare⟩
  | cons part parts ih => exact ih _ rfl rfl

end Node

namespace Eval

variable {σ : Type} (s : Surroundings σ)

/-! ## Parts in two pieces -/

theorem findAll_append (depth : Nat) (xs ys : List Node) :
    findAll s depth (xs ++ ys) = do
      let vs ← findAll s depth xs
      let ws ← findAll s depth ys
      return vs ++ ws := by
  induction xs with
  | nil => simp [findAll]
  | cons x xs ih => simp [findAll, ih]

/-- The entries that were there do not matter to how items are evaluated. -/
theorem findItems_eq (depth : Nat) {entries : Bag} (h : Entries.Sorted entries) (ys : List Node) :
    findItems s depth entries ys = do
      return entries.insertAll (← findItems s depth [] ys) := by
  -- The items before `ys` have put in some entries of their own, `entries'`.
  suffices ∀ entries' : Bag, Entries.Sorted entries' →
      findItems s depth (entries.insertAll entries') ys = do
        return entries.insertAll (← findItems s depth entries' ys) from this [] Entries.sorted_nil
  intro entries' h'
  induction ys generalizing entries' with
  | nil => rfl
  | cons y ys ih =>
    rw [findItems, findItems]
    split
    · rw [bind_assoc]
      refine bind_congr fun found => ?_
      cases found.value with
      | map more =>
        have hmore := ih _ (Entries.sorted_insertAll h' more)
        rw [Entries.insertAll_insertAll h h'] at hmore
        exact hmore
      | _ => exact ih entries' h'
    · rfl

theorem findItems_append (depth : Nat) {entries : Bag} (h : Entries.Sorted entries)
    (xs ys : List Node) : findItems s depth entries (xs ++ ys) = do
      let first ← findItems s depth entries xs
      let last ← findItems s depth [] ys
      return first.insertAll last := by
  induction xs generalizing entries with
  | nil => exact findItems_eq s depth h ys
  | cons x xs ih =>
    rw [List.cons_append, findItems, findItems]
    split
    · rw [bind_assoc]
      refine bind_congr fun found => ?_
      cases found.value with
      | map more => exact ih (Entries.sorted_insertAll h more)
      | _ => exact ih h
    · rfl

variable {s}

/-- What the items of an object come to is sorted. -/
theorem sorted_of_findItems {depth : Nat} {ns : List Node} {es : Bag} {r r' : Run σ}
    (h : (findItems s depth [] ns).runFrom r = (.ok es, r')) : Entries.Sorted es := by
  have hagain : (findItems s depth [] ns).runFrom r = (.ok (Entries.insertAll [] es), r') := by
    rw [findItems_eq s depth Entries.sorted_nil ns, runFrom_bind_of_ok h]
    rfl
  have hes : es = Entries.insertAll [] es := Except.ok.inj (congrArg Prod.fst (h.symm.trans hagain))
  exact hes ▸ Entries.sorted_insertAll Entries.sorted_nil es

/-! ## Literals -/

theorem agrees_array (p : Position) (ns : List Node) (depth : Nat) :
    (find s depth (.array p ns)).Agrees (do return .plain (.array (← findAll s 0 ns))) :=
  .visit_left ((agrees_findAll s _ 0 ns).map _) _ _ _

theorem agrees_object (p : Position) (ns : List Node) (depth : Nat) :
    (find s depth (.object p ns)).Agrees (do return .plain (.map (← findItems s 0 [] ns))) :=
  .visit_left ((agrees_findItems_forall₂ (forall₂_refl (fun n => ⟨.refl n, rfl, rfl⟩) ns) _ 0 []).map
    _) _ _ _

theorem agrees_template (p : Position) (ns : List Node) (depth : Nat) :
    (find s depth (.template p ns)).Agrees (do return .plain (.string (← findText s 0 "" ns))) :=
  .visit_left ((agrees_findText_forall₂ (forall₂_refl .refl ns) _ 0 "").map _) _ _ _

/-- A sum is the sum of what its operands come to, one after the other. -/
theorem agrees_add {a b : Node} {c d : Eval σ Found} (ha : (find s 0 a).Agrees c)
    (hb : (find s 0 b).Agrees d) (p : Position) (depth : Nat) :
    (find s depth (.arithmetic p .add a b)).Agrees (do
      let l := (← c).value
      let r := (← d).value
      return .plain (l.add r)) :=
  .visit_left (((agrees_find s _ 0 a).trans ha).bind fun _ =>
    ((agrees_find s _ 0 b).trans hb).map _) _ _ _

theorem agrees_array_append (p q q₁ q₂ : Position) (xs ys : List Node) (depth depth' : Nat) :
    (find s depth (.array p (xs ++ ys))).Agrees
      (find s depth' (.arithmetic q .add (.array q₁ xs) (.array q₂ ys))) := by
  have left := agrees_array (s := s) p (xs ++ ys) depth
  have right := agrees_add (s := s) (agrees_array q₁ xs 0) (agrees_array q₂ ys 0) q depth'
  simp only [bind_assoc, pure_bind] at right
  rw [findAll_append] at left
  simp only [bind_assoc, pure_bind] at left
  exact left.trans right.symm

theorem agrees_object_append (p q q₁ q₂ : Position) (xs ys : List Node) (depth depth' : Nat) :
    (find s depth (.object p (xs ++ ys))).Agrees
      (find s depth' (.arithmetic q .add (.object q₁ xs) (.object q₂ ys))) := by
  have left := agrees_object (s := s) p (xs ++ ys) depth
  have right := agrees_add (s := s) (agrees_object q₁ xs 0) (agrees_object q₂ ys 0) q depth'
  simp only [bind_assoc, pure_bind] at right
  rw [findItems_append _ _ Entries.sorted_nil] at left
  simp only [bind_assoc, pure_bind] at left
  exact left.trans right.symm

/-- A chain of sums that begins with a text goes on as a template does. -/
theorem agrees_sum {first : Node} {c : Eval σ String}
    (hfirst : (find s 0 first).Agrees (do return .plain (.string (← c))))
    (parts : List (Position × Node)) (depth : Nat) :
    (find s depth (first.sum parts)).Agrees (do
      let text ← c
      return .plain (.string (← findText s 0 text (parts.map Prod.snd)))) := by
  -- The text so far is that of `c`; the next sum makes it longer by the text of one part.
  induction parts generalizing first c with
  | nil => simpa [Node.sum, findText] using (agrees_find s depth 0 first).trans hfirst
  | cons part parts ih =>
    have hadd : ∀ (text : String) (v : Value),
        (Found.plain (.string text)).value.add v = .string (text ++ v.stringify) := fun _ _ => rfl
    have hsum := agrees_add hfirst (agrees_find s 0 0 part.2) part.1 0
    simp only [bind_assoc, pure_bind, hadd] at hsum
    have hnext := ih (c := do
      let text ← c
      return text ++ (← find s 0 part.2).value.stringify)
      (by simpa only [bind_assoc, pure_bind] using hsum)
    simpa only [findText, Node.sum, List.map_cons, List.foldl_cons, bind_assoc, pure_bind] using hnext

theorem agrees_template_sum (p q : Position) (parts : List (Position × Node)) (depth depth' : Nat) :
    (find s depth (.template p (parts.map Prod.snd))).Agrees
      (find s depth' ((Node.string q "").sum parts)) := by
  have hempty : (find s 0 (.string q "")).Agrees (do return .plain (.string (← pure ""))) :=
    .visit_left (.pure _) _ _ _
  have right := agrees_sum hempty parts depth'
  rw [pure_bind] at right
  exact (agrees_template p _ depth).trans right.symm

/-- The value of an object is the entries that its items come to. -/
theorem agrees_value_object (p : Position) (ns : List Node) :
    (find s 0 (.object p ns) >>= fun found => pure found.value).Agrees (do
      return .map (← findItems s 0 [] ns)) := by
  have h := (agrees_object (s := s) p ns 0).map Found.value
  rwa [bind_assoc] at h

end Eval

/-- Two ways of putting parts together.  The places of the literals and of the `+` are free. -/
inductive AssemblyLaw : Node → Node → Prop
  /-- `[xs, ys]` and `[xs] + [ys]` -/
  | array (p q q₁ q₂ : Position) (xs ys : List Node) :
    AssemblyLaw (.array p (xs ++ ys)) (.arithmetic q .add (.array q₁ xs) (.array q₂ ys))
  /-- `{xs, ys}` and `{xs} + {ys}` -/
  | object (p q q₁ q₂ : Position) (xs ys : List Node) :
    AssemblyLaw (.object p (xs ++ ys)) (.arithmetic q .add (.object q₁ xs) (.object q₂ ys))
  /-- A template of some parts, and the empty text with the parts added one after the other -/
  | template (p q : Position) (parts : List (Position × Node)) :
    AssemblyLaw (.template p (parts.map Prod.snd)) ((Node.string q "").sum parts)

theorem AssemblyLaw.interchangeable {m n : Node} (h : AssemblyLaw m n) : m.Interchangeable n := by
  cases h with
  | array => exact ⟨fun _ _ _ => agrees_array_append .., rfl, rfl⟩
  | object => exact ⟨fun _ _ _ => agrees_object_append .., rfl, rfl⟩
  | template p q parts =>
    obtain ⟨hvar, hbare⟩ := (Node.string q "").names_sum rfl rfl parts
    exact ⟨fun _ _ _ => agrees_template_sum .., hvar, hbare⟩

/-- The entries of an object are those of its first items with those of its last items put to them:
a later item with the same name wins. -/
theorem evaluate_object_append {σ : Type} {s : Surroundings σ} {p q q' : Position}
    {xs ys : List Node} {r r₁ r₂ : Run σ} {l l' : Bag}
    (hxs : (Node.object q xs).evaluate s r = (.ok (.map l), r₁))
    (hys : (Node.object q' ys).evaluate s r₁ = (.ok (.map l'), r₂)) :
    ∃ (es : Bag) (r' : Run σ), (Node.object p (xs ++ ys)).evaluate s r = (.ok (.map es), r') ∧ r₂.Alike r' ∧
      ∀ name, es.get? name = (l'.get? name).or (l.get? name) := by
  rw [Node.evaluate_eq] at hxs hys
  obtain ⟨r₁', hxs', hr₁⟩ := (agrees_value_object q xs).ok (.refl r) hxs
  obtain ⟨_, _, hfirst, hl⟩ := exists_of_runFrom_bind hxs'
  cases hl
  obtain ⟨r₂', hys', hr₂⟩ := (agrees_value_object q' ys).ok hr₁ hys
  obtain ⟨_, _, hlast, hl'⟩ := exists_of_runFrom_bind hys'
  cases hl'
  have hall : (findItems s 0 [] (xs ++ ys)).runFrom r = (.ok (l.insertAll l'), r₂') := by
    rw [findItems_append s 0 Entries.sorted_nil, runFrom_bind_of_ok hfirst, runFrom_bind_of_ok hlast]
    rfl
  have hvalue := runFrom_bind_of_ok hall fun es => (pure (.map es) : Eval σ Value)
  obtain ⟨r', hr', halike⟩ := (agrees_value_object p (xs ++ ys)).symm.ok (.refl r) hvalue
  exact ⟨_, r', (Node.evaluate_eq _ _ _).trans hr', hr₂.trans halike,
    (sorted_of_findItems hlast).get?_insertAll l⟩

/-- Whichever way parts are put together, at whatever place of a tree: the tree has the same value or
error, and leaves the same state and the same state of the host, which may be a record of all calls
made of it.  At the place of an entry of an object or of a target the two ways must look the same; no
expression stands there in a text.  Among the items of an object a later one with the same name
wins. -/
theorem outcome_assembly_law {σ : Type} (s : Surroundings σ) :
    (∀ {m n : Node}, AssemblyLaw m n → ∀ (tree : Node) (path : List Nat),
      (∀ role, tree.roleAt? .root path = some role → role.Hides m n) →
      ∀ (source : String) (state : Bag) (host : σ) (traced traced' : Bool),
        ((tree.replaceAt path m).outcome source s state host traced).Alike
          ((tree.replaceAt path n).outcome source s state host traced')) ∧
    ∀ (p q q' : Position) (xs ys : List Node) (r r₁ r₂ : Run σ) (l l' : Bag),
      (Node.object q xs).evaluate s r = (.ok (.map l), r₁) →
      (Node.object q' ys).evaluate s r₁ = (.ok (.map l'), r₂) →
      ∃ (es : Bag) (r' : Run σ), (Node.object p (xs ++ ys)).evaluate s r = (.ok (.map es), r') ∧
        r₂.Alike r' ∧ ∀ name, es.get? name = (l'.get? name).or (l.get? name) :=
  ⟨fun h _ _ hrole source state host traced traced' =>
      (h.interchangeable.replaceAt hrole).outcome source s state host traced traced',
    fun _ _ _ _ _ _ _ _ _ _ => evaluate_object_append⟩

/-- Two items with the same name, each with a call in its value, in the argument of a call. -/
theorem outcome_assembly_law_items :
    let note (n : Node) : Node := .call ⟨1, 5⟩ (.var .first "note") [n] false
    let item (v : Value) : Node := .item .first (.identifier .first "k")
      (.array .first [.literal .first v, note (.literal .first v)])
    let m : Node := .object .first [item .null, item (.boolean true)]
    let n : Node := .arithmetic ⟨1, 9⟩ .add (.object .first [item .null])
      (.object ⟨1, 11⟩ [item (.boolean true)])
    let tree : Node := note (.literal .first .null)
    let s : Surroundings (Unit × List HostCall) :=
      ⟨[], Registry.empty.define "note" (.host 0), Host.none.recorded⟩
    let outcome := (tree.replaceAt [1] m).outcome "" s [] ((), []) false
    AssemblyLaw m n ∧ (∀ role, tree.roleAt? .root [1] = some role → role.Hides m n) ∧
      outcome.Alike ((tree.replaceAt [1] n).outcome "" s [] ((), []) true) ∧
      ∃ (es : Bag) (r' : Run (Unit × List HostCall)),
        m.evaluate s ⟨[], ((), []), none⟩ = (.ok (.map es), r') ∧
          r'.host.2 = [⟨0, .undefined, [.null]⟩, ⟨0, .undefined, [.boolean true]⟩] ∧
          es.get? "k" = some (.array [.boolean true, .undefined]) := by
  intro note item m n tree s outcome
  have hlaw : AssemblyLaw m n := .object _ _ _ _ [item .null] [item (.boolean true)]
  have hrole : ∀ role, tree.roleAt? .root [1] = some role → role.Hides m n := by
    intro role h
    cases h
    trivial
  obtain ⟨halike, hwins⟩ := outcome_assembly_law s
  have hfirst : (Node.object .first [item .null]).evaluate s ⟨[], ((), []), none⟩ =
      (.ok (.map [("k", .array [.null, .undefined])]),
        ⟨[], ((), [⟨0, .undefined, [.null]⟩]), none⟩) := rfl
  have hlast : (Node.object ⟨1, 11⟩ [item (.boolean true)]).evaluate s
      ⟨[], ((), [⟨0, .undefined, [.null]⟩]), none⟩ =
      (.ok (.map [("k", .array [.boolean true, .undefined])]),
        ⟨[], ((), [⟨0, .undefined, [.null]⟩, ⟨0, .undefined, [.boolean true]⟩]), none⟩) := rfl
  obtain ⟨es, r', hes, hr', hget⟩ := hwins .first .first ⟨1, 11⟩ _ _ _ _ _ _ _ hfirst hlast
  exact ⟨hlaw, hrole, halike hlaw tree [1] hrole "" [] ((), []) false true, es, r', hes,
    congrArg Prod.snd hr'.host, hget "k"⟩

end ExprLang
