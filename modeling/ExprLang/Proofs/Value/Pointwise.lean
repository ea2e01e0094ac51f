import ExprLang.Proofs.Engine.Expressions
import ExprLang.Proofs.Value.Splitting

/-!
# ExprLang.Proofs.Value.Pointwise

Sums, differences and quotients of maps, name by name.

What `+`, `-` and `/` make of a map is told for each name by itself: by the entry that the map has
under it, and by whether the other operand spells the name or has an entry under it
(`map_operators_pointwise`).  Values become names by their texts everywhere, in the operators as in
objects and in steps, so an entry is found under the value that it was put under.
-/

namespace ExprLang

namespace Value

/-- Whether an operand spells a name: an array by the text of an item, other values by their own. -/
def spells : Value → String → Bool
  | array items, k => items.any fun v => v.stringify == k
  | r, k => r.stringify == k

theorem takesName_map (r : Bag) (k : String) :
    (map r).takesName k = (r.get? k).any truthy := by
  rw [takesName, entryTruthy]
  cases r.get? k <;> rfl

/-- The sum of a map and what is neither a text nor a map. -/
theorem add_map (m : Bag) {r : Value} (h : r.valueClass = .array ∨ r.valueClass = .scalar) :
    ∃ sum : Bag, (map m).add r = map sum ∧
      ∀ k, sum.get? k = if r.spells k then some (.boolean true) else m.get? k := by
  cases r with
  | array items => exact ⟨_, rfl, fun k => Entries.get?_insertAll_map stringify _ items m k⟩
  | string s => rcases h with h | h <;> cases h
  | map es => rcases h with h | h <;> cases h
  | _ =>
    refine ⟨_, rfl, fun k => (Entries.get?_insert m k _ _).trans (if_congr ?_ rfl rfl)⟩
    rw [spells, beq_iff_eq, eq_comm]
    nofun

theorem takesName_eq_spells {r : Value} (h : r.valueClass = .array ∨ r.valueClass = .scalar)
    (k : String) : r.takesName k = r.spells k := by
  cases r with
  | array items => rfl
  | string s => rcases h with h | h <;> cases h
  | map es => rcases h with h | h <;> cases h
  | _ => exact Bool.beq_comm

/-- What is left of a map and what it has in common with an operand that is no text. -/
theorem sub_div_map (m : Bag) {r : Value} (h : r.valueClass ≠ .string) :
    ∃ rest common : Bag, (map m).sub r = map rest ∧ (map m).div r = map common ∧
      ∀ k, rest.get? k = (if r.takesName k then none else m.get? k) ∧
        common.get? k = if r.takesName k then m.get? k else none := by
  refine ⟨_, _, sub_eq_part rfl h, div_eq_part rfl h, fun k => ⟨?_, Entries.get?_filter _ m k⟩⟩
  rw [Entries.get?_filter (fun n => !r.takesName n)]
  cases r.takesName k <;> rfl

end Value

/-! ## Keys -/

/-- The form of `{[key]: v}[key]`. -/
def Node.readsItem : Node → Bool
  | .select _ (.object _ [.item _ (.var _ put) (.var _ value)]) [⟨.var _ got, false, _⟩] =>
    put == "key" && value == "v" && got == "key"
  | _ => false

theorem Node.has_of_readsItem {σ : Type} {s : Surroundings σ} {state : Bag} {tree : Node}
    {key v : Value} (h : tree.readsItem = true)
    (hkey : Scope.lookup ⟨s.vars, state⟩ "key" = some key)
    (hv : Scope.lookup ⟨s.vars, state⟩ "v" = some v) : tree.Has s state v := by
  have hget : ((Value.map [(key.stringify, v)]).property? key.stringify).getD .undefined = v := by
    rw [Value.property?, Entries.get?, if_pos rfl]
    rfl
  unfold readsItem at h
  split at h
  · simp only [Bool.and_eq_true, beq_iff_eq] at h
    obtain ⟨⟨rfl, rfl⟩, rfl⟩ := h
    exact has_select _ _ (has_object _ _ (has_var _ hkey) (has_var _ hv)) rfl (has_var _ hkey) hget
  · cases h

open Value

/-- What `+`, `-` and `/` make of a map, name by name.  An array and what is neither a text nor a
container add `true` under the names they spell and take those names; a map adds its own entries and
takes the names of those that count as true.  An entry of an object is found under the value that it
was put under. -/
theorem map_operators_pointwise :
    (∀ (m : Bag) (r : Value), r.valueClass = .array ∨ r.valueClass = .scalar →
      ∃ sum rest common : Bag,
        (map m).add r = map sum ∧ (map m).sub r = map rest ∧ (map m).div r = map common ∧
        ∀ k, sum.get? k = (if r.spells k then some (.boolean true) else m.get? k) ∧
          rest.get? k = (if r.spells k then none else m.get? k) ∧
          common.get? k = if r.spells k then m.get? k else none) ∧
    (∀ m r : Bag, Entries.Sorted r → ∃ sum rest common : Bag,
      (map m).add (map r) = map sum ∧ (map m).sub (map r) = map rest ∧
      (map m).div (map r) = map common ∧
      ∀ k, sum.get? k = (r.get? k).or (m.get? k) ∧
        rest.get? k = (if (r.get? k).any truthy then none else m.get? k) ∧
        common.get? k = if (r.get? k).any truthy then m.get? k else none) ∧
    ∀ {σ : Type} (o : Options) (calls : Host σ) (host host' : σ) (history : List Call)
      (functions : Registry) (vars state : Bag) (key v : Value), 2 ≤ o.maxDepth →
      Scope.lookup ⟨vars, state⟩ "key" = some key → Scope.lookup ⟨vars, state⟩ "v" = some v →
      ((Engine.afterCalls o calls host history functions).evaluate "\x7b[key]: v\x7d[key]" calls
        vars state host').1.result = .ok v := by
  refine ⟨fun m r hr => ?_, fun m r hr => ?_, ?_⟩
  · have hstring : r.valueClass ≠ .string := by
      rcases hr with hr | hr <;> rw [hr] <;> nofun
    obtain ⟨sum, hsum, hadd⟩ := add_map m hr
    obtain ⟨rest, common, hrest, hcommon, hparts⟩ := sub_div_map m hstring
    refine ⟨sum, rest, common, hsum, hrest, hcommon, fun k => ⟨hadd k, ?_⟩⟩
    rw [← takesName_eq_spells hr k]
    exact hparts k
  · obtain ⟨rest, common, hrest, hcommon, hparts⟩ :=
      sub_div_map m (r := map r) nofun
    refine ⟨_, rest, common, rfl, hrest, hcommon, fun k => ⟨hr.get?_insertAll m k, ?_⟩⟩
    rw [← takesName_map]
    exact hparts k
  · intro σ o calls host host' history functions vars state key v hdepth hkey hv
    have hform : (parseWithin 2 "\x7b[key]: v\x7d[key]").toOption.any Node.readsItem = true := by
      decide +kernel
    obtain ⟨tree, hparse, htree⟩ := exists_parseWithin_of_any hform hdepth
    exact Engine.result_evaluate hparse (Node.has_of_readsItem htree hkey hv) host host' history

/-- Items that spell one name, a map with an entry that does not count as true, and an array as a
key. -/
theorem map_operators_pointwise_spellings :
    let m : Bag := [("", .number 1), ("1", .number 2)]
    let r := Value.array [.number 1, .string "1", .null]
    let e : Bag := [("", .number 0), ("1", .string "x")]
    r.valueClass = .array ∧ Entries.Sorted e ∧
      (∃ sum rest common : Bag,
        (map m).add r = map sum ∧ (map m).sub r = map rest ∧ (map m).div r = map common ∧
        sum.get? "1" = some (.boolean true) ∧ rest.get? "" = none ∧
        common.get? "" = some (.number 1)) ∧
      (∃ sum rest common : Bag,
        (map m).add (map e) = map sum ∧ (map m).sub (map e) = map rest ∧
        (map m).div (map e) = map common ∧
        sum.get? "" = some (.number 0) ∧ rest.get? "" = some (.number 1) ∧
        common.get? "1" = some (.number 2)) ∧
      ((Engine.afterCalls .standard .none () [] .standard).evaluate "\x7b[key]: v\x7d[key]" .none
        [("key", r), ("v", map m)] [] ()).1.result = .ok (map m) := by
  intro m r e
  have hone : r.spells "1" = true := by decide
  have hempty : r.spells "" = true := by decide
  have hzero : ((e.get? "").any truthy) = false := by decide
  have htrue : ((e.get? "1").any truthy) = true := by decide
  have hsorted : Entries.Sorted e := List.pairwise_pair.mpr (by decide)
  refine ⟨rfl, hsorted, ?_, ?_, ?_⟩
  · obtain ⟨sum, rest, common, hsum, hrest, hcommon, hget⟩ :=
      map_operators_pointwise.1 m r (.inl rfl)
    refine ⟨sum, rest, common, hsum, hrest, hcommon, ?_, ?_, ?_⟩
    · rw [(hget "1").1, if_pos hone]
    · rw [(hget "").2.1, if_pos hempty]
    · rw [(hget "").2.2, if_pos hempty]
      rfl
  · obtain ⟨sum, rest, common, hsum, hrest, hcommon, hget⟩ :=
      map_operators_pointwise.2.1 m e hsorted
    refine ⟨sum, rest, common, hsum, hrest, hcommon, (hget "").1, ?_, ?_⟩
    · rw [(hget "").2.1, hzero]
      rfl
    · rw [(hget "1").2.2, if_pos htrue]
      rfl
  · exact map_operators_pointwise.2.2 .standard .none () () [] .standard
      [("key", r), ("v", map m)] [] r (map m) (by decide) rfl rfl

end ExprLang
