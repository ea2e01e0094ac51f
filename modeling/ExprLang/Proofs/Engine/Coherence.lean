import ExprLang.Engine.Basic
import ExprLang.Proofs.Value.Entries

/-!
# ExprLang.Proofs.Engine.Coherence

The cache of an engine cannot be told from its results.

A cache is coherent when each value in it is one that its text compiles to (`Cache.Holds`, an
invariant of every operation of the cache, at any limit and whatever the clock says).  An engine
whose cache is coherent compiles a text to the tree that the text has, from the cache or not, and
an evaluation reads nothing else of the engine but its functions.  So after any history of calls a
text evaluates to what it evaluates to in a fresh engine that keeps nothing
(`Session.evaluate_eq_fresh`).
-/

namespace ExprLang

/-! ## What a cache holds -/

namespace Cache

variable {α ε σ : Type} {p : String → α → Prop} {c : Cache α}

/-- Every value in the cache has a property together with its text. -/
def Holds (p : String → α → Prop) (c : Cache α) : Prop := ∀ e ∈ c.slots, p e.1 e.2.value

theorem Holds.empty (limit : Nat) : (Cache.empty limit : Cache α).Holds p := by
  intro e he
  contradiction

theorem Holds.of_get? (h : c.Holds p) {key : String} {slot : Slot α}
    (hs : c.slots.get? key = some slot) : p key slot.value :=
  h _ (Entries.mem_of_get? hs)

/-- Giving up values only takes away. -/
theorem evict_subset (limit : Nat) (slots : Entries (Slot α)) (recency : Recency) :
    ∀ e ∈ (evict limit slots recency).1, e ∈ slots := by
  induction recency generalizing slots with
  | nil => exact fun e he => he
  | cons r recency ih =>
    obtain ⟨t, k⟩ := r
    rw [evict]
    split
    · intro e he
      exact (Entries.erase_sublist k slots).subset (ih _ e he)
    · exact fun e he => he

theorem Holds.shrink (h : c.Holds p) (limit : Nat) : (c.shrink limit).Holds p :=
  fun e he => h e (evict_subset limit c.slots c.recency e he)

theorem Holds.setLimit (h : c.Holds p) (limit : Nat) : (c.setLimit limit).Holds p :=
  Holds.shrink (c := { c with limit := limit }) h limit

theorem Holds.clear (c : Cache α) : c.clear.Holds p := by
  intro e he
  contradiction

theorem Holds.get (h : c.Holds p) (key : String) : (c.get key).2.Holds p := by
  rw [Cache.get]
  split
  · rename_i slot hs
    intro e he
    rcases Entries.mem_insert he with rfl | he
    · exact (h.of_get? hs : p key slot.value)
    · exact h e he
  · exact h

/-- What is found is held. -/
theorem Holds.get_of_some (h : c.Holds p) {key : String} {v : α} {c' : Cache α}
    (hg : c.get key = (some v, c')) : p key v := by
  rw [Cache.get] at hg
  split at hg
  · rename_i slot hs
    obtain rfl := Option.some.inj (Prod.mk.inj hg).1
    exact h.of_get? hs
  · have := (Prod.mk.inj hg).1
    contradiction

theorem Holds.insert (h : c.Holds p) {key : String} {v : α} (hv : p key v) :
    (c.insert key v).Holds p := by
  rw [Cache.insert]
  split
  · exact h
  · refine Holds.shrink (fun e he => ?_) c.limit
    rcases Entries.mem_insert he with rfl | he
    · exact hv
    · exact h e he

/-- If only values with the property are made, only such values are held and given. -/
theorem Holds.getOrCompile (h : c.Holds p) {key : String} {compile : σ → Except ε α × σ} {s : σ}
    (hmake : ∀ v s', compile s = (.ok v, s') → p key v) :
    (c.getOrCompile key compile s).2.1.Holds p ∧
      ∀ v, (c.getOrCompile key compile s).1 = .ok v → p key v := by
  rw [Cache.getOrCompile]
  have hkept := h.get key
  generalize hg : c.get key = g at *
  obtain ⟨found, c'⟩ := g
  cases found with
  | some v =>
    refine ⟨hkept, fun w hw => ?_⟩
    obtain rfl := Except.ok.inj hw
    exact h.get_of_some hg
  | none =>
    dsimp only
    generalize hc : compile s = r at *
    obtain ⟨r, s'⟩ := r
    cases r with
    | error e => exact ⟨hkept, fun w hw => by contradiction⟩
    | ok v =>
      have hv : p key v := hmake v s' rfl
      refine ⟨hkept.insert hv, fun w hw => ?_⟩
      obtain rfl := Except.ok.inj hw
      exact hv

end Cache

/-! ## Compiling -/

/-- A compiled expression is the tree of a text. -/
def Compiled.Of (maxDepth : Nat) (text : String) (c : Compiled) : Prop :=
  c.source = text ∧ parseWithin maxDepth text = .ok c.tree

theorem Compiled.of_ofText {maxDepth serial serial' : Nat} {text : String} {c : Compiled}
    (h : Compiled.ofText maxDepth text serial = (.ok c, serial')) : c.Of maxDepth text := by
  rw [ofText] at h
  split at h
  · rename_i tree ht
    obtain rfl := Except.ok.inj (Prod.mk.inj h).1
    exact ⟨rfl, ht⟩
  · have := (Prod.mk.inj h).1
    contradiction

namespace Engine

variable {σ : Type} {e : Engine}

/-- Every compiled expression in the cache is the tree of its text. -/
def Coherent (e : Engine) : Prop := e.cache.Holds (Compiled.Of e.options.maxDepth)

theorem coherent_ofOptions (o : Options) : (ofOptions o).Coherent := Cache.Holds.empty _

theorem options_compile (e : Engine) (text : String) : (e.compile text).2.options = e.options := rfl

theorem functions_compile (e : Engine) (text : String) :
    (e.compile text).2.functions = e.functions := rfl

theorem Coherent.compile (h : e.Coherent) (text : String) : (e.compile text).2.Coherent :=
  (Cache.Holds.getOrCompile h fun _ _ hv => Compiled.of_ofText hv).1

/-- What a text compiles to is its tree, from the cache or not. -/
theorem Coherent.of_compile (h : e.Coherent) {text : String} {c : Compiled}
    (hc : (e.compile text).1 = .ok c) : c.Of e.options.maxDepth text :=
  (Cache.Holds.getOrCompile h fun _ _ hv => Compiled.of_ofText hv).2 c hc

/-- A text that has a tree compiles. -/
theorem compile_of_ok {text : String} {tree : Node}
    (ht : parseWithin e.options.maxDepth text = .ok tree) : ∃ c, (e.compile text).1 = .ok c := by
  rw [Engine.compile, Cache.getOrCompile]
  generalize e.cache.get text = g
  obtain ⟨found, cache⟩ := g
  cases found with
  | some v => exact ⟨v, rfl⟩
  | none =>
    rw [Compiled.ofText, ht]
    exact ⟨_, rfl⟩

/-- A text that has none does not, and the error is that of the text. -/
theorem Coherent.compile_of_error (h : e.Coherent) {text : String} {err : ParseError}
    (ht : parseWithin e.options.maxDepth text = .error err) :
    (e.compile text).1 = .error (.ofParse text err) := by
  rw [Engine.compile, Cache.getOrCompile]
  generalize hg : e.cache.get text = g
  obtain ⟨found, cache⟩ := g
  cases found with
  | some v =>
    have hv : v.Of e.options.maxDepth text := Cache.Holds.get_of_some h hg
    have := ht.symm.trans hv.2
    contradiction
  | none => rw [Compiled.ofText, ht]

/-! ## Evaluating -/

/-- What an engine with these functions, this nesting limit and no cache at all gives for a text. -/
def outcomeOf (functions : Registry) (maxDepth : Nat) (text : String) (calls : Host σ)
    (vars state : Bag) (host : σ) : Outcome σ :=
  match parseWithin maxDepth text with
  | .ok tree => tree.outcome text ⟨vars, functions, calls⟩ state host false
  | .error err => ⟨.error (.ofParse text err), state, host, #[]⟩

/-- The outcome of an evaluation depends on the functions, the nesting limit and the text alone. -/
theorem Coherent.evaluate_eq (h : e.Coherent) (text : String) (calls : Host σ) (vars state : Bag)
    (host : σ) : (e.evaluate text calls vars state host).1 =
      outcomeOf e.functions e.options.maxDepth text calls vars state host := by
  rw [evaluate, outcomeOf]
  cases ht : parseWithin e.options.maxDepth text with
  | error err =>
    have hc := h.compile_of_error ht
    generalize e.compile text = r at *
    obtain ⟨r, e'⟩ := r
    dsimp only at hc
    rw [hc]
  | ok tree =>
    obtain ⟨c, hc⟩ := compile_of_ok ht
    have hof := h.of_compile hc
    have hfunctions := e.functions_compile text
    generalize e.compile text = r at *
    obtain ⟨r, e'⟩ := r
    dsimp only at hc hfunctions
    rw [hc]
    dsimp only
    have htree : tree = c.tree := Except.ok.inj (ht.symm.trans hof.2)
    rw [execute, hof.1, hfunctions, htree]

theorem Coherent.setCacheLimit (h : e.Coherent) (limit : Nat) : (e.setCacheLimit limit).Coherent :=
  Cache.Holds.setLimit h limit

theorem coherent_clearCache (e : Engine) : e.clearCache.Coherent := Cache.Holds.clear _

theorem evaluate_snd (e : Engine) (text : String) (calls : Host σ) (vars state : Bag) (host : σ) :
    (e.evaluate text calls vars state host).2 = (e.compile text).2 := by
  rw [evaluate]
  generalize e.compile text = r
  obtain ⟨r, e'⟩ := r
  cases r <;> rfl

end Engine

/-! ## Histories -/

/-- What can be asked of an engine. -/
inductive Call
  | compile (text : String)
  | evaluate (text : String) (vars state : Bag)
  /-- Evaluates what an earlier `compile` gave, by its number, traced or not. -/
  | execute (kept : Nat) (vars state : Bag) (traced : Bool)
  | define (name : String) (index : Nat)
  | setCacheLimit (limit : Nat)
  | clearCache

/-- An engine in use, with what its host keeps and every compiled expression that was ever given,
still in the cache or not. -/
structure Session (σ : Type) where
  engine : Engine
  host : σ
  kept : List Compiled

namespace Session

variable {σ : Type}

def start (o : Options) (host : σ) : Session σ := ⟨.ofOptions o, host, []⟩

/-- Carries out a call. -/
def call (calls : Host σ) (s : Session σ) : Call → Session σ
  | .compile text =>
    match s.engine.compile text with
    | (.ok c, engine) => { s with engine := engine, kept := s.kept ++ [c] }
    | (.error _, engine) => { s with engine := engine }
  | .evaluate text vars state =>
    let (outcome, engine) := s.engine.evaluate text calls vars state s.host
    { s with engine := engine, host := outcome.host }
  | .execute i vars state traced =>
    match s.kept[i]? with
    | some c => { s with host := (s.engine.execute c calls vars state s.host traced).host }
    | none => s
  | .define name index => { s with engine := s.engine.define name index }
  | .setCacheLimit limit => { s with engine := s.engine.setCacheLimit limit }
  | .clearCache => { s with engine := s.engine.clearCache }

/-- Carries out calls one after the other. -/
def play (calls : Host σ) (s : Session σ) (history : List Call) : Session σ :=
  history.foldl (call calls) s

/-- The nesting limit is the one given at the start, the cache is coherent, and what was given once
is the tree of its text. -/
structure Sound (maxDepth : Nat) (s : Session σ) : Prop where
  maxDepth_eq : s.engine.options.maxDepth = maxDepth
  coherent : s.engine.Coherent
  kept : ∀ c ∈ s.kept, c.Of maxDepth c.source

theorem sound_start (o : Options) (host : σ) : (start o host).Sound o.maxDepth :=
  ⟨rfl, Engine.coherent_ofOptions o, fun c hc => by contradiction⟩

/-- Every call keeps a session sound. -/
theorem Sound.call {maxDepth : Nat} {s : Session σ} (h : s.Sound maxDepth) (calls : Host σ)
    (c : Call) : (s.call calls c).Sound maxDepth := by
  cases c with
  | compile text =>
    have hcompile := h.coherent.compile text
    have hof : ∀ c, (s.engine.compile text).1 = .ok c → c.Of s.engine.options.maxDepth text :=
      fun c => h.coherent.of_compile
    have hoptions := s.engine.options_compile text
    rw [h.maxDepth_eq] at hof
    rw [Session.call]
    generalize s.engine.compile text = r at *
    obtain ⟨r, engine⟩ := r
    dsimp only at hcompile hof hoptions
    have hmax : engine.options.maxDepth = maxDepth := hoptions ▸ h.maxDepth_eq
    cases r with
    | error err => exact ⟨hmax, hcompile, h.kept⟩
    | ok new =>
      refine ⟨hmax, hcompile, fun c hc => ?_⟩
      rcases List.mem_append.mp hc with hc | hc
      · exact h.kept c hc
      · obtain rfl := List.mem_singleton.mp hc
        have hnew := hof c rfl
        rwa [← hnew.1] at hnew
  | evaluate text vars state =>
    refine ⟨?_, ?_, h.kept⟩
    · change (s.engine.evaluate text calls vars state s.host).2.options.maxDepth = maxDepth
      rw [Engine.evaluate_snd]
      exact h.maxDepth_eq
    · change (s.engine.evaluate text calls vars state s.host).2.Coherent
      rw [Engine.evaluate_snd]
      exact h.coherent.compile text
  | execute i vars state traced =>
    rw [Session.call]
    cases s.kept[i]? with
    | none => exact h
    | some c => exact ⟨h.maxDepth_eq, h.coherent, h.kept⟩
  | define name index => exact ⟨h.maxDepth_eq, h.coherent, h.kept⟩
  | setCacheLimit limit => exact ⟨h.maxDepth_eq, h.coherent.setCacheLimit limit, h.kept⟩
  | clearCache => exact ⟨h.maxDepth_eq, s.engine.coherent_clearCache, h.kept⟩

theorem Sound.play {maxDepth : Nat} {s : Session σ} (h : s.Sound maxDepth) (calls : Host σ)
    (history : List Call) : (s.play calls history).Sound maxDepth := by
  induction history generalizing s with
  | nil => exact h
  | cons c history ih => exact ih (h.call calls c)

/-- After any calls, in any order and with any limits of the cache, a text evaluates to what it
evaluates to in a fresh engine with the same functions and nesting limit that keeps nothing.  What
is in the cache under a text is the tree of that text, a text without a tree is not in it, and a
compiled expression that was kept evaluates as one compiled now. -/
theorem evaluate_eq_fresh (o : Options) (calls : Host σ) (host : σ) (history : List Call) :
    let s := (start o host).play calls history
    let fresh : Engine := { Engine.ofOptions ⟨0, o.maxDepth⟩ with functions := s.engine.functions }
    (∀ text vars state host, (s.engine.evaluate text calls vars state host).1 =
        (fresh.evaluate text calls vars state host).1) ∧
      (∀ text slot, s.engine.cache.slots.get? text = some slot →
        slot.value.source = text ∧ parseWithin o.maxDepth text = .ok slot.value.tree) ∧
      (∀ text err, parseWithin o.maxDepth text = .error err →
        s.engine.cache.contains text = false) ∧
      ∀ c ∈ s.kept, ∃ now e, s.engine.compile c.source = (.ok now, e) ∧
        ∀ vars state host traced, s.engine.execute c calls vars state host traced =
          e.execute now calls vars state host traced := by
  intro s fresh
  have hs : s.Sound o.maxDepth := (sound_start o host).play calls history
  have hheld : ∀ text slot, s.engine.cache.slots.get? text = some slot →
      slot.value.Of o.maxDepth text := by
    intro text slot hslot
    rw [← hs.maxDepth_eq]
    exact hs.coherent.of_get? hslot
  refine ⟨?_, hheld, ?_, ?_⟩
  · intro text vars state host
    have hfresh : fresh.Coherent := Cache.Holds.empty _
    rw [hs.coherent.evaluate_eq, hfresh.evaluate_eq, hs.maxDepth_eq]
    rfl
  · intro text err herr
    rw [Cache.contains]
    cases hslot : s.engine.cache.slots.get? text with
    | none => rfl
    | some slot =>
      rw [(hheld text slot hslot).2] at herr
      contradiction
  · intro c hc
    have hof := hs.kept c hc
    obtain ⟨now, hnow⟩ :=
      Engine.compile_of_ok (e := s.engine) (by rw [hs.maxDepth_eq]; exact hof.2)
    have hofNow := hs.coherent.of_compile hnow
    rw [hs.maxDepth_eq] at hofNow
    have htree : c.tree = now.tree := Except.ok.inj (hof.2.symm.trans hofNow.2)
    refine ⟨now, (s.engine.compile c.source).2, Prod.ext hnow rfl, ?_⟩
    intro vars state host traced
    rw [Engine.execute, Engine.execute, Engine.functions_compile, htree, hofNow.1]

end Session

end ExprLang
