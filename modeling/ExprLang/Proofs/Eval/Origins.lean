import ExprLang.Proofs.Eval.Effects

/-!
# ExprLang.Proofs.Eval.Origins

Where in the text the effects of an evaluation come from.

A sound tree points at its text, and every effect comes from one of its nodes.  So a failure is placed
at the token to blame, and is never one of those that no text can cause (`Node.Each.blames`); what is
assigned is a plain name that an assignment of the text has as its target; and only an operator of
the text can leave captures.
-/

namespace ExprLang

/-- The text begins with the token that the failure blames: the name that is unknown, the sign of the
step or of the call, or the operator of the match.  No token is to blame for a tree that no text
has. -/
def Failure.Blames (f : Failure) (text : List Char) : Prop :=
  match f.cause with
  | .unknownVariable name | .unknownFunction name => name.toList <+: text
  | .noProperty .. | .noIndex _ => ['.'] <+: text ∨ ['?', '.'] <+: text ∨ ['['] <+: text
  | .notCallable _ | .function _ => ['('] <+: text ∨ ['?', '.'] <+: text
  | .pattern _ => ['=', '~'] <+: text ∨ ['!', '~'] <+: text
  | .target | .misplaced _ => False

/-- A failed match blames its operator. -/
theorem Failure.blames_pattern {op : RelationalOp} (hop : op.isMatching = true) {text : List Char}
    (h : op.symbol.toList <+: text) (e : RegExpError) (pos : Position) :
    (⟨.pattern e, pos⟩ : Failure).Blames text := by
  cases op with
  | isMatch => exact .inl h
  | noMatch => exact .inr h
  | _ => cases hop

/-- A step that cannot be taken blames its sign: a point, with or without a question mark, or a
bracket. -/
theorem Failure.blames_refusal {s : Step Node} {text : List Char} (h : s.sign <+: text)
    (type : String) : (⟨s.refusal type, s.position⟩ : Failure).Blames text := by
  obtain ⟨key, optional, pos⟩ := s
  have hsign : ['.'] <+: text ∨ ['?', '.'] <+: text ∨ ['['] <+: text := by
    cases key <;> cases optional <;> simp_all [Step.sign, Rule.sign]
  cases key <;> exact hsign

/-- A call blames the bracket, or the sign before it. -/
theorem Rule.call_sign_cases {optional : Bool} {text : List Char}
    (h : (Rule.call optional).sign <+: text) : ['('] <+: text ∨ ['?', '.'] <+: text := by
  cases optional with
  | false => exact .inl h
  | true => exact .inr h

namespace Node.Each

variable {source : List Char} {tree : Node}

/-- The failures of a sound tree are placed at the token to blame. -/
theorem blames {f : Failure} (h : tree.Each (Sound source) .root) (hf : tree.CanFail f) :
    f.position.In source ∧ f.Blames (textAt source f.position) := by
  obtain ⟨n, hwithin, hraises⟩ := hf
  obtain ⟨role, hn⟩ := h.of_within hwithin
  obtain ⟨hplace, hparts⟩ := hn.here.placed
  obtain ⟨-, hlawful⟩ := hn.here.lawful
  cases n with
  | assignment pos target value =>
    obtain ⟨-, pos', name, rfl, -⟩ := hlawful
    exact absurd rfl hraises.1
  | relational pos op a b =>
    obtain ⟨hop, e, rfl⟩ := hraises
    exact ⟨hplace.1, Failure.blames_pattern hop hplace.2 e pos⟩
  | select pos base steps =>
    obtain ⟨s, hs, type, rfl⟩ := hraises
    obtain ⟨⟨hpos, hsign⟩, -⟩ := hparts s hs
    exact ⟨hpos, Failure.blames_refusal hsign type⟩
  | call pos callee args optional =>
    rcases hraises with ⟨type, rfl⟩ | ⟨e, rfl⟩
    · exact ⟨hplace.1, Rule.call_sign_cases hplace.2⟩
    · exact ⟨hplace.1, Rule.call_sign_cases hplace.2⟩
  | var pos name =>
    rcases hraises with rfl | rfl
    · exact hplace
    · exact hplace
  | object pos items =>
    obtain ⟨item, hitem, hkind, rfl⟩ := hraises
    have hentry := hn.part (p := (.entry, item)) (List.mem_map_of_mem hitem)
    exact absurd (hentry.here.lawful.1.mp rfl) hkind
  | _ => cases hraises

/-- What is assigned is the target of an assignment in the text. -/
theorem assigned {name : String} {v : Value} (h : tree.Each (Sound source) .root)
    (hw : tree.CanWrite (.assigned name v)) : ∃ pos p value,
      (Node.assignment pos (.identifier p name) value).Within tree ∧ IsPlain name.toList ∧
        p.In source ∧ BeginsAssignment name.toList (textAt source p) := by
  obtain ⟨n, hwithin, hmakes⟩ := hw
  obtain ⟨role, hn⟩ := h.of_within hwithin
  cases n with
  | assignment pos target value =>
    obtain ⟨-, -, p, name', rfl, hplain⟩ := hn.here.lawful
    obtain ⟨-, hbegins⟩ := hn.here.placed
    have htarget := hn.part (p := (.target, .identifier p name')) List.mem_cons_self
    obtain ⟨_, _, heq, hname⟩ := hmakes
    cases heq
    obtain rfl := hname p name' rfl
    exact ⟨pos, p, value, hwithin, hplain, htarget.here.placed.1.1, hbegins⟩
  | relational pos op a b =>
    obtain ⟨-, groups, heq⟩ := hmakes
    cases heq
  | _ => cases hmakes

/-- What is captured is captured by an operator in the text. -/
theorem matched {groups : Option (List (Option String))} (h : tree.Each (Sound source) .root)
    (hw : tree.CanWrite (.matched groups)) : ∃ pos op left right, op.isMatching = true ∧
      (Node.relational pos op left right).Within tree ∧ pos.Stands source op.symbol.toList := by
  obtain ⟨n, hwithin, hmakes⟩ := hw
  obtain ⟨role, hn⟩ := h.of_within hwithin
  cases n with
  | assignment pos target value =>
    obtain ⟨name, v, heq, -⟩ := hmakes
    cases heq
  | relational pos op a b => exact ⟨pos, op, a, b, hmakes.1, hwithin, hn.here.placed.1⟩
  | _ => cases hmakes

end Node.Each

end ExprLang
