import QueryBinding.Value

/-!
# Quoted texts

A text constant is written as a literal in which each quote stands twice.  A reader of
literals passes over what is written so, whatever follows it: nothing in a constant closes
its literal early.  Up to a text that does not go on with a quote it reads exactly what was
written, so different constants have different texts.
-/

namespace QueryBinding

namespace Text

variable {input text rest tail : List Char} {s : String}

/-! ## Behind the opening quote -/

theorem readLiteralBody_quote_quote (rest : List Char) :
    readLiteralBody ('\'' :: '\'' :: rest) =
      (readLiteralBody rest).map fun (text, tail) => ('\'' :: text, tail) := by
  rw [readLiteralBody]

theorem readLiteralBody_close (h : rest.head? ≠ some '\'') :
    readLiteralBody ('\'' :: rest) = some ([], rest) := by
  cases rest with
  | nil => rfl
  | cons c rest =>
      have hc : c ≠ '\'' := by simpa using h
      rw [readLiteralBody]
      · rw [if_pos rfl]
      · simp [hc]

theorem readLiteralBody_cons {c : Char} (h : c ≠ '\'') (rest : List Char) :
    readLiteralBody (c :: rest) =
      (readLiteralBody rest).map fun (text, tail) => (c :: text, tail) := by
  rw [readLiteralBody]
  · rw [if_neg h]
  · simp [h]

theorem readLiteralBody_doubleQuotes (text input : List Char) :
    readLiteralBody (doubleQuotes text ++ input) =
      (readLiteralBody input).map fun (more, tail) => (text ++ more, tail) := by
  induction text with
  | nil => exact Option.map_id'.symm
  | cons c text ih =>
      by_cases hc : c = '\''
      · subst hc
        have hdoubled : doubleQuotes ('\'' :: text) = '\'' :: '\'' :: doubleQuotes text :=
          if_pos rfl
        rw [hdoubled, List.cons_append, List.cons_append, readLiteralBody_quote_quote, ih,
          Option.map_map]
        rfl
      · have hkept : doubleQuotes (c :: text) = c :: doubleQuotes text := if_neg hc
        rw [hkept, List.cons_append, readLiteralBody_cons hc, ih, Option.map_map]
        rfl

theorem eq_of_readLiteralBody (h : readLiteralBody input = some (text, rest)) :
    input = doubleQuotes text ++ '\'' :: rest ∧ rest.head? ≠ some '\'' := by
  fun_induction readLiteralBody input generalizing text with
  | case1 => cases h
  | case2 input ih =>
      obtain ⟨⟨inner, tail⟩, hinner, heq⟩ := Option.map_eq_some_iff.mp h
      cases heq
      obtain ⟨rfl, hrest⟩ := ih hinner
      exact ⟨rfl, hrest⟩
  | case3 input hlone =>
      cases h
      have hrest : rest.head? ≠ some '\'' := by
        intro hhead
        obtain ⟨tail, rfl⟩ := List.head?_eq_some_iff.mp hhead
        exact hlone tail rfl rfl
      exact ⟨rfl, hrest⟩
  | case4 c input hlone hc ih =>
      obtain ⟨⟨inner, tail⟩, hinner, heq⟩ := Option.map_eq_some_iff.mp h
      cases heq
      obtain ⟨rfl, hrest⟩ := ih hinner
      exact ⟨by rw [doubleQuotes, if_neg hc, List.cons_append], hrest⟩

/-! ## Literals -/

/-- A literal followed by any text is read on from its closing quote. -/
theorem readLiteral_quote_append (s : String) (rest : List Char) :
    readLiteral ((quote s).toList ++ rest) =
      (readLiteralBody ('\'' :: rest)).map fun (more, tail) => (s.toList ++ more, tail) := by
  have hquote : (quote s).toList ++ rest = '\'' :: (doubleQuotes s.toList ++ '\'' :: rest) := by
    rw [quote, String.toList_ofList]
    simp
  rw [hquote, readLiteral, if_pos rfl, readLiteralBody_doubleQuotes]

theorem readLiteral_quote (s : String) (h : rest.head? ≠ some '\'') :
    readLiteral ((quote s).toList ++ rest) = some (s.toList, rest) := by
  rw [readLiteral_quote_append, readLiteralBody_close h]
  simp

theorem eq_of_readLiteral (h : readLiteral input = some (s.toList, rest)) :
    input = (quote s).toList ++ rest ∧ rest.head? ≠ some '\'' := by
  cases input with
  | nil => cases h
  | cons c input =>
      rw [readLiteral] at h
      split at h
      · next hc =>
          obtain ⟨rfl, hrest⟩ := eq_of_readLiteralBody h
          refine ⟨?_, hrest⟩
          rw [hc, quote, String.toList_ofList]
          simp
      · cases h

theorem prefix_of_readLiteral_quote
    (h : readLiteral ((quote s).toList ++ rest) = some (text, tail)) :
    s.toList <+: text ∧ tail <:+ rest := by
  rw [readLiteral_quote_append] at h
  obtain ⟨⟨more, tail⟩, hmore, heq⟩ := Option.map_eq_some_iff.mp h
  cases heq
  have hsplit := (eq_of_readLiteralBody hmore).1
  refine ⟨List.prefix_append s.toList more, ?_⟩
  cases hdoubled : doubleQuotes more with
  | nil =>
      rw [hdoubled] at hsplit
      exact (List.cons.inj hsplit).2 ▸ List.suffix_refl tail
  | cons c doubled =>
      rw [hdoubled, List.cons_append] at hsplit
      exact ⟨doubled ++ ['\''], by simp [(List.cons.inj hsplit).2]⟩

theorem quote_injective : Function.Injective quote := by
  intro s s' h
  have hread : ∀ s, readLiteral (quote s).toList = some (s.toList, []) := by
    intro s
    rw [← List.append_nil (quote s).toList]
    exact readLiteral_quote s (by simp)
  have hsame := hread s
  rw [h, hread s'] at hsame
  exact (String.toList_injective (congrArg Prod.fst (Option.some.inj hsame))).symm

end Text

namespace Value

/--
A reader of literals gives back a text constant and leaves what follows it, if that does
not go on with a quote, and it reads nothing else.  So different constants have different
texts, and however the text goes on, a constant does not close its literal early.
-/
theorem readLiteral_render :
    (∀ (s : String) (rest : List Char), rest.head? ≠ some '\'' →
      Text.readLiteral ((string s).render.toList ++ rest) = some (s.toList, rest)) ∧
    (∀ (s : String) (input rest : List Char), Text.readLiteral input = some (s.toList, rest) →
      input = (string s).render.toList ++ rest ∧ rest.head? ≠ some '\'') ∧
    (Function.Injective fun s => (string s).render) ∧
    ∀ (s : String) (rest text tail : List Char),
      Text.readLiteral ((string s).render.toList ++ rest) = some (text, tail) →
      s.toList <+: text ∧ tail <:+ rest :=
  ⟨fun s _ => Text.readLiteral_quote s, fun _ _ _ => Text.eq_of_readLiteral,
    Text.quote_injective, fun _ _ _ _ => Text.prefix_of_readLiteral_quote⟩

theorem readLiteral_render_quotes :
    (string "'it''s'").render = "'''it''''s'''" ∧
      Text.readLiteral ("'''it''''s''' = c.Name)".toList) =
        some ("'it''s'".toList, " = c.Name)".toList) ∧
      (string "'").render ≠ (string "''").render := by
  have hrender : (string "'it''s'").render = "'''it''''s'''" := by decide
  have hrest : (" = c.Name)".toList).head? ≠ some '\'' := by decide
  have hquotes : "'" ≠ "''" := by decide
  obtain ⟨hread, -, hinjective, -⟩ := readLiteral_render
  have hit := hread "'it''s'" " = c.Name)".toList hrest
  rw [hrender, ← String.toList_append] at hit
  have hdistinct : (string "'").render ≠ (string "''").render := hinjective.ne hquotes
  exact ⟨hrender, hit, hdistinct⟩

end Value

end QueryBinding
