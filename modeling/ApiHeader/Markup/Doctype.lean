/-
# Document type declarations

A document type says nothing to the readers of a description, but where it ends
has to be found. Quotes hide a `>` before the internal subset; inside the subset
each declaration has its own end, and only a `]` between declarations leaves it.
-/

import ApiHeader.Markup.Cut

namespace ApiHeader.Markup

/-- What follows the first occurrence of a mark. -/
def after? (mark cs : List Char) : Option (List Char) :=
  (cutAt mark cs).map Prod.snd

/-- What follows one declaration of the internal subset, given the characters
after its `<`. -/
def afterDeclaration? (cs : List Char) : Option (List Char) :=
  if let some body := ['!', '-', '-'].isPrefixOf? cs then after? ['-', '-', '>'] body
  else if let some body := ['?'].isPrefixOf? cs then after? ['?', '>'] body
  else if "!ENTITY".toList.isPrefixOf cs || "!ATTLIST".toList.isPrefixOf cs ||
      "!NOTATION".toList.isPrefixOf cs then
    (cutTag none cs).toOption.map Prod.snd
  else after? ['>'] cs

theorem length_of_after? {mark cs rest : List Char} (h : after? mark cs = some rest) :
    rest.length ≤ cs.length := by
  obtain ⟨cut, hcut, rfl⟩ := Option.map_eq_some_iff.1 h
  have := length_of_cutAt hcut
  omega

theorem length_of_afterDeclaration? {cs rest : List Char}
    (h : afterDeclaration? cs = some rest) : rest.length ≤ cs.length := by
  rw [afterDeclaration?] at h
  split at h
  · next body shape =>
    have := length_of_after? h
    rw [eq_append_of_isPrefixOf? shape]
    simp
    omega
  · split at h
    · next body shape =>
      have := length_of_after? h
      rw [eq_append_of_isPrefixOf? shape]
      simp
      omega
    · split at h
      · obtain ⟨cut, hcut, rfl⟩ := Option.map_eq_some_iff.1 h
        cases found : cutTag none cs with
        | error left => simp [found, Except.toOption] at hcut
        | ok other =>
          simp only [found, Except.toOption, Option.some.injEq] at hcut
          subst hcut
          exact Nat.le_of_lt (length_of_cutTag found)
      · exact length_of_after? h

/-- What follows the `]` that ends the internal subset. -/
def afterSubset? (cs : List Char) : Option (List Char) :=
  match cs with
  | [] => none
  | c :: cs =>
    if c == ']' then some cs
    else if c == '<' then
      match _ : afterDeclaration? cs with
      | some rest => afterSubset? rest
      | none => none
    else afterSubset? cs
termination_by cs.length
decreasing_by
  · have := length_of_afterDeclaration? ‹_›
    simp
    omega
  · simp

/-- What follows the document type, given the quote that is open. -/
def afterDoctype? (quote : Option Char) : List Char → Option (List Char)
  | [] => none
  | c :: cs =>
    if quote.isNone && c == '>' then some cs
    else if quote.isNone && c == '[' then (afterSubset? cs).bind (after? ['>'])
    else afterDoctype? (quoteAfter quote c) cs

theorem length_of_afterSubset? {cs rest : List Char} (h : afterSubset? cs = some rest) :
    rest.length < cs.length := by
  fun_induction afterSubset? cs with
  | case1 => simp at h
  | case2 c cs closes => simp_all
  | case3 c cs closes opens inner found ih =>
    have := length_of_afterDeclaration? found
    have := ih h
    simp
    omega
  | case4 => simp at h
  | case5 c cs closes opens ih =>
    have := ih h
    simp
    omega

theorem length_of_afterDoctype? {quote : Option Char} {cs rest : List Char}
    (h : afterDoctype? quote cs = some rest) : rest.length < cs.length := by
  induction cs generalizing quote with
  | nil => simp [afterDoctype?] at h
  | cons c cs ih =>
    rw [afterDoctype?] at h
    split at h
    · simp_all
    · split at h
      · obtain ⟨inner, subset, closing⟩ := Option.bind_eq_some_iff.1 h
        have := length_of_afterSubset? subset
        have := length_of_after? closing
        simp
        omega
      · have := ih h
        simp
        omega

end ApiHeader.Markup
