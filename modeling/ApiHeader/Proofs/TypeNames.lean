/-
# Mentions of types as names

A mention of a type is trimmed, `bool` gives way to the truth type of the description, and the
first character of what is left tells entities from types of the target language. What is left
is the name of the mention, and it settles everything: the name is classified as the mention
was, so every later stage may compare names in place of the texts that they came from.

Neither step can be undone or done twice. A name has no blanks that could be trimmed, and the
name that stands for `bool` starts with a capital, so that it is not `bool` and is an entity.
-/

import ApiHeader.Proofs.TextLines
import ApiHeader.Schema.TypeRef

namespace ApiHeader.Schema.TypeRef

open ApiHeader.Text

variable {text : String}

/-- The name that a mention of a type comes to. -/
def canonicalName (text : String) : String :=
  if trim text = "bool" then "Bool" else trim text

theorem resolve_of_bool (h : trim text = "bool") : resolve text = reference "Bool" :=
  if_pos h

/-- The first character decides about every mention but `bool`. -/
theorem resolve_of_ne_bool (h : trim text ≠ "bool") :
    (resolve text = reference (trim text) ∧
      ∃ c, (trim text).toList.head? = some c ∧ isUppercase c) ∨
    (resolve text = primitive (trim text) ∧
      ¬ ∃ c, (trim text).toList.head? = some c ∧ isUppercase c) := by
  rw [resolve, if_neg h]
  cases (trim text).toList with
  | nil => exact .inr ⟨rfl, by simp⟩
  | cons c cs =>
      by_cases capital : isUppercase c
      · exact .inl ⟨if_pos capital, c, rfl, capital⟩
      · exact .inr ⟨if_neg capital, by simpa using capital⟩

@[simp]
theorem name_resolve (text : String) : (resolve text).name = canonicalName text := by
  by_cases h : trim text = "bool"
  · rw [resolve_of_bool h, canonicalName, if_pos h]
    rfl
  · rw [canonicalName, if_neg h]
    rcases resolve_of_ne_bool h with ⟨same, _⟩ | ⟨same, _⟩
    · rw [same]
      rfl
    · rw [same]
      rfl

theorem trim_canonicalName (text : String) : trim (canonicalName text) = canonicalName text := by
  rw [canonicalName]
  split
  · decide +kernel
  · exact trim_trim text

theorem canonicalName_ne_bool (text : String) : canonicalName text ≠ "bool" := by
  rw [canonicalName]
  split
  · decide
  · assumption

/-- The name of a mention is classified as the mention was. -/
theorem resolve_canonicalName (text : String) : resolve (canonicalName text) = resolve text := by
  by_cases h : trim text = "bool"
  · rw [canonicalName, if_pos h, resolve_of_bool h]
    decide +kernel
  · rw [canonicalName, if_neg h, resolve, resolve, trim_trim]

theorem resolve_eq_resolve_iff {first second : String} :
    resolve first = resolve second ↔ canonicalName first = canonicalName second := by
  constructor
  · intro same
    rw [← name_resolve, same, name_resolve]
  · intro same
    rw [← resolve_canonicalName, same, resolve_canonicalName]

theorem exists_resolve_eq_reference_iff :
    (∃ name, resolve text = reference name) ↔
      trim text = "bool" ∨ ∃ c, (trim text).toList.head? = some c ∧ isUppercase c := by
  by_cases h : trim text = "bool"
  · exact ⟨fun _ => .inl h, fun _ => ⟨_, resolve_of_bool h⟩⟩
  · rcases resolve_of_ne_bool h with ⟨same, capital⟩ | ⟨same, small⟩
    · exact ⟨fun _ => .inr capital, fun _ => ⟨_, same⟩⟩
    · constructor
      · rintro ⟨name, entity⟩
        rw [same] at entity
        cases entity
      · intro either
        exact absurd either (not_or.2 ⟨h, small⟩)

/-- Classifying mentions of types gives normal forms: the name of one is classified alike, has
no blank at either end and is not `bool`. Mentions are entities exactly if they are `bool` or
start with a capital, and they are the same exactly if they come to the same name. -/
theorem resolve_normalForm (text : String) :
    resolve (resolve text).name = resolve text ∧
    ((resolve text).name ≠ "" → Solid (resolve text).name.toList) ∧
    (resolve text).name ≠ "bool" ∧
    ((∃ name, resolve text = reference name) ↔
      trim text = "bool" ∨ ∃ c, (trim text).toList.head? = some c ∧ isUppercase c) ∧
    ∀ other, resolve text = resolve other ↔ canonicalName text = canonicalName other := by
  rw [name_resolve]
  refine ⟨resolve_canonicalName text, fun left => ?_, canonicalName_ne_bool text,
    exists_resolve_eq_reference_iff, fun other => resolve_eq_resolve_iff⟩
  rw [← trim_canonicalName] at left ⊢
  exact solid_trim left

example : resolve "\u2003bool\t" = resolve "Bool\u00A0" := by decide +kernel

end ApiHeader.Schema.TypeRef
