/-
# Literals of entries

The value of an entry is written with eight hexadecimal digits if it is a number of 32 bits,
and as it stands otherwise. The writer and the reader of numbers do not know of each other;
that they agree is what is shown here. Whatever the literal looked like, the number that it
stands for is still the one that is written, so writing twice changes nothing more, and two
numbers of 32 bits are written alike only if they are the same.
-/

import ApiHeader.Proofs.Nesting
import ApiHeader.Proofs.Numerals

namespace ApiHeader.Text

/-! ## Writing digits -/

theorem length_hexDigits (width number : Nat) : (hexDigits width number).length = width := by
  induction width generalizing number with
  | zero => rfl
  | succ width ih => simp [hexDigits, ih]

theorem getElem?_capitalDigits : ∀ value < 16, capitalDigits[value]? = some (hexDigit value) := by
  decide

theorem isDigit_hexDigit {value : Nat} (below : value < 16) : IsDigit 16 (hexDigit value) value :=
  ⟨below, .inr (getElem?_capitalDigits value below)⟩

/-- The digits that are written are those with capital letters. -/
theorem mem_capitalDigits_of_mem_hexDigits {width number : Nat} {c : Char}
    (inside : c ∈ hexDigits width number) : c ∈ capitalDigits := by
  induction width generalizing number with
  | zero => cases inside
  | succ width ih =>
      rw [hexDigits, List.mem_append, List.mem_singleton] at inside
      rcases inside with earlier | rfl
      · exact ih earlier
      · exact List.mem_of_getElem? (getElem?_capitalDigits _ (Nat.mod_lt _ (by decide)))

theorem extended_append_singleton (radix number : Nat) (values : List Nat) (value : Nat) :
    extended radix number (values ++ [value]) = extended radix number values * radix + value := by
  simp [extended]

/-- Written digits give back as much of the number as there is room for. -/
theorem exists_values_hexDigits (width number : Nat) :
    ∃ values, List.Forall₂ (IsDigit 16) (hexDigits width number) values ∧
      extended 16 0 values = number % 16 ^ width := by
  induction width generalizing number with
  | zero => exact ⟨[], .nil, (Nat.mod_one number).symm⟩
  | succ width ih =>
      obtain ⟨values, digits, same⟩ := ih (number / 16)
      refine ⟨values ++ [number % 16], ?_, ?_⟩
      · exact List.rel_append digits (.cons (isDigit_hexDigit (Nat.mod_lt _ (by decide))) .nil)
      · rw [extended_append_singleton, same, Nat.pow_succ', Nat.mod_mul]
        omega

theorem numeral_hexDigits {width number : Nat} (digits : 0 < width) (fits : number < 16 ^ width) :
    Numeral 16 (hexDigits width number) number := by
  obtain ⟨values, each, same⟩ := exists_values_hexDigits width number
  refine ⟨?_, values, each, ?_⟩
  · rw [← List.length_pos_iff_ne_nil, length_hexDigits]
    exact digits
  · rw [ofDigits_reverse, same, Nat.mod_eq_of_lt fits]

end ApiHeader.Text

namespace ApiHeader.Header

open ApiHeader.Schema ApiHeader.Text

/-! ## Literals -/

/-- A number with eight hexadecimal digits after their mark. -/
def hexLiteral (number : Nat) : String :=
  "0x" ++ String.ofList (hexDigits 8 number)

theorem literalNumber?_hexLiteral {number : Nat} (fits : number < 2 ^ 32) :
    literalNumber? (hexLiteral number) = some number := by
  have text : (trim (hexLiteral number)).toList = ['0', 'x'] ++ [] ++ hexDigits 8 number := by
    have marks : "0x".toList.all (isBlank · == false) := by decide
    have digits : capitalDigits.all (isBlank · == false) := by decide
    simp only [List.all_eq_true, beq_iff_eq] at marks digits
    rw [toList_trim, trimChars_of_forall]
    · simp [hexLiteral]
    · simp only [hexLiteral, String.toList_append, String.toList_ofList, List.forall_mem_append]
      exact ⟨marks, fun c inside => digits c (mem_capitalDigits_of_mem_hexDigits inside)⟩
  rw [literalNumber?_eq_some_iff, text]
  exact ⟨.hexadecimal (.inl rfl) (.inl rfl) (numeral_hexDigits (by decide) fits), by omega⟩

section Entries

variable {value : String} {number : Nat}

theorem entryLiteral_of_lt (known : literalNumber? value = some number) (fits : number < 2 ^ 32) :
    entryLiteral value = hexLiteral number := by
  rw [entryLiteral, known]
  exact if_pos fits

theorem entryLiteral_of_forall_le
    (wide : ∀ number, literalNumber? value = some number → 2 ^ 32 ≤ number) :
    entryLiteral value = value := by
  rw [entryLiteral]
  split
  · next number known => exact if_neg (Nat.not_lt.2 (wide number known))
  · rfl

/-- A literal is written anew or left alone. -/
theorem entryLiteral_cases (value : String) :
    (∃ number, literalNumber? value = some number ∧ number < 2 ^ 32 ∧
      entryLiteral value = hexLiteral number) ∨ entryLiteral value = value := by
  by_cases short : ∃ number, literalNumber? value = some number ∧ number < 2 ^ 32
  · obtain ⟨number, known, fits⟩ := short
    exact .inl ⟨number, known, fits, entryLiteral_of_lt known fits⟩
  · refine .inr (entryLiteral_of_forall_le fun number known => ?_)
    by_contra fits
    exact short ⟨number, known, Nat.not_le.1 fits⟩

theorem literalNumber?_entryLiteral (value : String) :
    literalNumber? (entryLiteral value) = literalNumber? value := by
  rcases entryLiteral_cases value with ⟨number, known, fits, same⟩ | same
  · rw [same, known, literalNumber?_hexLiteral fits]
  · rw [same]

theorem entryLiteral_entryLiteral (value : String) :
    entryLiteral (entryLiteral value) = entryLiteral value := by
  rcases entryLiteral_cases value with ⟨number, known, fits, same⟩ | same
  · rw [same]
    exact entryLiteral_of_lt (literalNumber?_hexLiteral fits) fits
  · rw [same, same]

theorem entryLiteral_eq_iff {other : String} {number' : Nat}
    (known : literalNumber? value = some number) (fits : number < 2 ^ 32)
    (known' : literalNumber? other = some number') (fits' : number' < 2 ^ 32) :
    entryLiteral value = entryLiteral other ↔ number = number' := by
  constructor
  · intro same
    have read := congrArg literalNumber? same
    rw [literalNumber?_entryLiteral, literalNumber?_entryLiteral, known, known'] at read
    exact Option.some.inj read
  · rintro rfl
    rw [entryLiteral_of_lt known fits, entryLiteral_of_lt known' fits]

end Entries

/-! ## Bodies -/

/-- The lines of an enumeration: one for each entry in order, and one that makes its values
as wide as 32 bits. -/
def enumerationLines (naming : Naming) (enumeration : Enumeration) : List String :=
  ["typedef enum " ++ naming.typeName enumeration.name ++ " \x7b"] ++
    enumeration.entries.map (fun entry =>
      "    " ++ naming.enumerator enumeration.name entry.name ++ " = " ++
        entryLiteral entry.value ++ ",") ++
    ["    " ++ naming.enumerator enumeration.name "Force32" ++ " = 0x7FFFFFFF",
      "\x7d " ++ naming.typeName enumeration.name ++ " " ++ naming.enumAttribute ++ ";"]

theorem lineTexts_append (first second : List Item) :
    lineTexts (first ++ second) = lineTexts first ++ lineTexts second := by
  simp [lineTexts]

theorem lineTexts_flatMap {α : Type} (elements : List α) (items : α → List Item) :
    lineTexts (elements.flatMap items) =
      elements.flatMap fun element => lineTexts (items element) := by
  simp [lineTexts, List.flatMap_assoc, List.map_flatMap]

theorem text_code_zero (text : String) : (Line.code 0 text).text = text := by
  rw [Line.text, show spaces 0 = "" by decide, String.empty_append]

theorem lineTexts_enumerationDeclaration (naming : Naming) (enumeration : Enumeration) :
    lineTexts [.declaration (enumerationDeclaration naming enumeration)] =
      enumerationLines naming enumeration := by
  have indented (text : String) : (Line.code bodyIndent text).text = "    " ++ text := by
    rw [Line.text, show spaces bodyIndent = "    " by decide]
  simp [lineTexts, Item.lines, enumerationDeclaration, Declaration.lines, enumerationLines,
    text_code_zero, indented, String.append_assoc]

theorem lineTexts_enumerationSection (resolved : Resolved) (naming : Naming) :
    lineTexts (enumerationSection resolved naming) =
      resolved.schema.enumerations.flatMap fun enumeration =>
        enumerationLines naming enumeration ++ [""] := by
  have own (enumeration : Enumeration) :
      lineTexts (paragraph [enumerationDeclaration naming enumeration]) =
        enumerationLines naming enumeration ++ [""] := by
    rw [← lineTexts_enumerationDeclaration]
    exact lineTexts_append [_] [.blank]
  simp only [enumerationSection, lineTexts_flatMap, own]

/-- The line that follows a bitmask. -/
def flagsLine (resolved : Resolved) (naming : Naming) (bitmask : Enumeration) : String :=
  "typedef " ++ cType resolved naming (.reference "Flags") ++ " " ++
    naming.flagsName bitmask.name ++ " " ++ naming.enumAttribute ++ ";"

theorem lineTexts_bitmaskSection (resolved : Resolved) (naming : Naming) :
    lineTexts (bitmaskSection resolved naming) =
      resolved.schema.bitmasks.flatMap fun bitmask =>
        enumerationLines naming bitmask ++ [flagsLine resolved naming bitmask, ""] := by
  have own (bitmask : Enumeration) :
      lineTexts (paragraph
          [enumerationDeclaration naming bitmask, flagsDeclaration resolved naming bitmask]) =
        enumerationLines naming bitmask ++ [flagsLine resolved naming bitmask, ""] := by
    have follows : lineTexts [.declaration (flagsDeclaration resolved naming bitmask), .blank] =
        [flagsLine resolved naming bitmask, ""] := by
      change [(Line.code 0 _).text, _] = _
      rw [text_code_zero]
      rfl
    rw [← lineTexts_enumerationDeclaration, ← follows]
    exact lineTexts_append [_] [_, .blank]
  simp only [bitmaskSection, lineTexts_flatMap, own]

/-- Entries keep their numbers: a number of 32 bits is written with eight digits and every
other literal as it stands, and either can be read as before. The bodies of enumerations and
bitmasks list these literals in order and close with the largest signed number. -/
theorem entryLiteral_faithful (resolved : Resolved) (naming : Naming) :
    (∀ value : String,
      (∀ number, literalNumber? value = some number → number < 2 ^ 32 →
        ∃ digits, entryLiteral value = "0x" ++ String.ofList digits ∧ digits.length = 8 ∧
          digits ⊆ capitalDigits ∧ Numeral 16 digits number) ∧
      ((∀ number, literalNumber? value = some number → 2 ^ 32 ≤ number) →
        entryLiteral value = value) ∧
      literalNumber? (entryLiteral value) = literalNumber? value ∧
      entryLiteral (entryLiteral value) = entryLiteral value) ∧
    (∀ (value value' : String) (number number' : Nat), literalNumber? value = some number →
      number < 2 ^ 32 → literalNumber? value' = some number' → number' < 2 ^ 32 →
        (entryLiteral value = entryLiteral value' ↔ number = number')) ∧
    lineTexts (enumerationSection resolved naming) =
      resolved.schema.enumerations.flatMap (fun enumeration =>
        enumerationLines naming enumeration ++ [""]) ∧
    lineTexts (bitmaskSection resolved naming) =
      resolved.schema.bitmasks.flatMap fun bitmask =>
        enumerationLines naming bitmask ++ [flagsLine resolved naming bitmask, ""] := by
  refine ⟨fun value => ⟨fun number known fits => ?_, entryLiteral_of_forall_le,
      literalNumber?_entryLiteral value, entryLiteral_entryLiteral value⟩,
    fun value value' number number' known fits known' fits' =>
      entryLiteral_eq_iff known fits known' fits',
    lineTexts_enumerationSection resolved naming, lineTexts_bitmaskSection resolved naming⟩
  exact ⟨hexDigits 8 number, entryLiteral_of_lt known fits, length_hexDigits 8 number,
    fun c inside => mem_capitalDigits_of_mem_hexDigits inside, numeral_hexDigits (by decide) fits⟩

/-- An enumeration and a bitmask with literals of many kinds. -/
def literalSchema : Schema :=
  Schema.rebuildIndex {
    namePrefix := "P"
    types := [
      .enumeration {
        name := "Level"
        entries := [⟨"Low", " +010"⟩, ⟨"Wide", "4294967296"⟩, ⟨"Named", "1 << 3"⟩] },
      .bitmask { name := "Mask", entries := [⟨"All", "0XffffFFFF"⟩] }] }

def literalResolved : Resolved :=
  ⟨literalSchema, literalSchema.entityKinds, .empty, literalSchema.structOrder .empty⟩

theorem literalResolved_faithful :
    Resolved.ofSchema literalSchema = .ok literalResolved ∧
    (literalNumber? " +010" = some 10 ∧ literalNumber? "0xA" = some 10 ∧
      entryLiteral " +010" = entryLiteral "0xA") ∧
    (literalNumber? "4294967296" = some 4294967296 ∧
      entryLiteral "4294967296" = "4294967296") ∧
    lineTexts (enumerationSection literalResolved (.ofPrefix "P")) =
      ["typedef enum PLevel \x7b", "    PLevel_Low = 0x0000000A,", "    PLevel_Wide = 4294967296,",
        "    PLevel_Named = 1 << 3,", "    PLevel_Force32 = 0x7FFFFFFF",
        "\x7d PLevel P_ENUM_ATTRIBUTE;", ""] ∧
    lineTexts (bitmaskSection literalResolved (.ofPrefix "P")) =
      ["typedef enum PMask \x7b", "    PMask_All = 0xFFFFFFFF,", "    PMask_Force32 = 0x7FFFFFFF",
        "\x7d PMask P_ENUM_ATTRIBUTE;", "typedef PFlags PMaskFlags P_ENUM_ATTRIBUTE;", ""] := by
  obtain ⟨each, pairs, enumerations, bitmasks⟩ :=
    entryLiteral_faithful literalResolved (.ofPrefix "P")
  have low : literalNumber? " +010" = some 10 := by decide +kernel
  have hexadecimal : literalNumber? "0xA" = some 10 := by decide +kernel
  have wide : literalNumber? "4294967296" = some 4294967296 := by decide +kernel
  have kept : ∀ number, literalNumber? "4294967296" = some number → 2 ^ 32 ≤ number := by
    intro number known
    rw [← Option.some.inj (wide.symm.trans known)]
    decide
  have depths : literalSchema.structDepths = .ok .empty := by decide +kernel
  refine ⟨Resolved.ofSchema_of_structDepths depths,
    ⟨low, hexadecimal, (pairs _ _ _ _ low (by decide) hexadecimal (by decide)).2 rfl⟩,
    ⟨wide, (each "4294967296").2.1 kept⟩, ?_, ?_⟩
  · rw [enumerations]
    decide +kernel
  · rw [bitmasks]
    decide +kernel

end ApiHeader.Header
