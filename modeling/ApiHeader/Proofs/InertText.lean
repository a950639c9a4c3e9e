/-
# Texts that stay within their line

A header puts texts of the description into lines of its own. A text without number
sign, line feed and carriage return cannot end such a line, and it cannot turn one
into a directive either, wherever it is put. This module says which texts a schema
and a declaration are made of, and that the declarations of a header are made of
inert texts if those of the schema are inert: neither respelling a name nor joining
parts brings in one of the three characters.

The license is not counted among the texts of a schema. It is written as comments,
whatever it holds.
-/

import ApiHeader.Proofs.DeclarationOrder

namespace ApiHeader

open Schema Header Text

namespace Text

/-- Whether a character neither ends a line nor marks a directive. -/
def isInert (c : Char) : Bool :=
  c != '#' && c != '\n' && c != '\r'

/-- A text that stays within the line it is put into. -/
def Inert (text : String) : Prop :=
  ∀ c ∈ text.toList, isInert c

-- the characters of the text are gone through, and not all that there are
instance (text : String) : Decidable (Inert text) :=
  List.decidableBAll (fun c => isInert c) text.toList

/-- Every one of the given texts is inert. -/
abbrev AllInert (texts : List String) : Prop :=
  ∀ text ∈ texts, Inert text

@[simp]
theorem inert_append {first second : String} :
    Inert (first ++ second) ↔ Inert first ∧ Inert second := by
  simp [Inert, or_imp, forall_and]

@[simp]
theorem inert_ofList {cs : List Char} : Inert (String.ofList cs) ↔ ∀ c ∈ cs, isInert c := by
  simp [Inert]

theorem inert_intercalate {separator : String} {parts : List String} (h : Inert separator)
    (all : AllInert parts) : Inert (String.intercalate separator parts) := by
  induction parts with
  | nil =>
      rw [String.intercalate_nil]
      decide
  | cons part rest ih =>
      have others := ih fun text there => all text (List.mem_cons_of_mem _ there)
      cases rest with
      | nil =>
          rw [String.intercalate_singleton]
          exact all part List.mem_cons_self
      | cons next rest =>
          rw [String.intercalate_cons_cons, inert_append, inert_append]
          exact ⟨⟨all part List.mem_cons_self, h⟩, others⟩

theorem Inert.trim {text : String} (h : Inert text) : Inert (Text.trim text) := by
  intro c inside
  rw [toList_trim, trimChars, trimEndChars, List.mem_reverse] at inside
  have kept := (List.dropWhile_sublist isBlank).subset inside
  exact h c ((List.dropWhile_sublist isBlank).subset (List.mem_reverse.1 kept))

theorem allInert_ite {condition : Prop} [Decidable condition] {text : String} (h : Inert text) :
    AllInert (if condition then [text] else []) := by
  split
  · exact List.forall_mem_singleton.2 h
  · exact List.forall_mem_nil _

/-! ## Respelling -/

/-- The characters that are not inert come before all letters. -/
theorem isInert_ofNat {point : Nat} (h : 0x23 < point) : isInert (Char.ofNat point) := by
  have read : (Char.ofNat point).toNat = point ∨ (Char.ofNat point).toNat = 0 := by
    rw [Char.ofNat]
    by_cases valid : point.isValidChar
    · rw [dif_pos valid]
      exact .inl rfl
    · rw [dif_neg valid]
      exact .inr rfl
  have differs {c : Char} (small : 0 < c.toNat ∧ c.toNat ≤ 0x23) : Char.ofNat point ≠ c := by
    rintro rfl
    omega
  simp only [isInert, Bool.and_eq_true, bne_iff_ne]
  exact ⟨⟨differs (by decide), differs (by decide)⟩, differs (by decide)⟩

/-- Mapping characters one by one brings in inert ones only, if its tables hold no
other. -/
theorem isInert_of_mem_mapChar {expansions : List (Nat × List Nat)} {shifts : List Shift}
    (expanded : ∀ entry ∈ expansions, ∀ point ∈ entry.2, 0x23 < point)
    (shifted : ∀ shift ∈ shifts, 0x23 < shift.run.first + shift.distance) {c d : Char}
    (h : isInert c) (inside : d ∈ mapChar expansions shifts c) : isInert d := by
  rw [mapChar] at inside
  split at inside
  · next points found =>
    obtain ⟨before, after, table, _⟩ := List.lookup_eq_some_iff.1 found
    have entry : (c.toNat, points) ∈ expansions := by simp [table]
    obtain ⟨point, there, rfl⟩ := List.mem_map.1 inside
    exact isInert_ofNat (expanded _ entry point there)
  · split at inside
    · next shift found =>
      have low := shifted shift (List.mem_of_find?_eq_some found)
      have covered := List.find?_some found
      simp only [Run.covers, Bool.and_eq_true, decide_eq_true_eq] at covered
      obtain rfl := List.mem_singleton.1 inside
      exact isInert_ofNat (by omega)
    · obtain rfl := List.mem_singleton.1 inside
      exact h

theorem isInert_of_mem_upperChar {c d : Char} (h : isInert c) (inside : d ∈ upperChar c) :
    isInert d :=
  isInert_of_mem_mapChar (by decide +kernel) (by decide +kernel) h inside

theorem isInert_of_mem_lowerChar {c d : Char} (h : isInert c) (inside : d ∈ lowerChar c) :
    isInert d :=
  isInert_of_mem_mapChar (by decide +kernel) (by decide +kernel) h inside

theorem Inert.toUpper {text : String} (h : Inert text) : Inert (Text.toUpper text) := by
  rw [Text.toUpper, inert_ofList]
  intro d inside
  obtain ⟨c, there, mapped⟩ := List.mem_flatMap.1 inside
  exact isInert_of_mem_upperChar (h c there) mapped

theorem isInert_of_mem_lowerFrom {before cs : List Char} (h : ∀ c ∈ cs, isInert c) {d : Char}
    (inside : d ∈ lowerFrom before cs) : isInert d := by
  induction cs generalizing before with
  | nil => cases inside
  | cons c rest ih =>
      rw [lowerFrom] at inside
      rcases List.mem_append.1 inside with here | later
      · split at here
        · obtain rfl := List.mem_singleton.1 here
          decide
        · exact isInert_of_mem_lowerChar (h c List.mem_cons_self) here
      · exact ih (fun c there => h c (List.mem_cons_of_mem _ there)) later

theorem Inert.toLower {text : String} (h : Inert text) : Inert (Text.toLower text) := by
  rw [Text.toLower, inert_ofList]
  intro d inside
  exact isInert_of_mem_lowerFrom h inside

theorem Inert.lowerFirst {text : String} (h : Inert text) : Inert (Text.lowerFirst text) := by
  rw [Text.lowerFirst]
  split
  · next c rest spelled =>
    rw [inert_ofList]
    intro d inside
    rcases List.mem_append.1 inside with first | later
    · exact isInert_of_mem_lowerChar (h c (by simp [spelled])) first
    · exact h d (by simp [spelled, later])
  · decide

theorem isInert_asciiCapital {c : Char} (h : isInert c) : isInert (asciiCapital c) := by
  rw [asciiCapital]
  split
  · next small =>
    apply isInert_ofNat
    have least : 'a'.toNat ≤ c.toNat := small.1
    have known : 'a'.toNat = 97 := rfl
    omega
  · exact h

theorem isInert_of_mem_screamingSnakeFrom {previous : Option Char} {cs : List Char}
    (h : ∀ c ∈ cs, isInert c) {d : Char} (inside : d ∈ screamingSnakeFrom previous cs) :
    isInert d := by
  induction cs generalizing previous with
  | nil => cases inside
  | cons c rest ih =>
      have respelled (there : d ∈ asciiCapital c :: screamingSnakeFrom (some c) rest) :
          isInert d := by
        rcases List.mem_cons.1 there with rfl | later
        · exact isInert_asciiCapital (h c List.mem_cons_self)
        · exact ih (fun c there => h c (List.mem_cons_of_mem _ there)) later
      rw [screamingSnakeFrom] at inside
      split at inside
      · rcases List.mem_cons.1 inside with rfl | there
        · decide
        · exact respelled there
      · exact respelled inside

theorem Inert.screamingSnake {text : String} (h : Inert text) :
    Inert (Text.screamingSnake text) := by
  rw [Text.screamingSnake, inert_ofList]
  intro d inside
  exact isInert_of_mem_screamingSnakeFrom h inside

theorem isInert_of_mem_hexDigits {width number : Nat} {d : Char}
    (inside : d ∈ hexDigits width number) : isInert d := by
  induction width generalizing number with
  | zero => cases inside
  | succ width ih =>
      rw [hexDigits] at inside
      rcases List.mem_append.1 inside with higher | last
      · exact ih higher
      · obtain rfl := List.mem_singleton.1 last
        have known : '0'.toNat = 48 ∧ 'A'.toNat = 65 := ⟨rfl, rfl⟩
        rw [hexDigit]
        split <;> exact isInert_ofNat (by omega)

end Text

/-! ## Texts of a schema -/

namespace Schema

def Argument.texts (argument : Argument) : List String :=
  [argument.name, argument.type.name] ++ argument.annotation.toList ++ argument.length.toList ++
    argument.default.toList

def Function.texts (function : Function) : List String :=
  [function.name, function.returns.name] ++ (function.callback.map TypeRef.name).toList ++
    function.arguments.flatMap Argument.texts

def Constant.texts (constant : Constant) : List String :=
  [constant.name, constant.type.name, constant.value]

def Enumeration.texts (enumeration : Enumeration) : List String :=
  enumeration.name :: enumeration.entries.flatMap fun entry => [entry.name, entry.value]

def Member.texts (part : Member) : List String :=
  [part.name, part.type.name] ++ part.annotation.toList ++ part.length.toList ++
    part.default.toList

def Struct.texts (struct : Struct) : List String :=
  struct.name :: struct.members.flatMap Member.texts ++
    struct.methods.toList.flatMap Function.texts ++ struct.chainRoots

def TypeDef.texts : TypeDef → List String
  | value definition => [definition.name, definition.underlying.name]
  | enumeration definition | bitmask definition => definition.texts
  | struct definition => definition.texts

def Object.texts (object : Object) : List String :=
  object.name :: object.methods.toList.flatMap Function.texts

/-- All texts of a schema but its license. -/
def texts (schema : Schema) : List String :=
  schema.namePrefix :: schema.constants.flatMap Constant.texts ++
    schema.types.flatMap TypeDef.texts ++ schema.freeFunctions.flatMap Function.texts ++
    schema.functionPointers.flatMap Function.texts ++ schema.objects.flatMap Object.texts

theorem allInert_texts_iff {schema : Schema} :
    AllInert schema.texts ↔
      Inert schema.namePrefix ∧ (∀ constant ∈ schema.constants, AllInert constant.texts) ∧
      (∀ definition ∈ schema.types, AllInert definition.texts) ∧
      (∀ function ∈ schema.freeFunctions, AllInert function.texts) ∧
      (∀ function ∈ schema.functionPointers, AllInert function.texts) ∧
      ∀ object ∈ schema.objects, AllInert object.texts := by
  simp only [texts, AllInert, List.forall_mem_append, List.forall_mem_cons,
    List.forall_mem_flatMap, List.cons_append, and_assoc]

/-- The two methods of a counted handle bring in their names only. -/
theorem Object.allInert_of_mem_allMethods {object : Object} (h : AllInert object.texts)
    {function : Function} (inside : function ∈ object.allMethods.toList) :
    AllInert function.texts := by
  have declared (there : function ∈ object.methods.toList) : AllInert function.texts :=
    fun text inside => h text (List.mem_cons_of_mem _ (List.mem_flatMap.2 ⟨function, there, inside⟩))
  rw [Object.allMethods] at inside
  split at inside
  · rcases Methods.mem_place inside with rfl | inside
    · decide
    · rcases Methods.mem_place inside with rfl | there
      · decide
      · exact declared there
  · exact declared inside

end Schema

/-! ## Names -/

namespace Naming

/-- The spellings of the prefix are inert. -/
structure Inert (naming : Naming) : Prop where
  typePrefix : Text.Inert naming.typePrefix
  functionPrefix : Text.Inert naming.functionPrefix
  macroPrefix : Text.Inert naming.macroPrefix

theorem inert_ofPrefix {namePrefix : String} (h : Text.Inert namePrefix) :
    (Naming.ofPrefix namePrefix).Inert :=
  ⟨h, h.toLower, h.toUpper⟩

variable {naming : Naming} (spelled : naming.Inert) {name owner suffix : String}

include spelled

theorem Inert.typeName (h : Text.Inert name) : Text.Inert (naming.typeName name) :=
  inert_append.2 ⟨spelled.typePrefix, h⟩

theorem Inert.flagsName (h : Text.Inert name) : Text.Inert (naming.flagsName name) :=
  inert_append.2 ⟨spelled.typeName h, by decide⟩

theorem Inert.handleTag (h : Text.Inert name) : Text.Inert (naming.handleTag name) :=
  inert_append.2 ⟨spelled.typeName h, by decide⟩

theorem Inert.enumerator (howner : Text.Inert owner) (h : Text.Inert name) :
    Text.Inert (naming.enumerator owner name) :=
  inert_append.2 ⟨inert_append.2 ⟨spelled.typeName howner, by decide⟩, h⟩

theorem Inert.functionName (howner : Text.Inert owner) (h : Text.Inert name) :
    Text.Inert (naming.functionName owner name) :=
  inert_append.2 ⟨inert_append.2 ⟨spelled.functionPrefix, howner⟩, h⟩

theorem Inert.procName (howner : Text.Inert owner) (h : Text.Inert name) :
    Text.Inert (naming.procName owner name) :=
  inert_append.2 ⟨inert_append.2 ⟨spelled.typeName (by decide), howner⟩, h⟩

theorem Inert.macroName (h : Text.Inert suffix) : Text.Inert (naming.macroName suffix) :=
  inert_append.2 ⟨inert_append.2 ⟨spelled.macroPrefix, by decide⟩, h⟩

end Naming

/-! ## Texts of declarations -/

namespace Header

def Declarator.texts (declarator : Declarator) : List String :=
  declarator.qualifiers ++ [declarator.type] ++ declarator.annotation.toList ++ [declarator.name]

def Signature.texts (signature : Signature) : List String :=
  signature.returnType :: signature.parameters.flatMap Declarator.texts

/-- The texts that a declaration puts together. -/
def Declaration.texts : Declaration → List String
  | constant name literal => [name, literal]
  | synonym type name => [type, name]
  | markedSynonym type name mark => [type, name, mark]
  | handle tag name mark => [tag, name, mark]
  | forward tag => [tag]
  | enumeration name enumerators last mark =>
    [name, last.1, last.2, mark] ++ enumerators.flatMap fun enumerator =>
      [enumerator.1, enumerator.2]
  | functionPointer name signature mark => [name, mark] ++ signature.texts
  | struct name fields mark => [name, mark] ++ fields.flatMap Declarator.texts
  | prototype exportMacro name signature mark => [exportMacro, name, mark] ++ signature.texts

theorem Declarator.inert_render {declarator : Declarator} (h : AllInert declarator.texts) :
    Inert declarator.render := by
  have parts : AllInert (declarator.qualifiers ++ [declarator.type] ++ declarator.annotationParts ++
      [declarator.name]) := by
    simp only [Declarator.texts, AllInert, List.forall_mem_append] at h ⊢
    refine ⟨⟨h.1.1, ?_⟩, h.2⟩
    rw [Declarator.annotationParts]
    split
    · next text written =>
      split
      · exact List.forall_mem_nil _
      · exact List.forall_mem_singleton.2 (h.1.2 text (by simp [written])).trim
    · exact List.forall_mem_nil _
  exact inert_intercalate (by decide) parts

theorem Signature.inert_parameterList {signature : Signature} (h : AllInert signature.texts) :
    Inert signature.parameterList := by
  rw [Signature.parameterList]
  split
  · decide
  · refine inert_intercalate (by decide) (List.forall_mem_map.2 fun parameter inside => ?_)
    refine Declarator.inert_render fun text there => h text (List.mem_cons_of_mem _ ?_)
    exact List.mem_flatMap.2 ⟨parameter, inside, there⟩

theorem inert_entryLiteral {value : String} (h : Inert value) : Inert (entryLiteral value) := by
  rw [entryLiteral]
  split
  · split
    · refine inert_append.2 ⟨by decide, inert_ofList.2 fun d inside => ?_⟩
      exact isInert_of_mem_hexDigits inside
    · exact h
  · exact h

theorem inert_constantLiteral {value : String} (h : Inert value) :
    Inert (constantLiteral value) := by
  rw [constantLiteral]
  split
  · decide
  · split
    · decide
    · exact h

variable {resolved : Resolved} {naming : Naming}

section Parts

variable (spelled : naming.Inert)

include spelled

theorem inert_cType {type : TypeRef} (h : Inert type.name) :
    Inert (cType resolved naming type) := by
  cases type with
  | primitive text => exact h
  | reference name =>
      rw [cType]
      split
      · exact spelled.flagsName h
      · exact spelled.typeName h

theorem allInert_argumentParameter {mode : SignatureMode} {argument : Argument}
    (h : AllInert argument.texts) :
    AllInert (argumentParameter resolved naming mode argument).texts := by
  simp only [Argument.texts, AllInert, List.forall_mem_append, List.forall_mem_cons] at h
  obtain ⟨⟨⟨⟨named, typed, _⟩, annotated⟩, _⟩, _⟩ := h
  simp only [Declarator.texts, argumentParameter, argumentQualifiers, AllInert,
    List.forall_mem_append, List.forall_mem_singleton]
  refine ⟨⟨⟨⟨?_, ?_⟩, inert_cType spelled typed⟩, annotated⟩, named⟩
  · exact allInert_ite (spelled.macroName (by decide))
  · exact allInert_ite (by decide)

theorem allInert_callbackParameters {function : Function} (h : AllInert function.texts) :
    AllInert ((callbackParameters resolved naming function).flatMap Declarator.texts) := by
  simp only [Function.texts, AllInert, List.forall_mem_append, List.forall_mem_cons] at h
  obtain ⟨⟨⟨named, _⟩, answered⟩, _⟩ := h
  have type : Inert function.callbackType.name := by
    rw [Function.callbackType]
    cases given : function.callback with
    | none => exact inert_append.2 ⟨named, by decide⟩
    | some type => exact answered type.name (by simp [given])
  rw [callbackParameters]
  split
  · simp only [Declarator.texts, List.flatMap_cons, List.flatMap_nil, AllInert,
      List.forall_mem_append, List.forall_mem_singleton]
    refine ⟨⟨⟨⟨?_, inert_cType spelled type⟩, ?_⟩, by decide⟩, by decide⟩
    · exact List.forall_mem_nil _
    · exact List.forall_mem_nil _
  · exact List.forall_mem_nil _

theorem allInert_ownerParameters {owner : String} (named : Inert owner) :
    AllInert ((ownerParameters resolved naming owner).flatMap Declarator.texts) := by
  rw [ownerParameters]
  split
  · exact List.forall_mem_nil _
  · simp only [Declarator.texts, List.flatMap_cons, List.flatMap_nil, AllInert,
      List.forall_mem_append, List.forall_mem_singleton]
    refine ⟨⟨⟨⟨?_, inert_cType spelled named⟩, ?_⟩, named.lowerFirst⟩, ?_⟩
    all_goals exact List.forall_mem_nil _

theorem allInert_signatureOf {mode : SignatureMode} {owner : String} {function : Function}
    (named : Inert owner) (h : AllInert function.texts) :
    AllInert (signatureOf resolved naming mode owner function).texts := by
  have returned : Inert function.returnType.name := by
    rw [Function.returnType]
    split
    · decide
    · exact h _ (by simp [Function.texts])
  simp only [Signature.texts, signatureOf, AllInert, List.flatMap_append, List.flatMap_map,
    List.forall_mem_cons, List.forall_mem_append, List.forall_mem_flatMap]
  refine ⟨inert_cType spelled returned, ⟨?_, ?_⟩, ?_⟩
  · exact List.forall_mem_flatMap.1 (allInert_ownerParameters spelled named)
  · intro argument inside
    refine allInert_argumentParameter spelled fun text there => h text ?_
    exact List.mem_append_right _ (List.mem_flatMap.2 ⟨argument, inside, there⟩)
  · exact List.forall_mem_flatMap.1 (allInert_callbackParameters spelled h)

theorem allInert_enumerationDeclaration {enumeration : Enumeration}
    (h : AllInert enumeration.texts) :
    AllInert (enumerationDeclaration naming enumeration).texts := by
  simp only [Enumeration.texts, AllInert, List.forall_mem_cons, List.forall_mem_flatMap] at h
  obtain ⟨named, entries⟩ := h
  simp only [enumerationDeclaration, Declaration.texts, AllInert, List.forall_mem_append,
    List.forall_mem_cons, List.flatMap_map, List.forall_mem_flatMap]
  refine ⟨⟨spelled.typeName named, spelled.enumerator named (by decide), by decide,
    spelled.macroName (by decide), List.forall_mem_nil _⟩, fun entry inside => ?_⟩
  obtain ⟨entryName, entryValue, _⟩ := entries entry inside
  exact ⟨spelled.enumerator named entryName, inert_entryLiteral entryValue, List.forall_mem_nil _⟩

theorem allInert_chainFields {struct : Struct} :
    AllInert ((chainFields naming struct).flatMap Declarator.texts) := by
  have chained : Inert naming.chainedStruct := spelled.typeName (by decide)
  have chainedOut : Inert naming.chainedStructOut := spelled.typeName (by decide)
  simp only [AllInert, List.forall_mem_flatMap]
  intro field inside
  simp only [chainFields, List.mem_append, List.mem_ite_nil_right, List.mem_singleton] at inside
  rcases inside with (⟨_, rfl⟩ | ⟨_, rfl⟩) | ⟨_, rfl⟩ <;>
    simp [Declarator.texts, chained, chainedOut] <;> decide

theorem allInert_memberField {part : Member} (h : AllInert part.texts) :
    AllInert (memberField resolved naming part).texts := by
  simp only [Member.texts, AllInert, List.forall_mem_append, List.forall_mem_cons] at h
  obtain ⟨⟨⟨⟨named, typed, _⟩, annotated⟩, _⟩, _⟩ := h
  simp only [Declarator.texts, memberField, AllInert, List.forall_mem_append,
    List.forall_mem_singleton]
  refine ⟨⟨⟨?_, inert_cType spelled typed⟩, annotated⟩, named⟩
  exact allInert_ite (spelled.macroName (by decide))

theorem allInert_structDeclaration {struct : Struct} (h : AllInert struct.texts) :
    AllInert (structDeclaration resolved naming struct).texts := by
  simp only [Struct.texts, AllInert, List.forall_mem_append, List.forall_mem_cons,
    List.forall_mem_flatMap] at h
  obtain ⟨⟨⟨named, members⟩, _⟩, _⟩ := h
  simp only [structDeclaration, Declaration.texts, AllInert, List.forall_mem_append,
    List.forall_mem_cons, List.flatMap_append, List.flatMap_map, List.forall_mem_flatMap]
  refine ⟨⟨spelled.typeName named, spelled.macroName (by decide), List.forall_mem_nil _⟩, ?_, ?_⟩
  · exact List.forall_mem_flatMap.1 (allInert_chainFields spelled)
  · intro part inside
    exact allInert_memberField spelled (members part inside)

theorem allInert_chainHeader {name annotation : String} (named : Inert name)
    (annotated : Inert annotation) : AllInert (chainHeader naming name annotation).texts := by
  have kind : Inert (naming.typeName "SType") := spelled.typeName (by decide)
  have mark : Inert naming.structureAttribute := spelled.macroName (by decide)
  change AllInert [name, naming.structureAttribute, "struct", name, annotation, "next",
    naming.typeName "SType", "sType"]
  simp only [AllInert, List.forall_mem_cons]
  exact ⟨named, mark, by decide, named, annotated, by decide, kind, by decide,
    List.forall_mem_nil _⟩

end Parts

/-! ## Declarations of a header -/

/-- The texts that a resolved schema gives to a header are inert. -/
structure InertSource (resolved : Resolved) : Prop where
  texts : AllInert resolved.schema.texts
  order : AllInert resolved.structOrder

theorem inertSource_of_ofSchema {schema : Schema} (h : AllInert schema.texts)
    (ordered : Resolved.ofSchema schema = .ok resolved) : InertSource resolved := by
  obtain ⟨depths, _, rfl⟩ := Resolved.ofSchema_eq_ok ordered
  refine ⟨h, fun name inside => ?_⟩
  obtain ⟨struct, there, rfl⟩ := mem_structOrder_iff.1 inside
  obtain ⟨definition, declared, isStruct⟩ := List.mem_filterMap.1 there
  cases definition <;> cases isStruct
  exact (allInert_texts_iff.1 h).2.2.1 _ declared _ (by simp [TypeDef.texts, Struct.texts])

namespace InertSource

variable (source : InertSource resolved)

include source

theorem inert_namingOf : (namingOf resolved).Inert :=
  Naming.inert_ofPrefix (allInert_texts_iff.1 source.texts).1

theorem allInert_struct {struct : Struct} (inside : struct ∈ resolved.structsInOrder) :
    AllInert struct.texts := by
  obtain ⟨name, _, found⟩ := List.mem_filterMap.1 inside
  obtain ⟨definition, there, isStruct⟩ := Option.bind_eq_some_iff.1 found
  obtain ⟨place, _, declared⟩ := Option.bind_eq_some_iff.1 there
  cases definition <;> cases isStruct
  exact (allInert_texts_iff.1 source.texts).2.2.1 _ (List.mem_of_getElem? declared)

theorem allInert_group {group : OwnerGroup} (inside : group ∈ ownerGroups resolved) :
    Inert group.owner ∧ ∀ function ∈ group.functions, AllInert function.texts := by
  obtain ⟨_, _, _, free, _, objects⟩ := allInert_texts_iff.1 source.texts
  simp only [ownerGroups, List.mem_filter, List.mem_append, List.mem_singleton, List.mem_map]
    at inside
  rcases inside with ⟨(rfl | ⟨object, there, rfl⟩) | ⟨struct, there, rfl⟩, _⟩
  · have unnamed : Inert "" := by decide
    exact ⟨unnamed, fun function own => free function (List.mem_mergeSort.1 own)⟩
  · have texts := objects object (List.mem_mergeSort.1 there)
    refine ⟨texts _ List.mem_cons_self, fun function own => ?_⟩
    exact Object.allInert_of_mem_allMethods texts own
  · have texts := source.allInert_struct there
    refine ⟨texts _ (by simp [Struct.texts]), fun function own text used => texts text ?_⟩
    simp only [Struct.texts, List.mem_append, List.mem_flatMap]
    exact .inl (.inr ⟨function, own, used⟩)

/-- Every declaration of a header is put together from inert texts. -/
theorem allInert_declaration {kind : SectionKind} {guard : String} {declaration : Declaration}
    (inside : .declaration declaration ∈ kind.items resolved (namingOf resolved) guard) :
    AllInert declaration.texts := by
  have spelled := source.inert_namingOf
  obtain ⟨_, constants, types, _, pointers, objects⟩ := allInert_texts_iff.1 source.texts
  cases kind <;> simp only [SectionKind.items, procSection, prototypeSection,
    declaration_mem_paragraph, declaration_mem_forwardSection, declaration_mem_structSection,
    declaration_mem_ownerBlock] at inside
  case constants =>
      obtain ⟨constant, there, rfl⟩ := List.mem_map.1 inside
      have texts := constants constant (List.mem_mergeSort.1 there)
      simp only [Constant.texts, AllInert, List.forall_mem_cons] at texts
      obtain ⟨named, _, valued, _⟩ := texts
      simp only [Declaration.texts, AllInert, List.forall_mem_cons]
      exact ⟨spelled.macroName named.screamingSnake, inert_constantLiteral valued,
        List.forall_mem_nil _⟩
  case valueTypes =>
      obtain ⟨type, there, rfl⟩ := List.mem_map.1 inside
      obtain ⟨definition, declared, isValue⟩ := List.mem_filterMap.1 (List.mem_mergeSort.1 there)
      cases definition <;> cases isValue
      have texts := types _ declared
      simp only [TypeDef.texts, AllInert, List.forall_mem_cons] at texts
      obtain ⟨named, underlying, _⟩ := texts
      simp only [valueDeclaration, Declaration.texts, AllInert, List.forall_mem_cons]
      exact ⟨inert_cType spelled underlying, spelled.typeName named, List.forall_mem_nil _⟩
  case handles =>
      obtain ⟨object, there, rfl⟩ := List.mem_map.1 inside
      have named := objects object (List.mem_mergeSort.1 there) _ List.mem_cons_self
      simp only [handleDeclaration, Declaration.texts, AllInert, List.forall_mem_cons]
      exact ⟨spelled.handleTag named, spelled.typeName named, spelled.macroName (by decide),
        List.forall_mem_nil _⟩
  case forwardDeclarations =>
      obtain ⟨name, there, rfl⟩ := List.mem_map.1 inside
      exact List.forall_mem_singleton.2 (spelled.typeName (source.order name there))
  case enumerations =>
      obtain ⟨enumeration, there, written⟩ := List.mem_flatMap.1 inside
      obtain ⟨definition, declared, isEnumeration⟩ := List.mem_filterMap.1 there
      cases definition <;> cases isEnumeration
      rw [declaration_mem_paragraph, List.mem_singleton] at written
      subst written
      exact allInert_enumerationDeclaration spelled (types _ declared)
  case bitmasks =>
      obtain ⟨bitmask, there, written⟩ := List.mem_flatMap.1 inside
      obtain ⟨definition, declared, isBitmask⟩ := List.mem_filterMap.1 there
      cases definition <;> cases isBitmask
      have texts := types _ declared
      rw [declaration_mem_paragraph, List.mem_cons, List.mem_singleton] at written
      rcases written with rfl | rfl
      · exact allInert_enumerationDeclaration spelled texts
      · have scalar : Inert (TypeRef.reference "Flags").name := by decide
        simp only [flagsDeclaration, Declaration.texts, AllInert, List.forall_mem_cons]
        exact ⟨inert_cType spelled scalar, spelled.flagsName (texts _ List.mem_cons_self),
          spelled.macroName (by decide), List.forall_mem_nil _⟩
  case functionPointers =>
      obtain ⟨function, there, rfl⟩ := List.mem_map.1 inside
      have texts := pointers function (List.mem_mergeSort.1 there)
      simp only [functionPointerDeclaration, Declaration.texts, AllInert, List.forall_mem_append,
        List.forall_mem_cons]
      exact ⟨⟨spelled.typeName (texts _ List.mem_cons_self), spelled.macroName (by decide),
        List.forall_mem_nil _⟩, allInert_signatureOf spelled (by decide) texts⟩
  case structures =>
      rcases inside with header | ⟨struct, there, rfl⟩
      · rw [chainHeaders, List.mem_cons, List.mem_singleton] at header
        rcases header with rfl | rfl
        · exact allInert_chainHeader spelled (spelled.typeName (by decide)) (by decide)
        · exact allInert_chainHeader spelled (spelled.typeName (by decide)) (by decide)
      · exact allInert_structDeclaration spelled (source.allInert_struct there)
  case procs =>
      obtain ⟨group, there, function, own, rfl⟩ := inside
      obtain ⟨owned, functions⟩ := source.allInert_group there
      have texts := functions function own
      simp only [procDeclaration, Declaration.texts, AllInert, List.forall_mem_append,
        List.forall_mem_cons]
      exact ⟨⟨spelled.procName owned (texts _ List.mem_cons_self), spelled.macroName (by decide),
        List.forall_mem_nil _⟩, allInert_signatureOf spelled owned texts⟩
  case prototypes =>
      obtain ⟨group, there, function, own, rfl⟩ := inside
      obtain ⟨owned, functions⟩ := source.allInert_group there
      have texts := functions function own
      simp only [prototypeDeclaration, Declaration.texts, AllInert, List.forall_mem_append,
        List.forall_mem_cons]
      exact ⟨⟨spelled.macroName (by decide), spelled.functionName owned (texts _ List.mem_cons_self),
        spelled.macroName (by decide), List.forall_mem_nil _⟩,
        allInert_signatureOf spelled owned texts⟩
  -- the other sections hold lines only
  all_goals
    simp [banner, guardOpen, guardClose, exportSelection, featureGuards, includes, linkageOpen,
      linkageClose, Item.blank, Item.directive] at inside

end InertSource

end Header

end ApiHeader
