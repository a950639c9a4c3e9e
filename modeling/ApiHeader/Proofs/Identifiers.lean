/-
# Names that clash

Exported functions, enumerators and macros are named by putting names of the description
together: an owner and its method, an enumeration and its entry, the words of a constant.
Validation compares names of the description only, so it keeps the parts of one owner
apart and says nothing about what different owners put together. This module says exactly
which valid descriptions introduce a name twice.

Owners whose names differ still meet if one name begins with the other and a method makes
up for the difference. Enumerators have an underscore after the owner, so there the longer
owner has to go on with an underscore; an entry may also meet the enumerator that closes
every list. Constants meet if they have the same words.
-/

import ApiHeader.Proofs.Exports

namespace ApiHeader

open Schema Header Text

variable {schema : Schema} {resolved : Resolved} {options : Options} {naming : Naming}

/-! ## Names put together -/

/-- Two ways of cutting one name differ by a piece that changes sides. -/
theorem append_eq_append_iff {first second ending other : String} :
    first ++ ending = second ++ other ↔
      (∃ rest, second = first ++ rest ∧ ending = rest ++ other) ∨
        ∃ rest, first = second ++ rest ∧ other = rest ++ ending := by
  simp only [← String.toList_inj, String.toList_append, List.append_eq_append_iff]
  constructor
  · rintro (⟨rest, longer, taken⟩ | ⟨rest, longer, taken⟩)
    · exact .inl ⟨String.ofList rest, by simpa using longer, by simpa using taken⟩
    · exact .inr ⟨String.ofList rest, by simpa using longer, by simpa using taken⟩
  · rintro (⟨rest, longer, taken⟩ | ⟨rest, longer, taken⟩)
    · exact .inl ⟨rest.toList, longer, taken⟩
    · exact .inr ⟨rest.toList, longer, taken⟩

/-- With a separator in between, the piece that changes sides ends at a separator too. -/
theorem joined_eq_joined_iff {first second ending other : String} :
    first ++ "_" ++ ending = second ++ "_" ++ other ↔
      (first = second ∧ ending = other) ∨
        (∃ rest, second = first ++ "_" ++ rest ∧ ending = rest ++ "_" ++ other) ∨
        ∃ rest, first = second ++ "_" ++ rest ∧ other = rest ++ "_" ++ ending := by
  -- what stands before the second separator is empty or begins with the first one
  have cut {rest ending other : String} (same : "_" ++ ending = rest ++ ("_" ++ other)) :
      (rest = "" ∧ ending = other) ∨
        ∃ more, rest = "_" ++ more ∧ ending = more ++ ("_" ++ other) := by
    simp only [← String.toList_inj, String.toList_append] at same ⊢
    cases chars : rest.toList with
    | nil => exact .inl ⟨rfl, by simpa [chars] using same⟩
    | cons first more =>
        obtain ⟨rfl, taken⟩ : '_' = first ∧ ending.toList = more ++ '_' :: other.toList := by
          simpa [chars] using same
        exact .inr ⟨String.ofList more, by simp, by simpa using taken⟩
  simp only [String.append_assoc]
  constructor
  · intro same
    rcases append_eq_append_iff.1 same with ⟨rest, rfl, taken⟩ | ⟨rest, rfl, taken⟩
    · rcases cut taken with ⟨rfl, rfl⟩ | ⟨more, rfl, rfl⟩
      · exact .inl ⟨by simp, rfl⟩
      · exact .inr (.inl ⟨more, rfl, rfl⟩)
    · rcases cut taken with ⟨rfl, rfl⟩ | ⟨more, rfl, rfl⟩
      · exact .inl ⟨by simp, rfl⟩
      · exact .inr (.inr ⟨more, rfl, rfl⟩)
  · rintro (⟨rfl, rfl⟩ | ⟨rest, rfl, rfl⟩ | ⟨rest, rfl, rfl⟩) <;> simp only [String.append_assoc]

/-- Names that are put together from owners and labels are distinct if those of one owner
are and no two owners meet. -/
theorem nodup_owned_iff {α : Type} {owners : List α} {labels : α → List String}
    {name : α → String → String} {meet : α → α → Prop}
    (own : ∀ owner, Function.Injective (name owner))
    (meets : ∀ a b, meet a b ↔ ∃ x ∈ labels a, ∃ y ∈ labels b, name a x = name b y) :
    (owners.flatMap fun owner => (labels owner).map (name owner)).Nodup ↔
      (∀ owner ∈ owners, (labels owner).Nodup) ∧ owners.Pairwise fun a b => ¬ meet a b := by
  rw [List.nodup_flatMap]
  refine and_congr (forall₂_congr fun owner _ => List.nodup_map_iff (own owner)) ?_
  refine List.Pairwise.iff fun a b => ?_
  rw [Function.onFun_apply, List.disjoint_iff_ne, meets]
  simp

namespace Header

/-! ## Names in a header -/

/-- The exported function that a declaration introduces. -/
def Declaration.exports : Declaration → List String
  | .prototype _ name _ _ => [name]
  | _ => []

/-- The enumerators that a declaration introduces, the closing one included. -/
def Declaration.enumerators : Declaration → List String
  | .enumeration _ enumerators last _ => enumerators.map Prod.fst ++ [last.1]
  | _ => []

/-- The macro that a declaration defines as a constant. -/
def Declaration.macros : Declaration → List String
  | .constant name _ => [name]
  | _ => []

section Names

variable (names : Declaration → List String)

/-- The names that the declarations among some pieces introduce. -/
def namesIn (items : List Item) : List String :=
  items.flatMap fun
    | .declaration declaration => names declaration
    | .line _ => []

/-- The names that the declarations of a header introduce. -/
def introduced (options : Options) (resolved : Resolved) : List String :=
  namesIn names (pieces options resolved)

theorem namesIn_append (first second : List Item) :
    namesIn names (first ++ second) = namesIn names first ++ namesIn names second :=
  List.flatMap_append

theorem namesIn_flatMap {α : Type} (elements : List α) (items : α → List Item) :
    namesIn names (elements.flatMap items) =
      elements.flatMap fun element => namesIn names (items element) :=
  List.flatMap_assoc

theorem namesIn_paragraph (declarations : List Declaration) :
    namesIn names (paragraph declarations) = declarations.flatMap names := by
  rw [paragraph]
  split
  · next empty => rw [List.isEmpty_iff.1 empty]; rfl
  · rw [namesIn_append, namesIn, List.flatMap_map]
    exact List.append_nil _

/-- The headings in a block do not matter. -/
theorem namesIn_eq_headed (heading : Option String) (items : List Item) :
    namesIn names items = (headed heading items).flatMap fun entry => names entry.2 := by
  induction items generalizing heading with
  | nil => rfl
  | cons item items ih =>
      cases item with
      | declaration declaration => exact congrArg _ (ih heading)
      | line content => cases content <;> exact ih _

/-- Only the sections that hold such declarations introduce names. -/
theorem introduced_eq {kinds : List SectionKind}
    (only : ∀ declaration, names declaration ≠ [] → declaration.sectionKinds ⊆ kinds)
    {options : Options} (place : options.layout.filter (fun kind => kind ∈ kinds) = kinds)
    (resolved : Resolved) :
    introduced names options resolved = kinds.flatMap fun kind =>
      namesIn names (kind.items resolved (namingOf resolved) (guardOf options resolved)) := by
  rw [introduced, pieces, sections, List.flatMap_map, namesIn_flatMap]
  conv_rhs => rw [← place]
  refine (flatMap_filter fun kind _ elsewhere => ?_).symm
  refine List.flatMap_eq_nil_iff.2 fun item inside => ?_
  cases item with
  | line content => rfl
  | declaration declaration =>
      by_contra named
      exact of_decide_eq_false elsewhere (only declaration named (mem_sectionKinds inside))

end Names

/-! ## Functions -/

/-- The groups of functions that can be exported, as the description has them. -/
def owners (resolved : Resolved) : List OwnerGroup :=
  [⟨"", resolved.schema.freeFunctions⟩] ++
    resolved.schema.objects.map (fun object => ⟨object.name, object.allMethods.toList⟩) ++
    resolved.structsInOrder.map fun struct => ⟨struct.name, struct.methods.toList⟩

namespace OwnerGroup

/-- The names of the functions of an owner. -/
def names (group : OwnerGroup) : List String :=
  group.functions.map Function.name

/-- The name of the second owner is that of the first and more, and what is more begins the
name of a function of the first owner that goes on as one of the second. -/
def RunsInto (first second : OwnerGroup) : Prop :=
  ∃ rest, second.owner = first.owner ++ rest ∧ ∃ name ∈ second.names, rest ++ name ∈ first.names

/-- Functions of both owners are exported under one name. -/
def Collide (first second : OwnerGroup) : Prop :=
  first.RunsInto second ∨ second.RunsInto first

theorem collide_iff {first second : OwnerGroup} :
    first.Collide second ↔
      ∃ x ∈ first.names, ∃ y ∈ second.names, first.owner ++ x = second.owner ++ y := by
  simp only [append_eq_append_iff]
  constructor
  · rintro (⟨rest, longer, y, there, here⟩ | ⟨rest, longer, x, here, there⟩)
    · exact ⟨rest ++ y, here, y, there, .inl ⟨rest, longer, rfl⟩⟩
    · exact ⟨x, here, rest ++ x, there, .inr ⟨rest, longer, rfl⟩⟩
  · rintro ⟨x, here, y, there, ⟨rest, longer, rfl⟩ | ⟨rest, longer, rfl⟩⟩
    · exact .inl ⟨rest, longer, y, there, here⟩
    · exact .inr ⟨rest, longer, x, here, there⟩

instance (first second : OwnerGroup) : Decidable (first.Collide second) :=
  decidable_of_iff _ collide_iff.symm

end OwnerGroup

theorem functionName_eq_iff {a b x y : String} :
    naming.functionName a x = naming.functionName b y ↔ a ++ x = b ++ y := by
  rw [Naming.functionName, Naming.functionName, String.append_assoc, String.append_assoc,
    String.append_right_inj]

theorem exports_perm (options : Options) (resolved : Resolved) :
    (introduced Declaration.exports options resolved).Perm
      ((owners resolved).flatMap fun group =>
        group.names.map ((namingOf resolved).functionName group.owner)) := by
  have only : ∀ declaration : Declaration,
      declaration.exports ≠ [] → declaration.sectionKinds ⊆ [.prototypes] := by
    rintro ⟨⟩ named <;> simp_all [Declaration.exports, Declaration.sectionKinds]
  have place : options.layout.filter (fun kind => kind ∈ [.prototypes]) =
      [SectionKind.prototypes] := by
    rw [Options.layout]
    cases options.linkage <;> rfl
  have listed : introduced Declaration.exports options resolved =
      (grouped (ownerGroups resolved)).map fun entry =>
        (namingOf resolved).functionName entry.1 entry.2.name := by
    rw [introduced_eq _ only place, List.flatMap_singleton, namesIn_eq_headed _ none,
      SectionKind.items, (blocksList_ownerGroups resolved _).prototypes, List.flatMap_map]
    exact List.map_eq_flatMap.symm
  have described : (grouped (ownerGroups resolved)).Perm (grouped (owners resolved)) := by
    have same : grouped (owners resolved) = functionsOf resolved.schema.freeFunctions
        resolved.schema.objects resolved.structsInOrder := by
      simp [grouped, owners, functionsOf, List.flatMap_map]
    rw [grouped_ownerGroups, same]
    exact functionsOf_perm (List.mergeSort_perm _ _) (List.mergeSort_perm _ _) (List.Perm.refl _)
  rw [listed]
  refine (described.map _).trans (List.Perm.of_eq ?_)
  simp [grouped, OwnerGroup.names, List.map_flatMap, Function.comp_def]

/-- Functions of one owner have names of their own. -/
theorem owners_names_nodup (distinct : (resolved.schema.freeFunctions.map Function.name).Nodup) :
    ∀ group ∈ owners resolved, group.names.Nodup := by
  have ordered (methods : Methods) : (methods.toList.map Function.name).Nodup :=
    List.pairwise_map.2 (methods.ordered.imp fun less => Std.ne_of_lt less)
  simp only [owners, List.forall_mem_append, List.forall_mem_singleton, List.forall_mem_map]
  exact ⟨⟨distinct, fun object _ => ordered object.allMethods⟩, fun struct _ =>
    ordered struct.methods⟩

theorem nodup_exports_iff (options : Options)
    (distinct : (resolved.schema.freeFunctions.map Function.name).Nodup) :
    (introduced Declaration.exports options resolved).Nodup ↔
      (owners resolved).Pairwise fun first second => ¬ first.Collide second := by
  rw [(exports_perm options resolved).nodup_iff, nodup_owned_iff _ _,
    and_iff_right (owners_names_nodup distinct)]
  · intro group x y same
    exact String.append_right_inj _ |>.1 (functionName_eq_iff.1 same)
  · intro first second
    simp only [OwnerGroup.collide_iff, functionName_eq_iff]

end Header

/-! ## Enumerators -/

namespace Schema.Enumeration

/-- What follows the name of an enumeration in its enumerators. -/
def labels (enumeration : Enumeration) : List String :=
  enumeration.entries.map Entry.name ++ ["Force32"]

/-- The name of the second enumeration is that of the first, an underscore and more, and what
is more begins the name of an entry of the first that goes on as an enumerator of the second. -/
def Reaches (first second : Enumeration) : Prop :=
  ∃ rest, second.name = first.name ++ "_" ++ rest ∧
    ∃ label ∈ second.labels, rest ++ "_" ++ label ∈ first.entries.map Entry.name

/-- Both enumerations have an enumerator of one name. -/
def Overlap (first second : Enumeration) : Prop :=
  first.name = second.name ∨ first.Reaches second ∨ second.Reaches first

theorem overlap_iff {first second : Enumeration} :
    first.Overlap second ↔ ∃ x ∈ first.labels, ∃ y ∈ second.labels,
      first.name ++ "_" ++ x = second.name ++ "_" ++ y := by
  have closing (enumeration : Enumeration) : "Force32" ∈ enumeration.labels :=
    List.mem_append_right _ List.mem_cons_self
  have declared {enumeration : Enumeration} {rest label : String} :
      rest ++ "_" ++ label ∈ enumeration.labels ↔
        rest ++ "_" ++ label ∈ enumeration.entries.map Entry.name := by
    -- the closing enumerator cannot be reached, for its name has no underscore
    have other : rest ++ "_" ++ label ≠ "Force32" := by
      intro same
      have inside : '_' ∈ "Force32".toList := by
        rw [← same]
        simp
      exact absurd inside (by decide)
    rw [labels, List.mem_append, List.mem_singleton, or_iff_left other]
  simp only [joined_eq_joined_iff]
  constructor
  · rintro (same | ⟨rest, longer, y, there, here⟩ | ⟨rest, longer, x, here, there⟩)
    · exact ⟨_, closing first, _, closing second, .inl ⟨same, rfl⟩⟩
    · exact ⟨_, declared.2 here, y, there, .inr (.inl ⟨rest, longer, rfl⟩)⟩
    · exact ⟨x, here, _, declared.2 there, .inr (.inr ⟨rest, longer, rfl⟩)⟩
  · rintro ⟨x, here, y, there, ⟨same, -⟩ | ⟨rest, longer, rfl⟩ | ⟨rest, longer, rfl⟩⟩
    · exact .inl same
    · exact .inr (.inl ⟨rest, longer, y, there, declared.1 here⟩)
    · exact .inr (.inr ⟨rest, longer, x, here, declared.1 there⟩)

instance (first second : Enumeration) : Decidable (first.Overlap second) :=
  decidable_of_iff _ overlap_iff.symm

theorem nodup_labels_iff {enumeration : Enumeration}
    (distinct : (enumeration.entries.map Entry.name).Nodup) :
    enumeration.labels.Nodup ↔ ∀ entry ∈ enumeration.entries, entry.name ≠ "Force32" := by
  rw [labels, List.nodup_append]
  simp [distinct]

end Schema.Enumeration

namespace Header

theorem enumerator_eq_iff {a b x y : String} :
    naming.enumerator a x = naming.enumerator b y ↔ a ++ "_" ++ x = b ++ "_" ++ y := by
  simp only [Naming.enumerator, String.append_assoc, String.append_right_inj]

/-- The enumerations and bitmasks of a schema. -/
def enumerationsIn (schema : Schema) : List Enumeration :=
  schema.enumerations ++ schema.bitmasks

theorem enumerators_eq (options : Options) (resolved : Resolved) :
    introduced Declaration.enumerators options resolved =
      (enumerationsIn resolved.schema).flatMap fun enumeration =>
        enumeration.labels.map ((namingOf resolved).enumerator enumeration.name) := by
  have only : ∀ declaration : Declaration, declaration.enumerators ≠ [] →
      declaration.sectionKinds ⊆ [.enumerations, .bitmasks] := by
    rintro ⟨⟩ named <;> simp_all [Declaration.enumerators, Declaration.sectionKinds]
  have place : options.layout.filter (fun kind => kind ∈ [.enumerations, .bitmasks]) =
      [SectionKind.enumerations, .bitmasks] := by
    rw [Options.layout]
    cases options.linkage <;> rfl
  have body (enumeration : Enumeration) :
      (enumerationDeclaration (namingOf resolved) enumeration).enumerators =
        enumeration.labels.map ((namingOf resolved).enumerator enumeration.name) := by
    simp [enumerationDeclaration, Declaration.enumerators, Enumeration.labels]
  have flags (bitmask : Enumeration) :
      (flagsDeclaration resolved (namingOf resolved) bitmask).enumerators = [] := rfl
  rw [introduced_eq _ only place, enumerationsIn, List.flatMap_append]
  simp [SectionKind.items, enumerationSection, bitmaskSection, namesIn_flatMap, namesIn_paragraph,
    body, flags]

theorem nodup_enumerators_iff (options : Options)
    (distinct : ∀ enumeration ∈ enumerationsIn resolved.schema,
      (enumeration.entries.map Entry.name).Nodup) :
    (introduced Declaration.enumerators options resolved).Nodup ↔
      (∀ enumeration ∈ enumerationsIn resolved.schema,
        ∀ entry ∈ enumeration.entries, entry.name ≠ "Force32") ∧
      (enumerationsIn resolved.schema).Pairwise fun first second => ¬ first.Overlap second := by
  rw [enumerators_eq, nodup_owned_iff _ _]
  · exact and_congr_left' (forall₂_congr fun enumeration inside =>
      Enumeration.nodup_labels_iff (distinct enumeration inside))
  · intro enumeration x y same
    exact String.append_right_inj _ |>.1 (enumerator_eq_iff.1 same)
  · intro first second
    simp only [Enumeration.overlap_iff, enumerator_eq_iff]

/-! ## Constants -/

theorem nodup_macros_iff (options : Options) (resolved : Resolved) :
    (introduced Declaration.macros options resolved).Nodup ↔
      (resolved.schema.constants.map fun constant => screamingSnake constant.name).Nodup := by
  have only : ∀ declaration : Declaration,
      declaration.macros ≠ [] → declaration.sectionKinds ⊆ [.constants] := by
    rintro ⟨⟩ named <;> simp_all [Declaration.macros, Declaration.sectionKinds]
  have place : options.layout.filter (fun kind => kind ∈ [.constants]) =
      [SectionKind.constants] := by
    rw [Options.layout]
    cases options.linkage <;> rfl
  have listed : introduced Declaration.macros options resolved =
      ((resolved.schema.constants.mergeSort fun a b => a.name ≤ b.name).map fun constant =>
        screamingSnake constant.name).map (namingOf resolved).macroName := by
    rw [introduced_eq _ only place, List.flatMap_singleton, SectionKind.items, namesIn_paragraph,
      constantDeclarations, List.flatMap_map, List.map_map]
    exact List.map_eq_flatMap.symm
  have own : Function.Injective (namingOf resolved).macroName :=
    fun x y same => String.append_right_inj _ |>.1 same
  rw [listed, List.nodup_map_iff own]
  exact ((List.mergeSort_perm _ _).map _).nodup_iff

end Header

/-- The header of a valid schema introduces an exported function, an enumerator or a constant
twice in these cases only: the functions of two owners collide, two enumerations overlap or an
entry has the name of the closing enumerator, two constants have the same words. -/
theorem introduced_nodup_iff (valid : schema.validate = .ok ()) :
    ∃ resolved, Resolved.ofSchema schema = .ok resolved ∧ ∀ options,
      ((introduced Declaration.exports options resolved).Nodup ↔
        (owners resolved).Pairwise fun first second => ¬ first.Collide second) ∧
      ((introduced Declaration.enumerators options resolved).Nodup ↔
        (∀ enumeration ∈ enumerationsIn schema,
          ∀ entry ∈ enumeration.entries, entry.name ≠ "Force32") ∧
        (enumerationsIn schema).Pairwise fun first second => ¬ first.Overlap second) ∧
      ((introduced Declaration.macros options resolved).Nodup ↔
        (schema.constants.map fun constant => screamingSnake constant.name).Nodup) := by
  obtain ⟨names, parts, depths⟩ := validate_eq_ok_iff.1 valid
  obtain ⟨resolved, ordered⟩ := Resolved.exists_ofSchema_iff.2 depths
  obtain rfl : resolved.schema = schema := by
    obtain ⟨depths, _, rfl⟩ := Resolved.ofSchema_eq_ok ordered
    rfl
  have entries : ∀ enumeration ∈ enumerationsIn resolved.schema,
      (enumeration.entries.map Entry.name).Nodup := by
    intro enumeration inside
    rcases List.mem_append.1 inside with inside | inside
    all_goals
      obtain ⟨definition, declared, found⟩ := List.mem_filterMap.1 inside
      cases definition <;> cases found
      exact parts _ declared
  exact ⟨resolved, ordered, fun options => ⟨nodup_exports_iff options (names .freeFunction),
    nodup_enumerators_iff options entries, nodup_macros_iff options resolved⟩⟩

/-- Owners, enumerations and constants whose names come close to a clash. -/
def neighbourSchema : Schema :=
  Schema.rebuildIndex {
    namePrefix := "P"
    constants := [⟨"aB", .primitive "int", "1"⟩, ⟨"a_c", .primitive "int", "2"⟩]
    types := [.enumeration { name := "A", entries := [⟨"B_C", "1"⟩, ⟨"Force", "2"⟩] },
      .enumeration { name := "A_B", entries := [⟨"D", "1"⟩] },
      .bitmask { name := "B", entries := [⟨"C", "1"⟩] },
      .struct { name := "AB", methods := Methods.empty.insert { name := "D" } }]
    freeFunctions := [{ name := "AC" }, { name := "ABC" }]
    objects := [{
      name := "A"
      methods := Methods.empty.insertAll [{ name := "B" }, { name := "D" }] }] }

theorem neighbourSchema_introduced :
    neighbourSchema.validate = .ok () ∧
      ∃ resolved, Resolved.ofSchema neighbourSchema = .ok resolved ∧ ∀ options,
        (introduced Declaration.exports options resolved).Nodup ∧
        (introduced Declaration.enumerators options resolved).Nodup ∧
        (introduced Declaration.macros options resolved).Nodup := by
  have valid : neighbourSchema.validate = .ok () := by decide +kernel
  have depths : neighbourSchema.structDepths = .ok ⟨[("AB", 0)]⟩ := by decide +kernel
  have order : Resolved.ofSchema neighbourSchema =
      .ok ⟨neighbourSchema, neighbourSchema.entityKinds, ⟨[("AB", 0)]⟩, ["AB"]⟩ := by
    have names : neighbourSchema.structOrder ⟨[("AB", 0)]⟩ = ["AB"] :=
      structOrder_eq_of_ascending (by decide +kernel) (by decide +kernel)
    rw [Resolved.ofSchema_of_structDepths depths, names]
  obtain ⟨resolved, ordered, all⟩ := introduced_nodup_iff valid
  obtain rfl := Except.ok.inj (order.symm.trans ordered)
  refine ⟨valid, _, order, fun options => ?_⟩
  obtain ⟨exports, enumerators, macros⟩ := all options
  exact ⟨exports.2 (by decide +kernel), enumerators.2 (by decide +kernel),
    macros.2 (by decide +kernel)⟩

/-- Names that differ where validation compares them, and clash where they are put
together. -/
def clashingDocument : String :=
  "<api><metadata><prefix><c>P</c></prefix></metadata>
    <defines>
      <define name='aB' type='int' value='1'/><define name='a_b' type='int' value='2'/>
    </defines>
    <types>
      <enum name='A'><entry name='B_C' value='1'/></enum>
      <enum name='A_B'><entry name='C' value='1'/></enum>
    </types>
    <free_functions><function name='AB'/></free_functions>
    <objects><object name='A'><methods><function name='B'/></methods></object></objects>
  </api>"

def clashingSchema : Schema :=
  Schema.rebuildIndex {
    namePrefix := "P"
    constants := [⟨"aB", .primitive "int", "1"⟩, ⟨"a_b", .primitive "int", "2"⟩]
    types := [.enumeration { name := "A", entries := [⟨"B_C", "1"⟩] },
      .enumeration { name := "A_B", entries := [⟨"C", "1"⟩] }]
    freeFunctions := [{ name := "AB" }]
    objects := [{ name := "A", methods := Methods.empty.insert { name := "B" } }] }

set_option maxRecDepth 10000 in
/-- A document may be loaded and valid, and yet its header introduces an exported function, an
enumerator and a constant twice. -/
theorem clashingDocument_introduced :
    Schema.load clashingDocument = .ok clashingSchema ∧ clashingSchema.validate = .ok () ∧
      ∃ resolved, Resolved.ofSchema clashingSchema = .ok resolved ∧ ∀ options,
        ¬ (introduced Declaration.exports options resolved).Nodup ∧
        ¬ (introduced Declaration.enumerators options resolved).Nodup ∧
        ¬ (introduced Declaration.macros options resolved).Nodup := by
  have text : Markup.events clashingDocument = Markup.eventsFrom [] _ :=
    Description.events_ofList (by decide)
  have loaded : Schema.load clashingDocument = .ok clashingSchema := by
    rewrite [Schema.load, text]
    decide +kernel
  have valid : clashingSchema.validate = .ok () := by decide +kernel
  have depths : clashingSchema.structDepths = .ok ⟨[]⟩ := by decide +kernel
  have order : Resolved.ofSchema clashingSchema =
      .ok ⟨clashingSchema, clashingSchema.entityKinds, ⟨[]⟩, []⟩ := by
    have names : clashingSchema.structOrder ⟨[]⟩ = [] :=
      structOrder_eq_of_ascending (by decide +kernel) (by decide +kernel)
    rw [Resolved.ofSchema_of_structDepths depths, names]
  refine ⟨loaded, valid, _, order, fun options => ⟨?_, ?_, ?_⟩⟩
  · rw [nodup_exports_iff options (by decide +kernel)]
    decide +kernel
  · rw [nodup_enumerators_iff options (by decide +kernel)]
    decide +kernel
  · rw [nodup_macros_iff]
    decide +kernel

end ApiHeader
