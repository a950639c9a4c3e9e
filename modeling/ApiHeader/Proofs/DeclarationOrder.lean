/-
# Structures are declared before their users

A structure can only embed what the compiler has seen in full. The order of
structures sorts by depth, and depth grows along every embedding, so whatever a
structure embeds, directly or through others, comes before it: in the list of
names, and hence in the text of the header, where both the forward declaration and
the body of the embedded structure end before the body of its user begins.

Names may be declared more than once and in any order. Every occurrence of a name
in the order is covered, and every body that is written for it.
-/

import ApiHeader.Proofs.Embedding
import ApiHeader.Proofs.Emission
import ApiHeader.Proofs.Sorting
import ApiHeader.Proofs.TypeIndex

namespace ApiHeader

open Schema Header

variable {schema : Schema} {resolved : Resolved} {options : Options}

/-! ## The order of names -/

namespace Schema

/-- The depth by which a name is sorted. -/
def depthIn (depths : Depths) (name : String) : Nat :=
  (depths.find? name).getD 0

theorem structOrder_pairwise (schema : Schema) (depths : Depths) :
    (schema.structOrder depths).Pairwise fun a b => depthIn depths a ≤ depthIn depths b :=
  pairwise_mergeSort_key (depthIn depths) _

theorem mem_structOrder_iff {depths : Depths} {name : String} :
    name ∈ schema.structOrder depths ↔ ∃ struct ∈ schema.structs, struct.name = name := by
  simp [structOrder]

/-- Every structure that can be looked up has a depth. -/
theorem exists_find?_of_structDepths {depths : Depths} (upToDate : schema.UpToDate)
    (found : schema.structDepths = .ok depths) {name : String}
    (known : (schema.struct? name).isSome) : ∃ depth, depths.find? name = some depth := by
  obtain ⟨struct, there⟩ := Option.isSome_iff_exists.1 known
  obtain ⟨inside, rfl⟩ := upToDate.struct?_eq_some there
  exact find?_of_structDepths found inside known

/-- The depths that are found are the heights. -/
theorem find?_structDepths_iff {depths : Depths} (upToDate : schema.UpToDate)
    (found : schema.structDepths = .ok depths) {name : String} {depth : Nat} :
    depths.find? name = some depth ↔ schema.IsHeight name depth := by
  constructor
  · exact sound_of_structDepths found name depth
  · intro height
    obtain ⟨recorded, there⟩ := exists_find?_of_structDepths upToDate found height.reached.isSome
    rw [there, height.unique (sound_of_structDepths found _ _ there)]

/-- Depth grows along every chain of embeddings. -/
theorem depthIn_lt_of_transGen {depths : Depths} (upToDate : schema.UpToDate)
    (found : schema.structDepths = .ok depths) {outer inner : String}
    (embedded : Relation.TransGen schema.Embeds outer inner) :
    depthIn depths inner < depthIn depths outer := by
  have height {name : String} (known : (schema.struct? name).isSome) :
      schema.IsHeight name (depthIn depths name) := by
    obtain ⟨depth, recorded⟩ := exists_find?_of_structDepths upToDate found known
    rw [depthIn, recorded]
    exact sound_of_structDepths found _ _ recorded
  have step {outer inner : String} (edge : schema.Embeds outer inner) :
      depthIn depths inner < depthIn depths outer :=
    (height edge.isSome_outer).lt_of_embeds (height edge.isSome_inner) edge
  induction embedded with
  | single edge => exact step edge
  | tail _ edge ih => exact Nat.lt_trans (step edge) ih

end Schema

theorem Resolved.ofSchema_eq_ok (h : Resolved.ofSchema schema = .ok resolved) :
    ∃ depths, schema.structDepths = .ok depths ∧
      resolved = ⟨schema, schema.entityKinds, depths, schema.structOrder depths⟩ := by
  obtain ⟨depths, found, same⟩ := bind_eq_ok_iff.1 h
  cases same
  exact ⟨depths, found, rfl⟩

/-- No name in the order is followed by one that it embeds. -/
theorem structOrder_pairwise_of_transGen (upToDate : schema.UpToDate)
    (ordered : Resolved.ofSchema schema = .ok resolved) {outer inner : String}
    (embedded : Relation.TransGen schema.Embeds outer inner) :
    resolved.structOrder.Pairwise fun a b => ¬ (a = outer ∧ b = inner) := by
  obtain ⟨depths, found, rfl⟩ := Resolved.ofSchema_eq_ok ordered
  have deeper := depthIn_lt_of_transGen upToDate found embedded
  refine (structOrder_pairwise schema depths).imp ?_
  rintro a b le ⟨rfl, rfl⟩
  exact Nat.not_le_of_lt deeper le

theorem ne_of_transGen (upToDate : schema.UpToDate)
    (ordered : Resolved.ofSchema schema = .ok resolved) {outer inner : String}
    (embedded : Relation.TransGen schema.Embeds outer inner) : inner ≠ outer := by
  obtain ⟨depths, found, rfl⟩ := Resolved.ofSchema_eq_ok ordered
  have deeper := depthIn_lt_of_transGen upToDate found embedded
  rintro rfl
  exact Nat.lt_irrefl _ deeper

/-- Where one element never stands before another, its places are larger. -/
theorem place_lt_of_pairwise {α : Type} {elements : List α} {early late : α}
    (differs : early ≠ late) (h : elements.Pairwise fun a b => ¬ (a = late ∧ b = early))
    {i j : Nat} (hi : elements[i]? = some early) (hj : elements[j]? = some late) : i < j := by
  obtain ⟨ibound, iget⟩ := List.getElem?_eq_some_iff.1 hi
  obtain ⟨jbound, jget⟩ := List.getElem?_eq_some_iff.1 hj
  by_contra notLess
  rcases Nat.lt_or_eq_of_le (Nat.le_of_not_lt notLess) with less | rfl
  · exact List.pairwise_iff_getElem.1 h j i jbound ibound less ⟨jget, iget⟩
  · exact differs (iget.symm.trans jget)

/-! ## The order of bodies -/

namespace Header

/-- Declarations of which the one never follows the other, neither in one section
nor from one section to a later one, are ordered in the text. -/
theorem declaredBefore_of_sections {first second : Declaration} (differs : first ≠ second)
    (within : ∀ kind, kind ∈ first.sectionKinds → kind ∈ second.sectionKinds →
      (kind.items resolved (namingOf resolved) (guardOf options resolved)).Pairwise fun a b =>
        ¬ (a = .declaration second ∧ b = .declaration first))
    (across : options.layout.Pairwise fun kind later =>
      kind ∈ second.sectionKinds → later ∉ first.sectionKinds) :
    DeclaredBefore options resolved first second := by
  apply declaredBefore_of_pairwise differs
  rw [pieces, sections, List.flatMap_map, List.pairwise_flatMap]
  constructor
  · intro kind _
    by_cases both : kind ∈ first.sectionKinds ∧ kind ∈ second.sectionKinds
    · exact within kind both.1 both.2
    · refine List.pairwise_of_forall_mem_list ?_
      rintro a inside b inside' ⟨rfl, rfl⟩
      exact both ⟨mem_sectionKinds inside', mem_sectionKinds inside⟩
  · refine across.imp ?_
    rintro kind later apart a inside b inside' ⟨rfl, rfl⟩
    exact apart (mem_sectionKinds inside) (mem_sectionKinds inside')

/-- The sections of a header come in the order in which their kinds are listed. -/
theorem layout_pairwise (options : Options) :
    options.layout.Pairwise fun kind later => kind.ctorIdx < later.ctorIdx := by
  rw [Options.layout]
  cases options.linkage <;> decide

theorem nullable_ne_struct (naming : Naming) : naming.nullable ≠ "struct" := by
  intro same
  have lengths := congrArg String.length same
  rw [Naming.nullable, Naming.macroName, String.length_append] at lengths
  have long : "NULLABLE".length = 8 := rfl
  have short : "struct".length = 6 := rfl
  omega

/-- The body of a described structure is told apart from the two structures that
lead chains by the qualifiers of its fields. -/
theorem structDeclaration_not_mem_chainHeaders (resolved : Resolved) (naming : Naming)
    (struct : Struct) : structDeclaration resolved naming struct ∉ chainHeaders naming := by
  have plain : ∀ field ∈ chainFields naming struct ++
      struct.members.map (memberField resolved naming), field.qualifiers ≠ ["struct"] := by
    intro field inside
    rcases List.mem_append.1 inside with chain | own
    · have none_there : field.qualifiers = [] := by
        simp only [chainFields, List.mem_append, List.mem_ite_nil_right, List.mem_singleton]
          at chain
        rcases chain with (⟨_, rfl⟩ | ⟨_, rfl⟩) | ⟨_, rfl⟩ <;> rfl
      simp [none_there]
    · obtain ⟨part, _, rfl⟩ := List.mem_map.1 own
      by_cases optional : part.optional <;> simp [memberField, optional, nullable_ne_struct]
  have led {name annotation : String}
      (same : structDeclaration resolved naming struct = chainHeader naming name annotation) :
      False := by
    obtain ⟨_, fields, _⟩ := Declaration.struct.inj same
    exact plain _ (fields ▸ List.mem_cons_self) rfl
  rw [chainHeaders, List.mem_cons, List.mem_singleton]
  rintro (same | same)
  · exact led same
  · exact led same

/-- Bodies come in the order of the structures. -/
theorem structSection_pairwise {naming : Naming} {early late : Struct}
    (differs : structDeclaration resolved naming early ≠ structDeclaration resolved naming late)
    (h : resolved.structsInOrder.Pairwise fun a b =>
      ¬ (structDeclaration resolved naming a = structDeclaration resolved naming late ∧
        structDeclaration resolved naming b = structDeclaration resolved naming early)) :
    (structSection resolved naming).Pairwise fun a b =>
      ¬ (a = .declaration (structDeclaration resolved naming late) ∧
        b = .declaration (structDeclaration resolved naming early)) := by
  have header {item : Item} (inside : item ∈ (chainHeaders naming).flatMap fun declaration =>
      paragraph [declaration]) : item ≠ .declaration (structDeclaration resolved naming late) := by
    rintro rfl
    obtain ⟨declaration, there, same⟩ := List.mem_flatMap.1 inside
    rw [declaration_mem_paragraph, List.mem_singleton] at same
    exact structDeclaration_not_mem_chainHeaders resolved naming late (same ▸ there)
  have body {struct other : Struct}
      (inside : .declaration (structDeclaration resolved naming other) ∈
        chainComment naming struct ++ paragraph [structDeclaration resolved naming struct]) :
      structDeclaration resolved naming struct = structDeclaration resolved naming other := by
    rcases List.mem_append.1 inside with comment | own
    · exact absurd comment (declaration_not_mem_chainComment naming struct)
    · rw [declaration_mem_paragraph, List.mem_singleton] at own
      exact own.symm
  rw [structSection, List.pairwise_append]
  refine ⟨?_, List.pairwise_flatMap.2 ⟨?_, ?_⟩, ?_⟩
  · refine List.pairwise_of_forall_mem_list ?_
    rintro a inside b _ ⟨same, _⟩
    exact header inside same
  · intro struct _
    refine List.pairwise_of_forall_mem_list ?_
    rintro a inside b inside' ⟨rfl, rfl⟩
    exact differs ((body inside').symm.trans (body inside))
  · refine h.imp ?_
    rintro struct other apart a inside b inside' ⟨rfl, rfl⟩
    exact apart ⟨body inside, body inside'⟩
  · rintro a inside b _ ⟨same, _⟩
    exact header inside same

end Header

/-- The body of one structure is never followed by that of a structure it embeds. -/
theorem structsInOrder_pairwise_of_transGen (upToDate : schema.UpToDate)
    (ordered : Resolved.ofSchema schema = .ok resolved) {outer inner : String}
    (embedded : Relation.TransGen schema.Embeds outer inner) :
    resolved.structsInOrder.Pairwise fun a b => ¬ (a.name = outer ∧ b.name = inner) := by
  have sameSchema : resolved.schema = schema := by
    obtain ⟨depths, _, rfl⟩ := Resolved.ofSchema_eq_ok ordered
    rfl
  rw [Resolved.structsInOrder, List.pairwise_filterMap, sameSchema]
  refine (structOrder_pairwise_of_transGen upToDate ordered embedded).imp ?_
  rintro a b apart whole there part there' ⟨rfl, rfl⟩
  obtain ⟨_, named⟩ := upToDate.struct?_eq_some there
  obtain ⟨_, named'⟩ := upToDate.struct?_eq_some there'
  exact apart ⟨named.symm, named'.symm⟩

/-! ## The order in the text -/

namespace Header

theorem structDeclaration_ne {naming : Naming} {first second : Struct}
    (differs : first.name ≠ second.name) :
    structDeclaration resolved naming first ≠ structDeclaration resolved naming second := by
  intro same
  obtain ⟨names, _, _⟩ := Declaration.struct.inj same
  exact differs (String.append_right_inj naming.typePrefix |>.1 names)

/-- Forward declarations stand before all bodies. -/
theorem forward_declaredBefore (tag : String) (struct : Struct) :
    DeclaredBefore options resolved (.forward tag)
      (structDeclaration resolved (namingOf resolved) struct) := by
  apply declaredBefore_of_sections
  · rintro ⟨⟩
  · intro kind first second
    rw [List.mem_singleton.1 first] at second
    cases second with
    | tail _ nothing => cases nothing
  · refine (layout_pairwise options).imp ?_
    intro kind later earlier second first
    rw [List.mem_singleton.1 second, List.mem_singleton.1 first] at earlier
    exact absurd earlier (by decide)

/-- Bodies stand in the order of the structures. -/
theorem struct_declaredBefore {early late : Struct} (differs : early.name ≠ late.name)
    (h : resolved.structsInOrder.Pairwise fun a b => ¬ (a.name = late.name ∧ b.name = early.name)) :
    DeclaredBefore options resolved (structDeclaration resolved (namingOf resolved) early)
      (structDeclaration resolved (namingOf resolved) late) := by
  have named {first second : Struct}
      (same : structDeclaration resolved (namingOf resolved) first =
        structDeclaration resolved (namingOf resolved) second) : first.name = second.name := by
    by_contra apart
    exact structDeclaration_ne apart same
  apply declaredBefore_of_sections (structDeclaration_ne differs)
  · intro kind first _
    rw [List.mem_singleton.1 first]
    apply structSection_pairwise (structDeclaration_ne differs)
    refine h.imp ?_
    rintro a b apart ⟨same, same'⟩
    exact apart ⟨named same, named same'⟩
  · refine (layout_pairwise options).imp ?_
    intro kind later earlier second first
    rw [List.mem_singleton.1 second, List.mem_singleton.1 first] at earlier
    exact Nat.lt_irrefl _ earlier

theorem mem_pieces {kind : SectionKind} {item : Item} (inside : kind ∈ options.layout)
    (h : item ∈ kind.items resolved (namingOf resolved) (guardOf options resolved)) :
    item ∈ pieces options resolved := by
  rw [pieces, sections, List.flatMap_map]
  exact List.mem_flatMap.2 ⟨kind, inside, h⟩

end Header

/-- In the header of a loaded description every structure is declared before the
structures that embed it, directly or through others. -/
theorem embedded_declared_first {document : String} (loaded : Schema.load document = .ok schema)
    (ordered : Resolved.ofSchema schema = .ok resolved) {outer inner : String}
    (embedded : Relation.TransGen schema.Embeds outer inner) :
    inner ∈ resolved.structOrder ∧
    (∀ i j : Nat, resolved.structOrder[i]? = some inner → resolved.structOrder[j]? = some outer →
      i < j) ∧
    ∀ (options : Options) (whole part : Struct),
      schema.struct? outer = some whole → schema.struct? inner = some part →
      let forward := Declaration.forward ((namingOf resolved).typeName inner)
      let body := structDeclaration resolved (namingOf resolved)
      (∃ start, DeclaredAt options resolved forward start) ∧
      (∃ start, DeclaredAt options resolved (body part) start) ∧
      DeclaredBefore options resolved forward (body whole) ∧
      DeclaredBefore options resolved (body part) (body whole) := by
  have upToDate := upToDate_of_load loaded
  have differs := ne_of_transGen upToDate ordered embedded
  have inOrder : inner ∈ resolved.structOrder := by
    obtain ⟨depths, _, rfl⟩ := Resolved.ofSchema_eq_ok ordered
    obtain ⟨last, _, edge⟩ := Relation.TransGen.tail'_iff.1 embedded
    obtain ⟨part, there⟩ := Option.isSome_iff_exists.1 edge.isSome_inner
    exact mem_structOrder_iff.2 ⟨part, upToDate.struct?_eq_some there⟩
  refine ⟨inOrder, fun i j => ?_, ?_⟩
  · exact place_lt_of_pairwise differs (structOrder_pairwise_of_transGen upToDate ordered embedded)
  · intro options whole part there there' forward body
    obtain ⟨_, rfl⟩ := upToDate.struct?_eq_some there
    obtain ⟨_, rfl⟩ := upToDate.struct?_eq_some there'
    have layout : .forwardDeclarations ∈ options.layout ∧ .structures ∈ options.layout := by
      simp [Options.layout]
    have found : part ∈ resolved.structsInOrder := by
      have sameSchema : resolved.schema = schema := by
        obtain ⟨depths, _, rfl⟩ := Resolved.ofSchema_eq_ok ordered
        rfl
      exact List.mem_filterMap.2 ⟨part.name, inOrder, sameSchema ▸ there'⟩
    refine ⟨?_, ?_, forward_declaredBefore _ _, struct_declaredBefore differs
      (structsInOrder_pairwise_of_transGen upToDate ordered embedded)⟩
    · apply declaredAt_of_mem (mem_pieces layout.1 _)
      exact declaration_mem_forwardSection.2 (List.mem_map.2 ⟨part.name, inOrder, rfl⟩)
    · apply declaredAt_of_mem (mem_pieces layout.2 _)
      exact declaration_mem_structSection.2 (.inr ⟨part, found, rfl⟩)

/-- A scene that embeds a vector, and a pose which embeds the vector as well. -/
def sceneDocument : String :=
  "<api><metadata><prefix><c>G</c></prefix></metadata><types>" ++
  "<struct name='Scene'><member name='eye' type='Pose' annotation='*'/>" ++
  "<member name='up' type='Vec'/></struct>" ++
  "<struct name='Pose'><member name='at' type='Vec'/></struct><struct name='Vec'/></types></api>"

def vecStruct : Struct := { name := "Vec" }

def poseStruct : Struct :=
  { name := "Pose", members := [{ name := "at", type := .reference "Vec" }] }

def sceneStruct : Struct where
  name := "Scene"
  members :=
    [{ name := "eye", type := .reference "Pose", annotation := some "*" },
      { name := "up", type := .reference "Vec" }]

/-- What the document declares. -/
def sceneSchema : Schema :=
  Schema.rebuildIndex
    { namePrefix := "G", types := [.struct sceneStruct, .struct poseStruct, .struct vecStruct] }

def sceneDepths : Depths := ⟨[("Scene", 2), ("Pose", 1), ("Vec", 0)]⟩

def sceneResolved : Resolved :=
  ⟨sceneSchema, sceneSchema.entityKinds, sceneDepths, sceneSchema.structOrder sceneDepths⟩

theorem sceneDocument_vec_declared_first :
    Schema.load sceneDocument = .ok sceneSchema ∧
    Resolved.ofSchema sceneSchema = .ok sceneResolved ∧
    Relation.TransGen sceneSchema.Embeds "Scene" "Vec" ∧
    DeclaredBefore {} sceneResolved (.forward "GVec")
      (structDeclaration sceneResolved (namingOf sceneResolved) sceneStruct) := by
  have loaded : Schema.load sceneDocument = .ok sceneSchema := by decide +kernel
  have depths : sceneSchema.structDepths = .ok sceneDepths := by decide +kernel
  have ordered : Resolved.ofSchema sceneSchema = .ok sceneResolved :=
    Resolved.ofSchema_of_structDepths depths
  have scene : sceneSchema.struct? "Scene" = some sceneStruct := by decide +kernel
  have pose : sceneSchema.struct? "Pose" = some poseStruct := by decide +kernel
  have vec : sceneSchema.struct? "Vec" = some vecStruct := by decide +kernel
  have embedded : Relation.TransGen sceneSchema.Embeds "Scene" "Vec" := by
    refine .tail (.single ((embeds_iff scene).2 ?_)) ((embeds_iff pose).2 ?_) <;> decide +kernel
  obtain ⟨_, _, text⟩ := embedded_declared_first loaded ordered embedded
  exact ⟨loaded, ordered, embedded, (text {} sceneStruct vecStruct scene vec).2.2.1⟩

end ApiHeader
