/-
# What a document declares

A document declares entities by the children of its sections, and any section may come more
than once. Each relation below says which record an element describes, by its tag and its
parts. Loading gives one record for each declared constant, type and object, in the order of
the document, whichever of the sections it stands in.

A list of free functions or of function pointers takes the place of an earlier one, so of
these only the last section counts, even if it is empty. Nothing is lost exactly if all
sections of the kind before the last one are without functions.
-/

import ApiHeader.Proofs.Outline

namespace ApiHeader.Description

open ApiHeader.Markup ApiHeader.Schema

variable {α β σ : Type}

/-! ## Elements and records -/

/-- The tag of an element gives a record. -/
def Gives (read : Tag → Except LoadError α) (element : Node) (value : α) : Prop :=
  read element.tag = .ok value

/-- The parts of an element that are of some kinds describe one entry each, in order. -/
def Lists (describes : Node → α → Prop) (kinds : List String) (element : Node)
    (entries : List α) : Prop :=
  List.Forall₂ describes (among kinds element.parts) entries

/-- The elements of some kinds in all sections of a name. -/
def declared (name : String) (kinds : List String) (parts : List Node) : List Node :=
  (among [name] parts).flatMap fun element => among kinds element.parts

/-- The elements of some kinds in the last section of a name. -/
def lastDeclared (name : String) (kinds : List String) (parts : List Node) : List Node :=
  (among [name] parts).getLast?.elim [] fun element => among kinds element.parts

/-- An element describes a function with its parameters. -/
structure DescribesFunction (element : Node) (function : Function) : Prop where
  tag : functionOf element.tag = .ok { function with arguments := [] }
  arguments : Lists (Gives argumentOf) ["arg"] element function.arguments

/-- Elements describe functions that are put together as methods; of one name the last one
counts. -/
def DescribeMethods (elements : List Node) (methods : Methods) : Prop :=
  ∃ functions, List.Forall₂ DescribesFunction elements functions ∧
    methods = Methods.empty.insertAll functions

/-- An element describes an enumeration or a bitmask. -/
structure DescribesEnumeration (element : Node) (enumeration : Enumeration) : Prop where
  name : nameOf element.tag.name element.tag = .ok enumeration.name
  entries : Lists (Gives entryOf) ["entry"] element enumeration.entries

/-- An element describes a structure with all that belongs to it. The last direction given
counts. -/
structure DescribesStruct (element : Node) (struct : Struct) : Prop where
  tag : structOf element.tag = .ok { name := struct.name, extensible := struct.extensible }
  members : Lists (Gives memberOf) ["member"] element struct.members
  methods : DescribeMethods (declared "methods" ["function"] element.parts) struct.methods
  chained : ∃ directions, Lists (Gives chainedOf) ["chained"] element directions ∧
    struct.chained = directions.foldl (fun chained direction => direction.getD chained) .none
  chainRoots : List.Forall₂ (Gives (nameOf "root")) (declared "chained" ["root"] element.parts)
    struct.chainRoots

/-- The elements that define types. -/
def typeKinds : List String := ["value", "enum", "bitmask", "struct"]

/-- An element describes a type. -/
inductive DescribesType (element : Node) : TypeDef → Prop
  | value {type : ValueType} (named : element.tag.name = "value")
      (given : Gives valueTypeOf element type) : DescribesType element (.value type)
  | enumeration {type : Enumeration} (named : element.tag.name = "enum")
      (described : DescribesEnumeration element type) : DescribesType element (.enumeration type)
  | bitmask {type : Enumeration} (named : element.tag.name = "bitmask")
      (described : DescribesEnumeration element type) : DescribesType element (.bitmask type)
  | struct {type : Struct} (named : element.tag.name = "struct")
      (described : DescribesStruct element type) : DescribesType element (.struct type)

/-- An element describes an object with its methods. -/
structure DescribesObject (element : Node) (object : Object) : Prop where
  tag : objectOf element.tag = .ok { object with methods := .empty }
  methods : DescribeMethods (declared "methods" ["function"] element.parts) object.methods

/-! ## Entries in order -/

theorem foldl_push (entries first : List α) :
    entries.foldl (fun list entry => list ++ [entry]) first = first ++ entries := by
  rw [List.foldl_append_eq_append, ← List.flatMap_def, List.flatMap_singleton']

theorem foldl_concat (lists : List (List α)) (first : List α) :
    lists.foldl (fun all list => all ++ list) first = first ++ lists.flatten := by
  rw [List.foldl_append_eq_append, List.map_id']

theorem foldl_insertAll (lists : List (List Function)) (methods : Methods) :
    lists.foldl Methods.insertAll methods = methods.insertAll lists.flatten :=
  List.foldl_flatten.symm

/-- Entries that are added to one field of a record. -/
theorem foldl_field {γ : Type} (field : σ → γ) (set : σ → γ → σ) (add : γ → β → γ)
    (kept : ∀ record, set record (field record) = record)
    (changed : ∀ record content, field (set record content) = content)
    (again : ∀ record first second, set (set record first) second = set record second)
    (entries : List β) (record : σ) :
    entries.foldl (fun record entry => set record (add (field record) entry)) record =
      set record (entries.foldl add (field record)) := by
  induction entries generalizing record with
  | nil => exact (kept record).symm
  | cons entry entries ih => rw [List.foldl_cons, List.foldl_cons, ih, changed, again]

/-- Sections that are described one by one are described together. -/
theorem forall₂_declared {describes : Node → α → Prop} {name : String} {kinds : List String}
    {parts : List Node} {lists : List (List α)}
    (h : List.Forall₂ (Lists describes kinds) (among [name] parts) lists) :
    List.Forall₂ describes (declared name kinds parts) lists.flatten := by
  rw [declared, List.flatMap_def]
  exact List.rel_flatten (List.forall₂_map_left_iff.2 h)

/-- The last section is described by the last list. -/
theorem forall₂_lastDeclared {describes : Node → α → Prop} {name : String}
    {kinds : List String} {parts : List Node} {lists : List (List α)}
    (h : List.Forall₂ (Lists describes kinds) (among [name] parts) lists) :
    List.Forall₂ describes (lastDeclared name kinds parts)
      (lists.foldl (fun _ list => list) []) := by
  -- from the end, the last section and the last list come first
  have reversed := List.forall₂_reverse_iff.2 h
  rw [lastDeclared, List.getLast?_eq_head?_reverse, List.foldl_eq_foldr_reverse]
  generalize (among [name] parts).reverse = sections at reversed ⊢
  generalize lists.reverse = others at reversed ⊢
  cases reversed with
  | nil => exact .nil
  | cons own _ => exact own

section Sections

variable {step : σ → Node → σ → Prop} {describes : Node → α → Prop} {name : String}
  {kinds : List String} {state final : σ} {parts : List Node}

/-- Where sections add to what came before, all of them count. -/
theorem Through.forall₂_declared (field : σ → List α)
    (each : ∀ {state element next}, step state element next →
      if element.tag.name ∈ [name] then
        ∃ list, Lists describes kinds element list ∧ field next = field state ++ list
      else field next = field state)
    (through : Through step state parts final) (initial : field state = []) :
    List.Forall₂ describes (declared name kinds parts) (field final) := by
  obtain ⟨lists, listed, same⟩ : ∃ lists,
      List.Forall₂ (Lists describes kinds) (among [name] parts) lists ∧
        field final = lists.foldl (fun all list => all ++ list) (field state) :=
    through.exists_foldl field each
  rw [foldl_concat, initial, List.nil_append] at same
  exact same ▸ Description.forall₂_declared listed

/-- Where sections replace what came before, the last one counts. -/
theorem Through.forall₂_lastDeclared (field : σ → List α)
    (each : ∀ {state element next}, step state element next →
      if element.tag.name ∈ [name] then
        ∃ list, Lists describes kinds element list ∧ field next = list
      else field next = field state)
    (through : Through step state parts final) (initial : field state = []) :
    List.Forall₂ describes (lastDeclared name kinds parts) (field final) := by
  obtain ⟨lists, listed, same⟩ : ∃ lists,
      List.Forall₂ (Lists describes kinds) (among [name] parts) lists ∧
        field final = lists.foldl (fun _ list => list) (field state) :=
    through.exists_foldl field each
  rw [initial] at same
  exact same ▸ Description.forall₂_lastDeclared listed

end Sections

theorem declared_eq (name : String) (kinds : List String) (parts : List Node) :
    declared name kinds parts =
      (among [name] parts).dropLast.flatMap (fun element => among kinds element.parts) ++
        lastDeclared name kinds parts := by
  unfold declared lastDeclared
  rcases (among [name] parts).eq_nil_or_concat with none_there | ⟨sections, last, there⟩
  · rw [none_there]
    rfl
  · rw [there]
    simp

/-- What describes the last section describes all of them if and only if the others are
empty. -/
theorem forall₂_declared_iff {describes : Node → α → Prop} {name : String}
    {kinds : List String} {parts : List Node} {entries : List α}
    (last : List.Forall₂ describes (lastDeclared name kinds parts) entries) :
    List.Forall₂ describes (declared name kinds parts) entries ↔
      ∀ element ∈ (among [name] parts).dropLast, among kinds element.parts = [] := by
  rw [declared_eq, ← List.flatMap_eq_nil_iff]
  constructor
  · intro all
    have length := all.length_eq
    rw [List.length_append, last.length_eq] at length
    exact List.eq_nil_of_length_eq_zero (by omega)
  · intro empty
    rw [empty]
    exact last

/-! ## Readers of entities -/

theorem means_gives {read : Tag → Except LoadError α} {f : α → β} (tag : Tag) :
    Means (leaf ((read tag).map f)) fun parts value =>
      ∃ entry, Gives read ⟨tag, parts⟩ entry ∧ value = f entry :=
  means_leaf.imp fun _ _ => ok_of_map

/-- A reader that adds what another one makes of a child. -/
theorem means_added {reader : Bool → ContentReader α} {tag : Tag}
    {describes : Node → α → Prop}
    (means : Means reader fun parts value => describes ⟨tag, parts⟩ value) (add : α → β) :
    Means (fun selfClosing => (reader selfClosing).map add) fun parts next =>
      ∃ entry, describes ⟨tag, parts⟩ entry ∧ next = add entry :=
  means.map add fun _ value described => ⟨value, described, rfl⟩

/-- The readers that append an entry for each child of one name. -/
theorem means_children_listed {name : String} {read : List α → Tag → Bool → ContentReader (List α)}
    {describes : Node → α → Prop}
    (means : ∀ list tag, Means (read list tag) fun parts next =>
      ∃ entry, describes ⟨tag, parts⟩ entry ∧ next = list ++ [entry]) (first : List α) (tag : Tag) :
    Means (children (fun list tag => if tag.name = name then some (read list tag) else none) first)
      fun parts all => ∃ added, Lists describes [name] ⟨tag, parts⟩ added ∧
        all = first ++ added := by
  refine (means_children_named means first).imp ?_
  rintro parts _ ⟨added, listed, rfl⟩
  exact ⟨added, listed, foldl_push added first⟩

theorem means_readEntries (tag : Tag) :
    Means readEntries fun parts entries =>
      Lists (Gives entryOf) ["entry"] ⟨tag, parts⟩ entries := by
  refine (means_children_listed (fun _ tag => means_gives tag) [] tag).imp ?_
  rintro parts _ ⟨entries, listed, rfl⟩
  exact listed

theorem means_readEnumeration {element : String} {tag : Tag} (named : tag.name = element) :
    Means (readEnumeration element tag) fun parts enumeration =>
      DescribesEnumeration ⟨tag, parts⟩ enumeration := by
  subst named
  exact means_of_tag fun name found => (means_readEntries tag).map _ fun parts entries listed =>
    ⟨found, listed⟩

theorem functionOf_eq_ok {tag : Tag} {function : Function} (h : functionOf tag = .ok function) :
    function.arguments = [] := by
  obtain ⟨fields, _, h⟩ := bind_eq_ok_iff.1 h
  obtain ⟨name, _, h⟩ := bind_eq_ok_iff.1 h
  cases h
  rfl

theorem means_readFunction (tag : Tag) :
    Means (readFunction tag) fun parts function => DescribesFunction ⟨tag, parts⟩ function := by
  refine means_of_tag fun bare found => ?_
  refine (means_children_named (fun _ tag => means_gives tag) bare).imp ?_
  rintro parts _ ⟨arguments, listed, rfl⟩
  have none_yet := functionOf_eq_ok found
  rw [foldl_field Function.arguments (fun function arguments => { function with arguments })
    (fun list argument => list ++ [argument]) (fun _ => rfl) (fun _ _ => rfl) (fun _ _ _ => rfl),
    foldl_push, none_yet]
  exact ⟨found.trans (by rw [← none_yet]), listed⟩

theorem means_readFunctions (tag : Tag) :
    Means readFunctions fun parts functions =>
      Lists DescribesFunction ["function"] ⟨tag, parts⟩ functions := by
  refine (means_children_listed (fun functions tag => means_added (means_readFunction tag)
    fun function => functions ++ [function]) [] tag).imp ?_
  rintro parts _ ⟨functions, listed, rfl⟩
  exact listed

theorem means_readConstants (constants : List Constant) (tag : Tag) :
    Means (readConstants constants) fun parts all => ∃ added,
      Lists (Gives constantOf) ["define"] ⟨tag, parts⟩ added ∧ all = constants ++ added :=
  means_children_listed (fun _ tag => means_gives tag) constants tag

theorem objectOf_eq_ok {tag : Tag} {object : Object} (h : objectOf tag = .ok object) :
    object.methods = .empty := by
  obtain ⟨fields, _, h⟩ := bind_eq_ok_iff.1 h
  obtain ⟨name, _, h⟩ := bind_eq_ok_iff.1 h
  cases h
  rfl

theorem means_readObject (tag : Tag) :
    Means (readObject tag) fun parts object => DescribesObject ⟨tag, parts⟩ object := by
  refine means_of_tag fun bare found => ?_
  refine (means_children_named (fun (object : Object) tag =>
    means_added (means_readFunctions tag) fun functions =>
      { object with methods := object.methods.insertAll functions }) bare).imp ?_
  rintro parts _ ⟨lists, listed, rfl⟩
  have none_yet := objectOf_eq_ok found
  rw [foldl_field Object.methods (fun object methods => { object with methods }) Methods.insertAll
    (fun _ => rfl) (fun _ _ => rfl) (fun _ _ _ => rfl), foldl_insertAll, none_yet]
  exact ⟨found.trans (by rw [← none_yet]), _, forall₂_declared listed, rfl⟩

theorem means_readObjects (objects : List Object) (tag : Tag) :
    Means (readObjects objects) fun parts all => ∃ added,
      Lists DescribesObject ["object"] ⟨tag, parts⟩ added ∧ all = objects ++ added :=
  means_children_listed (fun objects tag => means_added (means_readObject tag)
    fun object => objects ++ [object]) objects tag

/-! ## Structures and types -/

/-- What one part of its element adds to a structure. -/
inductive Extends (struct : Struct) (element : Node) : Struct → Prop
  | member {part : Member} (named : element.tag.name = "member")
      (given : Gives memberOf element part) :
      Extends struct element { struct with members := struct.members ++ [part] }
  | chained {direction : Option Direction} {roots : List String}
      (named : element.tag.name = "chained") (given : Gives chainedOf element direction)
      (listed : Lists (Gives (nameOf "root")) ["root"] element roots) :
      Extends struct element { struct with
        chained := direction.getD struct.chained
        chainRoots := struct.chainRoots ++ roots }
  | methods {functions : List Function} (named : element.tag.name = "methods")
      (listed : Lists DescribesFunction ["function"] element functions) :
      Extends struct element { struct with methods := struct.methods.insertAll functions }
  | other (unknown : element.tag.name ∉ ["member", "chained", "methods"]) :
      Extends struct element struct

theorem structOf_eq_ok {tag : Tag} {struct : Struct} (h : structOf tag = .ok struct) :
    struct = { name := struct.name, extensible := struct.extensible } := by
  obtain ⟨fields, _, h⟩ := bind_eq_ok_iff.1 h
  obtain ⟨name, _, h⟩ := bind_eq_ok_iff.1 h
  cases h
  rfl

theorem means_readChained (struct : Struct) {tag : Tag} (named : tag.name = "chained") :
    Means (readChained struct tag) fun parts next => Extends struct ⟨tag, parts⟩ next := by
  refine means_of_tag fun direction found => ?_
  refine (means_children_listed (fun _ tag => means_gives tag) struct.chainRoots tag).map _ ?_
  rintro parts _ ⟨roots, listed, rfl⟩
  exact .chained named found listed

/-- The parts of an element taken one after the other give what all of them describe. -/
theorem describesStruct_of_through {element : Node} {bare struct : Struct}
    (found : structOf element.tag = .ok bare)
    (through : Through Extends bare element.parts struct) : DescribesStruct element struct := by
  have name : struct.name = bare.name := through.keeps Struct.name fun first => by
    cases first <;> rfl
  have extensible : struct.extensible = bare.extensible :=
    through.keeps Struct.extensible fun first => by cases first <;> rfl
  have tag : structOf element.tag =
      .ok { name := struct.name, extensible := struct.extensible } := by
    rw [name, extensible, ← structOf_eq_ok found, found]
  -- a part changes at most two fields, so every field is followed on its own
  rw [structOf_eq_ok found] at through
  obtain ⟨members, membersListed, sameMembers⟩ : ∃ members,
      Lists (Gives memberOf) ["member"] element members ∧
        struct.members = members.foldl (fun list part => list ++ [part]) [] :=
    through.exists_foldl Struct.members fun first => by cases first <;> grind
  obtain ⟨lists, methodsListed, sameMethods⟩ : ∃ lists,
      List.Forall₂ (Lists DescribesFunction ["function"]) (among ["methods"] element.parts) lists ∧
        struct.methods = lists.foldl Methods.insertAll .empty :=
    through.exists_foldl Struct.methods fun first => by cases first <;> grind
  rw [foldl_push, List.nil_append] at sameMembers
  rw [foldl_insertAll] at sameMethods
  exact {
    tag
    members := sameMembers ▸ membersListed
    methods := ⟨_, forall₂_declared methodsListed, sameMethods⟩
    chained := through.exists_foldl Struct.chained fun first => by cases first <;> grind
    chainRoots := through.forall₂_declared Struct.chainRoots
      (fun first => by cases first <;> grind) rfl }

theorem means_readStruct (tag : Tag) :
    Means (readStruct tag) fun parts struct => DescribesStruct ⟨tag, parts⟩ struct := by
  refine means_of_tag fun bare found => ?_
  refine Means.imp (means_children (fun struct tag reader visited => ?_)
    (fun struct tag parts visited => ?_) bare) fun parts struct through =>
      describesStruct_of_through found through
  · rw [visitStructPart] at visited
    split at visited <;> cases visited
    · next named =>
      refine (means_gives tag).imp ?_
      rintro parts _ ⟨part, given, rfl⟩
      exact .member named given
    · next named => exact means_readChained struct named
    · next named => exact (means_readFunctions tag).map _ fun _ _ listed => .methods named listed
  · rw [visitStructPart] at visited
    split at visited <;> cases visited
    exact .other (by simp_all)

theorem foldl_addType (types : List TypeDef) (schema : Schema) : ∃ index,
    types.foldl Schema.addType schema = { schema with types := schema.types ++ types, index } := by
  induction types generalizing schema with
  | nil => exact ⟨schema.index, by simp⟩
  | cons type types ih =>
      obtain ⟨index, same⟩ := ih (schema.addType type)
      refine ⟨index, same.trans ?_⟩
      simp [Schema.addType]

theorem means_readTypes (schema : Schema) (tag : Tag) :
    Means (readTypes schema) fun parts next => ∃ types index,
      Lists DescribesType typeKinds ⟨tag, parts⟩ types ∧
        next = { schema with types := schema.types ++ types, index } := by
  have means : Means (readTypes schema) fun parts next => ∃ types,
      Lists DescribesType typeKinds ⟨tag, parts⟩ types ∧ next = types.foldl addType schema := by
    refine means_children_entries (fun schema tag reader visited => ?_)
      (fun schema tag visited => ?_) schema
    · rw [visitType] at visited
      split at visited <;> cases visited
      · next named =>
        refine ⟨by simp [typeKinds, named], (means_gives tag).imp ?_⟩
        rintro parts _ ⟨type, given, rfl⟩
        exact ⟨.value type, .value named given, rfl⟩
      · next named =>
        exact ⟨by simp [typeKinds, named], (means_readEnumeration named).map _
          fun _ type described => ⟨.enumeration type, .enumeration named described, rfl⟩⟩
      · next named =>
        exact ⟨by simp [typeKinds, named], (means_readEnumeration named).map _
          fun _ type described => ⟨.bitmask type, .bitmask named described, rfl⟩⟩
      · next named =>
        exact ⟨by simp [typeKinds, named], (means_readStruct tag).map _
          fun _ type described => ⟨.struct type, .struct named described, rfl⟩⟩
    · rw [visitType] at visited
      split at visited <;> cases visited
      simp_all [typeKinds]
  refine means.imp ?_
  rintro parts _ ⟨types, listed, rfl⟩
  obtain ⟨index, same⟩ := foldl_addType types schema
  exact ⟨types, index, listed, same⟩

/-! ## The root element -/

/-- What one part of the root element adds to a draft. -/
inductive Contributes (draft : Draft) (element : Node) : Draft → Prop
  | constants {constants : List Constant} (named : element.tag.name = "defines")
      (listed : Lists (Gives constantOf) ["define"] element constants) :
      Contributes draft element
        { draft with schema.constants := draft.schema.constants ++ constants }
  | types {types : List TypeDef} {index : NameTable Nat} (named : element.tag.name = "types")
      (listed : Lists DescribesType typeKinds element types) :
      Contributes draft element
        { draft with schema := { draft.schema with types := draft.schema.types ++ types, index } }
  | freeFunctions {functions : List Function} (named : element.tag.name = "free_functions")
      (listed : Lists DescribesFunction ["function"] element functions) :
      Contributes draft element { draft with schema.freeFunctions := functions }
  | functionPointers {functions : List Function} (named : element.tag.name = "function_pointers")
      (listed : Lists DescribesFunction ["function"] element functions) :
      Contributes draft element { draft with schema.functionPointers := functions }
  | objects {objects : List Object} (named : element.tag.name = "objects")
      (listed : Lists DescribesObject ["object"] element objects) :
      Contributes draft element { draft with schema.objects := draft.schema.objects ++ objects }
  | other {license : String} {namePrefix : Option String}
      (unlisted : element.tag.name ∉
        ["defines", "types", "free_functions", "function_pointers", "objects"]) :
      Contributes draft element { schema := { draft.schema with license }, namePrefix }

theorem exists_parts_of_readRoot {draft : Draft} {events rest : List Event}
    (h : readRoot.run events = .ok (draft, rest)) :
    ∃ parts, outlines events = parts :: outlines rest ∧ Through Contributes {} parts draft := by
  refine (means_children (fun draft tag reader visited => ?_) (fun draft tag parts visited => ?_)
    _).content h
  · dsimp only [visitSection] at visited
    split at visited <;> cases visited
    · next named => exact exact_trimmedText.means.map _ fun _ _ _ => .other (by simp [named])
    · next named => exact (exact_readMetadata _).means.map _ fun _ _ _ => .other (by simp [named])
    · next named =>
      refine (means_readConstants draft.schema.constants tag).map _ ?_
      rintro parts _ ⟨constants, listed, rfl⟩
      exact .constants named listed
    · next named =>
      refine (means_readTypes draft.schema tag).map _ ?_
      rintro parts _ ⟨types, index, listed, rfl⟩
      exact .types named listed
    · next named => exact (means_readFunctions tag).map _ fun _ _ => .freeFunctions named
    · next named => exact (means_readFunctions tag).map _ fun _ _ => .functionPointers named
    · next named =>
      refine (means_readObjects draft.schema.objects tag).map _ ?_
      rintro parts _ ⟨objects, listed, rfl⟩
      exact .objects named listed
  · dsimp only [visitSection] at visited
    split at visited <;> cases visited
    exact .other (by simp_all)

/-- A document is loaded from the parts of its root element. -/
theorem exists_draft_of_loadEvents {events : List Event} {schema : Schema}
    (h : loadEvents events = .ok schema) :
    ∃ draft, Through Contributes {} (rootParts events) draft ∧ draft.finish = .ok schema := by
  obtain ⟨front, tag, inner, name, rest, leads, _, rfl, _⟩ := exists_root_of_loadEvents h
  rw [loadEvents_append leads, loadEvents_start] at h
  obtain ⟨⟨draft, left⟩, read, finished⟩ := bind_eq_ok_iff.1 h
  obtain ⟨parts, same, through⟩ := exists_parts_of_readRoot read
  rw [rootParts_append leads, rootParts, same]
  exact ⟨draft, through, finished⟩

theorem Draft.finish_eq_ok {draft : Draft} {schema : Schema} (h : draft.finish = .ok schema) :
    ∃ namePrefix, schema = { draft.schema with namePrefix } := by
  rw [finish] at h
  split at h
  · next namePrefix _ =>
    split at h <;> cases h
    exact ⟨namePrefix, rfl⟩
  · cases h

/-- A schema has a record for each constant, type and object that the root element declares,
in order, and for each function of the last sections that list some. -/
structure Collected (parts : List Node) (schema : Schema) : Prop where
  constants : List.Forall₂ (Gives constantOf) (declared "defines" ["define"] parts)
    schema.constants
  types : List.Forall₂ DescribesType (declared "types" typeKinds parts) schema.types
  objects : List.Forall₂ DescribesObject (declared "objects" ["object"] parts) schema.objects
  freeFunctions : List.Forall₂ DescribesFunction
    (lastDeclared "free_functions" ["function"] parts) schema.freeFunctions
  functionPointers : List.Forall₂ DescribesFunction
    (lastDeclared "function_pointers" ["function"] parts) schema.functionPointers

theorem collected_of_through {parts : List Node} {draft : Draft}
    (through : Through Contributes {} parts draft) : Collected parts draft.schema where
  constants := by
    refine through.forall₂_declared (fun draft => draft.schema.constants) (fun first => ?_) rfl
    cases first <;> grind
  types := by
    refine through.forall₂_declared (fun draft => draft.schema.types) (fun first => ?_) rfl
    cases first <;> grind
  objects := by
    refine through.forall₂_declared (fun draft => draft.schema.objects) (fun first => ?_) rfl
    cases first <;> grind
  freeFunctions := by
    refine through.forall₂_lastDeclared (fun draft => draft.schema.freeFunctions)
      (fun first => ?_) rfl
    cases first <;> grind
  functionPointers := by
    refine through.forall₂_lastDeclared (fun draft => draft.schema.functionPointers)
      (fun first => ?_) rfl
    cases first <;> grind

/-- Loading collects what a document declares. All of its free functions or function pointers
are loaded if and only if the sections before the last of the kind list none. -/
theorem load_declared {document : String} {schema : Schema}
    (loaded : Schema.load document = .ok schema) :
    Collected (rootParts (events document)) schema ∧
      (List.Forall₂ DescribesFunction
          (declared "free_functions" ["function"] (rootParts (events document)))
          schema.freeFunctions ↔
        ∀ element ∈ (among ["free_functions"] (rootParts (events document))).dropLast,
          among ["function"] element.parts = []) ∧
      (List.Forall₂ DescribesFunction
          (declared "function_pointers" ["function"] (rootParts (events document)))
          schema.functionPointers ↔
        ∀ element ∈ (among ["function_pointers"] (rootParts (events document))).dropLast,
          among ["function"] element.parts = []) := by
  obtain ⟨draft, through, finished⟩ := exists_draft_of_loadEvents loaded
  obtain ⟨namePrefix, rfl⟩ := Draft.finish_eq_ok finished
  obtain ⟨constants, types, objects, free, pointers⟩ := collected_of_through through
  exact ⟨⟨constants, types, objects, free, pointers⟩, forall₂_declared_iff free,
    forall₂_declared_iff pointers⟩

/-- Constants in two sections, a section in an element of no meaning, and functions in a section
after an empty one. -/
def dividedDocument : String :=
  "<api><metadata><prefix><c>P</c></prefix></metadata><free_functions/>
    <defines><define name='A' type='int' value='1'/></defines><note><defines/></note>
    <defines><note/><define name='B' type='int' value='2'/></defines>
    <free_functions><function name='F'><arg name='x' type='int'/></function></free_functions>
  </api>"

def dividedSchema : Schema where
  namePrefix := "P"
  constants := [⟨"A", .primitive "int", "1"⟩, ⟨"B", .primitive "int", "2"⟩]
  freeFunctions := [{ name := "F", arguments := [{ name := "x", type := .primitive "int" }] }]

set_option maxRecDepth 10000 in
/-- Both constants are loaded, and no function is lost to the empty section. -/
theorem dividedDocument_declared :
    Schema.load dividedDocument = .ok dividedSchema ∧
      (declared "defines" ["define"] (rootParts (events dividedDocument))).length = 2 ∧
      Collected (rootParts (events dividedDocument)) dividedSchema ∧
      List.Forall₂ DescribesFunction
        (declared "free_functions" ["function"] (rootParts (events dividedDocument)))
        dividedSchema.freeFunctions := by
  have text : events dividedDocument = eventsFrom [] _ := events_ofList (by decide)
  have loaded : Schema.load dividedDocument = .ok dividedSchema := by
    rewrite [Schema.load, text]
    decide +kernel
  obtain ⟨collected, free, _⟩ := load_declared loaded
  refine ⟨loaded, ?_, collected, free.2 ?_⟩
  · rewrite [text]
    decide +kernel
  · rewrite [text]
    decide +kernel

/-- Two sections of free functions, and function pointers with an empty section after
them. -/
def replacedDocument : String :=
  "<api><metadata><prefix><c>P</c></prefix></metadata>
    <free_functions><function name='A'/></free_functions>
    <free_functions><function name='B'/></free_functions>
    <function_pointers><function name='F'/></function_pointers><function_pointers/>
  </api>"

set_option maxRecDepth 10000 in
/-- The schema that is loaded has the last functions only. -/
theorem replacedDocument_not_declared :
    Schema.load replacedDocument = .ok { namePrefix := "P", freeFunctions := [{ name := "B" }] } ∧
      ¬ List.Forall₂ DescribesFunction
        (declared "free_functions" ["function"] (rootParts (events replacedDocument)))
        [{ name := "B" }] ∧
      ¬ List.Forall₂ DescribesFunction
        (declared "function_pointers" ["function"] (rootParts (events replacedDocument))) [] := by
  have text : events replacedDocument = eventsFrom [] _ := events_ofList (by decide)
  rewrite [Schema.load, text]
  refine ⟨by decide +kernel, fun all => ?_, fun all => ?_⟩
  · exact absurd all.length_eq (by decide +kernel)
  · exact absurd all.length_eq (by decide +kernel)

end ApiHeader.Description
