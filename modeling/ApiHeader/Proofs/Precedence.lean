/-
# Declared before use

A type that a declaration mentions should have been introduced further up. What the
header guarantees is decided by the order of its sections, and inside a section by the
order of names. Scalars come first, from the last name to the first, so a scalar may be
defined by one with a greater name and by no other entity. Function pointers come before
structures and in the order of names. Their parameters may still mention any structure,
because there the mention is tagged and all tags are declared before; the types that they
return and those of their callbacks are not tagged. The members of a structure may mention
everything. Before all other structures stand the two that chains of extensions start with.
They mention a type by a name of their own choice, and this may be any entity but a structure.

Names may be declared more than once. The same function pointer may also be written twice,
among the function pointers and as the type of an exported function, so "before" is said of
the first place.
-/

import ApiHeader.Proofs.Mentions
import Mathlib.Data.List.TakeWhile

namespace ApiHeader

open Schema Header

variable {schema : Schema} {resolved : Resolved} {options : Options} {naming : Naming}

namespace Header

/-! ## What stands ahead of a declaration -/

/-- The pieces before the first one that is the given declaration. -/
def ahead (user : Declaration) (items : List Item) : List Item :=
  items.takeWhile fun item => item ≠ .declaration user

/-- Wherever a declaration stands in the text, a suitable one is complete before it. -/
def Precedes (options : Options) (resolved : Resolved) (suits : Declaration → Prop)
    (user : Declaration) : Prop :=
  ∀ next, DeclaredAt options resolved user next → ∃ declaration start, suits declaration ∧
    DeclaredAt options resolved declaration start ∧ start + declaration.text.length ≤ next

theorem length_text_pos (declaration : Declaration) : 0 < declaration.text.length := by
  obtain ⟨line, rest, shape⟩ : ∃ line rest, declaration.lines = line :: rest := by
    cases declaration <;> exact ⟨_, _, rfl⟩
  have text : declaration.text = renderLines (line :: rest) := by
    rw [← shape]
    exact congrArg renderLines (List.append_nil _)
  rw [text, renderLines, String.length_ofList, List.flatMap_cons, List.length_append,
    List.length_append, List.length_singleton]
  omega

theorem ahead_subset {user : Declaration} {before after : List Item} :
    ahead user (before ++ .declaration user :: after) ⊆ before := by
  induction before with
  | nil => simp [ahead]
  | cons item before ih =>
      rw [List.cons_append, ahead, List.takeWhile_cons]
      split
      · exact List.cons_subset_cons item ih
      · exact List.nil_subset _

/-- What stands ahead of a declaration is complete wherever the declaration starts. -/
theorem precedes_of_mem_ahead {suits : Declaration → Prop} {declaration user : Declaration}
    (suitable : suits declaration)
    (inside : .declaration declaration ∈ ahead user (pieces options resolved)) :
    Precedes options resolved suits user := by
  rintro next ⟨before, after, shape, rfl⟩
  rw [shape] at inside
  obtain ⟨first, between, rfl⟩ := List.append_of_mem (ahead_subset inside)
  refine ⟨declaration, (renderItems first).length, suitable, ?_, ?_⟩
  · exact ⟨first, between ++ .declaration user :: after, by rw [shape]; simp, rfl⟩
  · rw [renderItems_append, renderItems_cons, String.length_append, String.length_append]
    omega

theorem exists_eq_ahead_append {user : Declaration} {items : List Item}
    (inside : .declaration user ∈ items) :
    ∃ after, items = ahead user items ++ .declaration user :: after := by
  induction items with
  | nil => cases inside
  | cons item items ih =>
      by_cases same : item = .declaration user
      · subst same
        exact ⟨items, by simp [ahead]⟩
      · obtain ⟨after, shape⟩ := ih ((List.mem_cons.1 inside).resolve_left (Ne.symm same))
        refine ⟨after, ?_⟩
        rw [ahead, List.takeWhile_cons_of_pos (by simpa using same), List.cons_append]
        exact congrArg (List.cons item) shape

/-- What is complete wherever a declaration starts stands ahead of it. -/
theorem exists_mem_ahead_of_precedes {suits : Declaration → Prop} {user : Declaration}
    (written : .declaration user ∈ pieces options resolved)
    (h : Precedes options resolved suits user) :
    ∃ declaration, suits declaration ∧
      .declaration declaration ∈ ahead user (pieces options resolved) := by
  obtain ⟨after, shape⟩ := exists_eq_ahead_append written
  obtain ⟨declaration, start, suitable, ⟨before, rest, there, rfl⟩, bound⟩ :=
    h _ ⟨_, after, shape, rfl⟩
  refine ⟨declaration, suitable, ?_⟩
  have long := length_text_pos declaration
  rcases List.append_eq_append_iff.1 (there.symm.trans shape) with
    ⟨between, same, tail⟩ | ⟨between, same, tail⟩
  · cases between with
    | nil =>
        rw [same, List.append_nil] at bound
        omega
    | cons item between =>
        obtain ⟨rfl, _⟩ := List.cons.inj tail
        rw [same]
        simp
  · -- then it would start after the declaration that it precedes
    rw [same, renderItems_append, String.length_append] at bound
    omega

/-- In one section: what never follows a declaration stands ahead of it. -/
theorem mem_ahead_of_pairwise {declaration user : Declaration} {items : List Item}
    (differs : declaration ≠ user) (inside : .declaration declaration ∈ items)
    (h : items.Pairwise fun a b => ¬ (a = .declaration user ∧ b = .declaration declaration)) :
    .declaration declaration ∈ ahead user items := by
  induction items with
  | nil => cases inside
  | cons item items ih =>
      obtain ⟨first, others⟩ := List.pairwise_cons.1 h
      rcases List.mem_cons.1 inside with rfl | later
      · rw [ahead, List.takeWhile_cons_of_pos (by simpa using differs)]
        exact List.mem_cons_self
      · have notUser : item ≠ .declaration user := fun same => first _ later ⟨same, rfl⟩
        rw [ahead, List.takeWhile_cons_of_pos (by simpa using notUser)]
        exact List.mem_cons_of_mem _ (ih later others)

theorem ahead_subset_append {user : Declaration} {items : List Item} (more : List Item) :
    ahead user items ⊆ ahead user (items ++ more) := by
  rw [ahead, ahead, List.takeWhile_append]
  split
  · intro item inside
    exact List.mem_append_left _ ((List.takeWhile_prefix _).subset inside)
  · exact List.Subset.refl _

/-- From one section to a later one: sections that come first hold no such declaration. -/
theorem mem_ahead_pieces {declaration user : Declaration} {kind : SectionKind}
    (inside : kind ∈ options.layout)
    (notEarlier : ∀ other ∈ user.sectionKinds, kind.ctorIdx ≤ other.ctorIdx)
    (here : .declaration declaration ∈
      ahead user (kind.items resolved (namingOf resolved) (guardOf options resolved))) :
    .declaration declaration ∈ ahead user (pieces options resolved) := by
  obtain ⟨first, later, split⟩ := List.append_of_mem inside
  have sorted := layout_pairwise options
  rw [split, List.pairwise_append] at sorted
  have free : ∀ item ∈ first.flatMap fun kind =>
      kind.items resolved (namingOf resolved) (guardOf options resolved),
      decide (item ≠ .declaration user) = true := by
    intro item there
    obtain ⟨other, before, held⟩ := List.mem_flatMap.1 there
    rw [decide_eq_true_iff]
    rintro rfl
    have earlier := sorted.2.2 other before kind List.mem_cons_self
    exact absurd (notEarlier other (mem_sectionKinds held)) (Nat.not_le_of_lt earlier)
  rw [pieces, sections, List.flatMap_map, split, List.flatMap_append, List.flatMap_cons, ahead,
    List.takeWhile_append_of_pos free]
  exact List.mem_append_right _ (ahead_subset_append _ here)

theorem ahead_eq_self {user : Declaration} {kind : SectionKind} {guard : String}
    (apart : kind ∉ user.sectionKinds) :
    ahead user (kind.items resolved naming guard) = kind.items resolved naming guard := by
  rw [ahead, List.takeWhile_eq_self_iff]
  intro item inside
  rw [decide_eq_true_iff]
  rintro rfl
  exact apart (mem_sectionKinds inside)

/-- A declaration of an earlier section stands ahead. -/
theorem mem_ahead_of_earlier {declaration user : Declaration} {kind : SectionKind}
    (inside : kind ∈ options.layout)
    (earlier : ∀ other ∈ user.sectionKinds, kind.ctorIdx < other.ctorIdx)
    (here : .declaration declaration ∈
      kind.items resolved (namingOf resolved) (guardOf options resolved)) :
    .declaration declaration ∈ ahead user (pieces options resolved) := by
  apply mem_ahead_pieces inside fun other there => Nat.le_of_lt (earlier other there)
  rw [ahead_eq_self fun there => Nat.lt_irrefl _ (earlier kind there)]
  exact here

/-- Among declarations that are listed in an order of names, one of an earlier name stands
ahead. -/
theorem mem_ahead_paragraph {α : Type} (declare : α → Declaration) (name : α → String)
    (named : ∀ a b, declare a = declare b → name a = name b)
    {r : String → String → Prop} (irrefl : ∀ text, ¬ r text text) {elements : List α}
    (sorted : elements.Pairwise fun a b => ¬ r (name b) (name a)) {early late : α}
    (listed : early ∈ elements) (earlier : r (name early) (name late)) :
    .declaration (declare early) ∈ ahead (declare late) (paragraph (elements.map declare)) := by
  have differs : declare early ≠ declare late := by
    intro same
    rw [named _ _ same] at earlier
    exact irrefl _ earlier
  apply mem_ahead_of_pairwise differs
  · exact declaration_mem_paragraph.2 (List.mem_map.2 ⟨early, listed, rfl⟩)
  · rw [paragraph]
    split
    · exact .nil
    · refine List.pairwise_append.2 ⟨?_, List.pairwise_singleton _ _, ?_⟩
      · rw [List.pairwise_map, List.pairwise_map]
        refine sorted.imp ?_
        rintro a b ordered ⟨isLate, isEarly⟩
        rw [named _ _ (Item.declaration.inj isLate), named _ _ (Item.declaration.inj isEarly)]
          at ordered
        exact ordered earlier
      · rintro a _ b last ⟨_, rfl⟩
        cases List.mem_singleton.1 last

/-! ## Entities ahead of their users -/

section Entities

variable {name : String} {kind : EntityKind} {declaration : Declaration}

theorem typeName_inj {first second : String} :
    naming.typeName first = naming.typeName second ↔ first = second :=
  String.append_right_inj naming.typePrefix

/-- Scalars come from the last name to the first. -/
theorem mem_ahead_value (options : Options) {type : ValueType}
    (typedef : Typedef resolved (namingOf resolved) name .value declaration)
    (less : type.name < name) :
    .declaration declaration ∈
      ahead (valueDeclaration resolved (namingOf resolved) type) (pieces options resolved) := by
  cases typedef with
  | @value early declared isName =>
      subst isName
      apply mem_ahead_pieces (sectionOf_mem_layout .value options)
      · change ∀ other ∈ [SectionKind.valueTypes], _
        decide
      · refine mem_ahead_paragraph (valueDeclaration resolved (namingOf resolved)) ValueType.name
          (fun a b same => typeName_inj.1 (Declaration.synonym.inj same).2)
          (r := fun a b => b < a) (fun text => Std.lt_irrefl) ?_ (List.mem_mergeSort.2 declared)
          less
        refine (pairwise_mergeSort_rel (r := fun a b : ValueType => b.name ≤ a.name)
          (fun _ _ _ ab bc => Std.le_trans bc ab) (fun _ _ => Std.le_total) _).imp ?_
        intro a b descending
        exact Std.not_lt.2 descending

/-- Function pointers come after all types but structures, and in the order of names. -/
theorem mem_ahead_functionPointer (options : Options) {function : Function}
    (typedef : Typedef resolved (namingOf resolved) name kind declaration)
    (notStruct : kind ≠ .struct) (less : kind = .functionPointer → name < function.name) :
    .declaration declaration ∈
      ahead (functionPointerDeclaration resolved (namingOf resolved) function)
        (pieces options resolved) := by
  by_cases pointer : kind = .functionPointer
  · replace less := less pointer
    subst pointer
    cases typedef with
    | @functionPointer early declared isName =>
        subst isName
        apply mem_ahead_pieces (sectionOf_mem_layout .functionPointer options)
        · change ∀ other ∈ [SectionKind.functionPointers, .procs], _
          decide
        · refine mem_ahead_paragraph (functionPointerDeclaration resolved (namingOf resolved))
            Function.name (fun a b same => typeName_inj.1 (Declaration.functionPointer.inj same).1)
            (fun text => Std.lt_irrefl) ?_ (List.mem_mergeSort.2 declared) less
          refine (pairwise_mergeSort_key Function.name _).imp ?_
          intro a b ascending
          exact Std.not_lt.2 ascending
  · apply mem_ahead_of_earlier (sectionOf_mem_layout kind options) _ (typedef.mem_items _)
    change ∀ other ∈ [SectionKind.functionPointers, .procs], _
    cases kind with
    | struct => exact absurd rfl notStruct
    | functionPointer => exact absurd rfl pointer
    | _ => decide

/-- The plain name of an entity is introduced in the section of its kind. -/
theorem Typedef.exists_typeName (typedef : Typedef resolved naming name kind declaration)
    (guard : String) :
    ∃ plain : Declaration, plain.introduces? = some (naming.typeName name) ∧
      .declaration plain ∈ (sectionOf kind).items resolved naming guard := by
  have there := typedef.mem_items guard
  cases typedef with
  | @bitmask bitmask declared named =>
      refine ⟨enumerationDeclaration naming bitmask, named ▸ rfl, ?_⟩
      refine List.mem_flatMap.2 ⟨bitmask, declared, ?_⟩
      exact declaration_mem_paragraph.2 List.mem_cons_self
  | value _ named => exact ⟨_, named ▸ rfl, there⟩
  | enumeration _ named => exact ⟨_, named ▸ rfl, there⟩
  | struct _ named => exact ⟨_, named ▸ rfl, there⟩
  | object _ named => exact ⟨_, named ▸ rfl, there⟩
  | functionPointer _ named => exact ⟨_, named ▸ rfl, there⟩

theorem Typedef.mem_structOrder (upToDate : schema.UpToDate)
    (ordered : Resolved.ofSchema schema = .ok resolved)
    (typedef : Typedef resolved naming name .struct declaration) : name ∈ resolved.structOrder := by
  cases typedef with
  | @struct struct declared isName =>
      subst isName
      have found := (mem_structsInOrder_iff upToDate ordered).1 declared
      obtain ⟨depths, _, rfl⟩ := Resolved.ofSchema_eq_ok ordered
      exact mem_structOrder_iff.2 ⟨struct, upToDate.struct?_eq_some found⟩

/-- All tags are declared before the function pointers and the structures. -/
theorem forward_mem_ahead (options : Options) {user : Declaration}
    (later : ∀ other ∈ user.sectionKinds,
      SectionKind.forwardDeclarations.ctorIdx < other.ctorIdx)
    (inside : name ∈ resolved.structOrder) :
    .declaration (.forward ((namingOf resolved).typeName name)) ∈
      ahead user (pieces options resolved) := by
  have there : .forwardDeclarations ∈ options.layout := by simp [Options.layout]
  apply mem_ahead_of_earlier there later
  exact declaration_mem_forwardSection.2 (List.mem_map.2 ⟨name, inside, rfl⟩)

/-- Structures come last, and after those that they embed. -/
theorem mem_ahead_struct (options : Options) (upToDate : schema.UpToDate)
    (ordered : Resolved.ofSchema schema = .ok resolved) {struct : Struct}
    (declared : struct ∈ resolved.structsInOrder) {part : Member} (held : part ∈ struct.members)
    (refers : part.type = .reference name)
    (typedef : Typedef resolved (namingOf resolved) name kind declaration) :
    .declaration declaration ∈
      ahead (structDeclaration resolved (namingOf resolved) struct) (pieces options resolved) := by
  have named {first second : Struct}
      (same : structDeclaration resolved (namingOf resolved) first =
        structDeclaration resolved (namingOf resolved) second) : first.name = second.name :=
    typeName_inj.1 (Declaration.struct.inj same).1
  by_cases isStruct : kind = .struct
  · subst isStruct
    cases typedef with
    | @struct early earlyDeclared isName =>
        subst isName
        have found := (mem_structsInOrder_iff upToDate ordered).1 declared
        have earlyFound := (mem_structsInOrder_iff upToDate ordered).1 earlyDeclared
        have embedded : schema.Embeds struct.name early.name := by
          rw [embeds_iff found, mem_partsOf_iff, earlyFound]
          exact ⟨⟨part, held, refers⟩, rfl⟩
        have differs := ne_of_transGen upToDate ordered (.single embedded)
        apply mem_ahead_pieces (sectionOf_mem_layout .struct options)
        · change ∀ other ∈ [SectionKind.structures], _
          decide
        · apply mem_ahead_of_pairwise (structDeclaration_ne differs)
          · exact declaration_mem_structSection.2 (.inr ⟨early, earlyDeclared, rfl⟩)
          · apply structSection_pairwise (structDeclaration_ne differs)
            refine (structsInOrder_pairwise_of_transGen upToDate ordered (.single embedded)).imp ?_
            rintro a b apart ⟨isUser, isEarly⟩
            exact apart ⟨named isUser, named isEarly⟩
  · apply mem_ahead_of_earlier (sectionOf_mem_layout kind options) _ (typedef.mem_items _)
    change ∀ other ∈ [SectionKind.structures], _
    cases kind with
    | struct => exact absurd rfl isStruct
    | _ => decide

end Entities

/-! ## Chains -/

namespace Chain

/-- A structure with a field for some chain is none of those that chains start with, for it
starts with a field for a chain. -/
theorem header_ne_structDeclaration {struct : Struct} {joined : Chain}
    (joins : joined.Joined struct) (chain : Chain) :
    chain.header naming ≠ structDeclaration resolved naming struct := by
  have present : (chainFields naming struct).map Declarator.mention ≠ [] :=
    List.ne_nil_of_mem (mem_chainFields_iff.2 ⟨joined, joins, rfl⟩)
  intro same
  cases fields : chainFields naming struct with
  | nil => exact present (by rw [fields]; rfl)
  | cons first rest =>
      have leads : first.mention ∈ (chainFields naming struct).map Declarator.mention :=
        List.mem_map_of_mem (fields ▸ List.mem_cons_self)
      obtain ⟨_, _, plain⟩ := mem_chainFields_iff.1 leads
      rw [structDeclaration, fields] at same
      have tagged : ["struct"] = first.qualifiers := by
        cases chain <;>
          exact congrArg Declarator.qualifiers (List.cons.inj (Declaration.struct.inj same).2.1).1
      have untagged : [] = first.qualifiers := congrArg Prod.fst plain
      cases tagged.trans untagged.symm

/-- The structures that chains start with stand ahead of those that take part in chains. -/
theorem header_mem_ahead (options : Options) {struct : Struct} {chain : Chain}
    (joins : chain.Joined struct) :
    .declaration (chain.header (namingOf resolved)) ∈
      ahead (structDeclaration resolved (namingOf resolved) struct) (pieces options resolved) := by
  have listed : chain.header (namingOf resolved) ∈ chainHeaders (namingOf resolved) :=
    mem_chainHeaders_iff.2 ⟨chain, rfl⟩
  apply mem_ahead_pieces (sectionOf_mem_layout .struct options)
  · change ∀ other ∈ [SectionKind.structures], _
    decide
  · change _ ∈ ahead _ (structSection resolved (namingOf resolved))
    rw [structSection]
    apply ahead_subset_append
    rw [ahead, List.takeWhile_eq_self_iff.2]
    · exact List.mem_flatMap.2 ⟨_, listed, declaration_mem_paragraph.2 (List.mem_singleton_self _)⟩
    · intro item inside
      rw [decide_eq_true_iff]
      rintro rfl
      obtain ⟨declaration, led, same⟩ := List.mem_flatMap.1 inside
      obtain ⟨other, rfl⟩ := mem_chainHeaders_iff.1 led
      have body := List.mem_singleton.1 (declaration_mem_paragraph.1 same)
      exact header_ne_structDeclaration joins other body.symm

end Chain

/-- Of all entities but structures the plain name is introduced before any structure, that of
a bitmask by its enumerators. -/
theorem precedes_header (options : Options) {name : String} {kind : EntityKind}
    {declaration : Declaration}
    (typedef : Typedef resolved (namingOf resolved) name kind declaration)
    (notStruct : kind ≠ .struct) (chain : Chain) :
    Precedes options resolved
      (fun declaration => declaration.introduces? = some ((namingOf resolved).typeName name))
      (chain.header (namingOf resolved)) := by
  obtain ⟨plain, introduces, there⟩ := typedef.exists_typeName (guardOf options resolved)
  apply precedes_of_mem_ahead introduces
  apply mem_ahead_of_earlier (sectionOf_mem_layout kind options) _ there
  rw [chain.sectionKinds_header]
  cases kind with
  | struct => exact absurd rfl notStruct
  | _ => decide

/-! ## Mentions -/

/-- The identifier that a piece makes the name of a type. -/
def Item.introduces? : Item → Option String
  | .line _ => none
  | .declaration content => content.introduces?

namespace Site

/-- The order of sections and names lets an entity of this name and kind be mentioned here. -/
def Orderly (name : String) (kind : EntityKind) : Site resolved → Prop
  | underlying type _ => kind = .value ∧ type.name < name
  | returned function _ =>
    kind ≠ .struct ∧ (kind = .functionPointer → name < function.name)
  | parameter function _ _ _ => kind = .functionPointer → name < function.name
  | callback function _ _ =>
    kind ≠ .struct ∧ (kind = .functionPointer → name < function.name)
  | chainType _ => kind ≠ .struct
  | _ => True

/-- The mention comes after a typedef of what it mentions, or it is tagged and comes after the
declaration of the tag. -/
def Settled (options : Options) (name : String) (site : Site resolved) : Prop :=
  let naming := namingOf resolved
  Precedes options resolved
      (fun declaration => declaration.introduces? = some (site.text naming)) (site.user naming) ∨
    resolved.kind? name = some .struct ∧ "struct" ∈ site.qualifiers naming ∧
      Precedes options resolved (· = .forward (naming.typeName name)) (site.user naming)

/-- What the order lets be mentioned is settled. -/
theorem settled_of_orderly (options : Options) (upToDate : schema.UpToDate)
    (ordered : Resolved.ofSchema schema = .ok resolved) (site : Site resolved) {name : String}
    {kind : EntityKind} (refers : site.type = .reference name)
    (known : resolved.kind? name = some kind) (orderly : site.Orderly name kind) :
    site.Settled options name := by
  obtain ⟨declaration, typedef⟩ := exists_typedef upToDate ordered known (namingOf resolved)
  have introduces : declaration.introduces? = some (cType resolved (namingOf resolved) site.type) :=
    refers ▸ typedef.introduces?_eq known
  -- a tagged mention is settled by the tag if the body comes later
  have tag {user : Declaration} (isStruct : kind = .struct)
      (later : ∀ other ∈ user.sectionKinds,
        SectionKind.forwardDeclarations.ctorIdx < other.ctorIdx) :
      Precedes options resolved (· = .forward ((namingOf resolved).typeName name)) user := by
    subst isStruct
    exact precedes_of_mem_ahead rfl
      (forward_mem_ahead options later (typedef.mem_structOrder upToDate ordered))
  cases site with
  | underlying type declared =>
      obtain ⟨rfl, less⟩ := orderly
      exact .inl (precedes_of_mem_ahead introduces (mem_ahead_value options typedef less))
  | returned function declared =>
      obtain ⟨notStruct, less⟩ := orderly
      exact .inl (precedes_of_mem_ahead introduces
        (mem_ahead_functionPointer options typedef notStruct less))
  | parameter function declared argument taken =>
      by_cases isStruct : kind = .struct
      · have tagged : "struct" ∈ argumentQualifiers resolved (namingOf resolved) .functionPointer
            argument := by
          have isStruct : resolved.isStruct argument.type := by
            rw [show argument.type = .reference name from refers]
            simp [Resolved.isStruct, Resolved.typeKind?, TypeRef.reference?, known, isStruct]
          simp [argumentQualifiers, SignatureMode.functionPointer, isStruct]
        refine .inr ⟨isStruct ▸ known, tagged, tag isStruct ?_⟩
        change ∀ other ∈ [SectionKind.functionPointers, .procs], _
        decide
      · exact .inl (precedes_of_mem_ahead introduces
          (mem_ahead_functionPointer options typedef isStruct orderly))
  | callback function declared async =>
      obtain ⟨notStruct, less⟩ := orderly
      exact .inl (precedes_of_mem_ahead introduces
        (mem_ahead_functionPointer options typedef notStruct less))
  | userdata function declared async => cases refers
  | link chain =>
      cases refers
      by_cases isStruct : kind = .struct
      · refine .inr ⟨isStruct ▸ known, List.mem_singleton_self _, tag isStruct ?_⟩
        change ∀ other ∈ (chain.header _).sectionKinds, _
        rw [chain.sectionKinds_header]
        decide
      · exact .inl (precedes_header options typedef isStruct chain)
  | chainType chain =>
      cases refers
      exact .inl (precedes_header options typedef orderly chain)
  | chained struct declared chain joins =>
      exact .inl (precedes_of_mem_ahead (chain.introduces?_header _)
        (Chain.header_mem_ahead options joins))
  | member struct declared part held =>
      exact .inl (precedes_of_mem_ahead introduces
        (mem_ahead_struct options upToDate ordered declared held refers typedef))

/-- A mention that is not tagged is not settled if it is no identifier introduced ahead of it. -/
theorem not_settled_of_ahead {options : Options} {site : Site resolved} {name : String}
    (absent : site.text (namingOf resolved) ∉
      (ahead (site.user (namingOf resolved)) (pieces options resolved)).filterMap Item.introduces?)
    (untagged : "struct" ∉ site.qualifiers (namingOf resolved)) :
    ¬ site.Settled options name := by
  rintro (settled | ⟨_, tagged, _⟩)
  · obtain ⟨declaration, introduces, inside⟩ :=
      exists_mem_ahead_of_precedes (site.user_mem_pieces options) settled
    exact absent (List.mem_filterMap.2 ⟨.declaration declaration, inside, introduces⟩)
  · exact untagged tagged

end Site

end Header

/-- In the header of a valid description the types in the value type, function pointer and
structure sections are written at the sites, and every mention of an entity that the order of
sections and names allows comes after what introduces the entity. -/
theorem mention_settled {document : String} (loaded : Schema.load document = .ok schema)
    (valid : schema.validate = .ok ()) :
    ∃ resolved, Resolved.ofSchema schema = .ok resolved ∧
      ∀ options : Options,
        let naming := namingOf resolved
        (∀ kind ∈ [SectionKind.valueTypes, .functionPointers, .structures], ∀ items,
          (kind, items) ∈ sections options resolved →
          ∀ declaration, .declaration declaration ∈ items →
          ∀ mention, mention ∈ declaration.written ↔
            ∃ site : Site resolved, site.user naming = declaration ∧
              (site.qualifiers naming, site.text naming) = mention) ∧
        ∀ (site : Site resolved) (name : String) (kind : EntityKind),
          site.type = .reference name → resolved.kind? name = some kind →
          site.Orderly name kind →
          (∃ next, DeclaredAt options resolved (site.user naming) next) ∧
          (site.qualifiers naming, site.text naming) ∈ (site.user naming).written ∧
          site.Settled options name := by
  obtain ⟨resolved, ordered⟩ := exists_ofSchema_of_validate valid
  refine ⟨resolved, ordered, fun options => ⟨?_, ?_⟩⟩
  · intro kind mentioning items listed declaration inside mention
    obtain ⟨_, _, same⟩ := List.mem_map.1 listed
    cases same
    exact Site.mem_written_iff mentioning inside mention
  · intro site name kind refers known orderly
    refine ⟨declaredAt_of_mem (site.user_mem_pieces options), site.mem_written _, ?_⟩
    exact site.settled_of_orderly options (upToDate_of_load loaded) ordered refers known orderly

/-- Two scalars defined by entities that come later, a function pointer that takes another one
and a structure and returns the structure, one that has the structure for a callback, and a
structure of the name that chains mention. -/
def forwardDocument : String :=
  "<api><metadata><prefix><c>P</c></prefix></metadata><types><value name='B' type='A'/>" ++
  "<value name='A' type='S'/><struct name='S'/><struct name='SType'/></types>" ++
  "<function_pointers>" ++
  "<function name='F' returns='S'><arg name='g' type='G'/><arg name='s' type='S'/></function>" ++
  "<function name='G' async='true' callback='S'/></function_pointers></api>"

def takingFunction : Function where
  name := "F"
  returns := .reference "S"
  arguments := [{ name := "g", type := .reference "G" }, { name := "s", type := .reference "S" }]

def takenFunction : Function :=
  { name := "G", isAsync := true, callback := some (.reference "S") }

def forwardSchema : Schema :=
  Schema.rebuildIndex
    { namePrefix := "P"
      types := [.value { name := "B", underlying := .reference "A" },
        .value { name := "A", underlying := .reference "S" }, .struct { name := "S" },
        .struct { name := "SType" }]
      functionPointers := [takingFunction, takenFunction] }

def forwardResolved : Resolved :=
  ⟨forwardSchema, forwardSchema.entityKinds, ⟨[("SType", 0), ("S", 0)]⟩, ["S", "SType"]⟩

set_option maxRecDepth 10000 in
theorem load_forwardDocument : Schema.load forwardDocument = .ok forwardSchema := by
  have spelled : forwardDocument = String.ofList _ :=
    Description.append_eq_ofList (Description.append_eq_ofList
      (Description.append_eq_ofList (Description.append_eq_ofList rfl rfl) rfl) rfl) rfl
  have text : Markup.events forwardDocument = Markup.eventsFrom [] _ :=
    Description.events_of_spelled spelled (by decide)
  rewrite [Schema.load, text]
  decide +kernel

theorem validate_forwardSchema : forwardSchema.validate = .ok () := by
  decide +kernel

theorem ofSchema_forwardSchema : Resolved.ofSchema forwardSchema = .ok forwardResolved := by
  have depths : forwardSchema.structDepths = .ok forwardResolved.depths := by decide +kernel
  have names : forwardSchema.structOrder forwardResolved.depths = ["S", "SType"] :=
    structOrder_eq_of_ascending (by decide +kernel) (by decide +kernel)
  rw [Resolved.ofSchema_of_structDepths depths, names]
  rfl

/-- The sections of the header. Their entities are described in order already. -/
def forwardItems (kind : SectionKind) : List Item :=
  -- sorts do not compute, so the lists stand here as they come out
  let naming := namingOf forwardResolved
  match kind with
  | .constants => []
  | .valueTypes =>
    paragraph (forwardSchema.valueTypes.map (valueDeclaration forwardResolved naming))
  | .handles => []
  | .functionPointers =>
    paragraph
      (forwardSchema.functionPointers.map (functionPointerDeclaration forwardResolved naming))
  | kind => kind.items forwardResolved naming (guardOf {} forwardResolved)

theorem pieces_forwardResolved :
    pieces {} forwardResolved = (Options.layout {}).flatMap forwardItems := by
  have items : SectionKind.items forwardResolved (namingOf forwardResolved)
      (guardOf {} forwardResolved) = forwardItems := by
    funext kind
    cases kind with
    | constants => exact congrArg paragraph (congrArg (List.map _) List.mergeSort_nil)
    | handles => exact congrArg paragraph (congrArg (List.map _) List.mergeSort_nil)
    | valueTypes =>
        refine congrArg paragraph (congrArg (List.map _) (List.mergeSort_of_pairwise ?_))
        decide +kernel
    | functionPointers =>
        refine congrArg paragraph (congrArg (List.map _) (List.mergeSort_of_pairwise ?_))
        decide +kernel
    | _ => rfl
  rw [pieces, sections, List.flatMap_map, ← items]

theorem forwardDocument_mention_settled :
    Schema.load forwardDocument = .ok forwardSchema ∧ forwardSchema.validate = .ok () ∧
      ∃ resolved, Resolved.ofSchema forwardSchema = .ok resolved ∧
        ∃ site : Site resolved,
          site.type = .reference "S" ∧ resolved.kind? "S" = some .struct ∧
          site.Orderly "S" .struct ∧ site.Settled {} "S" := by
  obtain ⟨resolved, ordered, settled⟩ := mention_settled load_forwardDocument validate_forwardSchema
  refine ⟨load_forwardDocument, validate_forwardSchema, resolved, ordered, ?_⟩
  rw [ofSchema_forwardSchema] at ordered
  cases ordered
  let site : Site forwardResolved := .parameter takingFunction (by decide +kernel)
    { name := "s", type := .reference "S" } (by decide +kernel)
  have known : forwardResolved.kind? "S" = some .struct := by decide +kernel
  have orderly : site.Orderly "S" .struct := nofun
  exact ⟨site, rfl, known, orderly, ((settled {}).2 site "S" .struct rfl known orderly).2.2⟩

/-- Mentions that come too early: of a structure and of a smaller name in a scalar, of a greater
name and, untagged, of a structure in a function pointer, and of a structure where chains
start. -/
def earlyMentions : List (Site forwardResolved × String) :=
  [(.underlying { name := "A", underlying := .reference "S" } (by decide +kernel), "S"),
    (.underlying { name := "B", underlying := .reference "A" } (by decide +kernel), "A"),
    (.parameter takingFunction (by decide +kernel) { name := "g", type := .reference "G" }
      (by decide +kernel), "G"),
    (.returned takingFunction (by decide +kernel), "S"),
    (.callback takenFunction (by decide +kernel) rfl, "S"), (.chainType .input, "SType"),
    (.chainType .output, "SType")]

theorem forwardDocument_not_settled :
    Schema.load forwardDocument = .ok forwardSchema ∧ forwardSchema.validate = .ok () ∧
      (forwardSchema.types.map (·.name) ++ forwardSchema.objects.map (·.name) ++
        forwardSchema.functionPointers.map (·.name)).Nodup ∧
      Resolved.ofSchema forwardSchema = .ok forwardResolved ∧
      ∀ mention ∈ earlyMentions,
        mention.1.type = .reference mention.2 ∧ (forwardResolved.kind? mention.2).isSome ∧
        ¬ mention.1.Settled {} mention.2 := by
  have unsettled : ∀ mention ∈ earlyMentions,
      mention.1.type = .reference mention.2 ∧ (forwardResolved.kind? mention.2).isSome ∧
      mention.1.text (namingOf forwardResolved) ∉
        (ahead (mention.1.user (namingOf forwardResolved))
          ((Options.layout {}).flatMap forwardItems)).filterMap Item.introduces? ∧
      "struct" ∉ mention.1.qualifiers (namingOf forwardResolved) := by
    decide +kernel
  refine ⟨load_forwardDocument, validate_forwardSchema, by decide +kernel,
    ofSchema_forwardSchema, ?_⟩
  intro mention early
  obtain ⟨refers, known, absent, untagged⟩ := unsettled mention early
  rw [← pieces_forwardResolved] at absent
  exact ⟨refers, known, Site.not_settled_of_ahead absent untagged⟩

end ApiHeader
