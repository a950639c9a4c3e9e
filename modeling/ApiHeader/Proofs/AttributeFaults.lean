/-
# Faults in attributes

An attribute is at fault if it is malformed or repeated, or if its value has a reference
that cannot be resolved. A fault among the attributes that are looked at refuses the
document. Most elements look at all of their attributes, wherever the fault is. Those that
are only asked for their name look at one of them, and a document with a fault in the
others is loaded like one without it.

An element is decoded where the events before it lead to a place that decodes elements of
its name. This says nothing about what follows, so documents that end early are covered.
For a document that is loaded, the root holds whole elements, and each reader vouches for
the elements in its part.
-/

import ApiHeader.Proofs.Attention
import ApiHeader.Proofs.Outline

namespace ApiHeader.Description

open ApiHeader.Markup ApiHeader.Schema

variable {α β σ : Type}

/-! ## Attributes -/

/-- An attribute that is malformed or repeated, or has a value that cannot be resolved. -/
inductive Faulty : Except AttributeFault Attribute → Prop
  | malformed (fault : AttributeFault) : Faulty (.error fault)
  | unresolved {item : Attribute} {fault : ReferenceFault}
      (refused : unescape item.value = .error fault) : Faulty (.ok item)

/-- A tag with a fault among the attributes that are looked at. -/
def Flawed (tag : Tag) : Prop :=
  ∃ item ∈ looked tag, Faulty item

theorem not_faulty_of_unescape {item : Attribute} {value : String}
    (resolved : (unescape item.value).mapError LoadError.reference = .ok value) :
    ¬ Faulty (.ok item) := by
  intro faulty
  cases faulty with
  | unresolved refused =>
      rw [refused] at resolved
      cases resolved

theorem not_faulty_of_takeFields {element : String} {allowed : String → String → Bool}
    {attributes : List (Except AttributeFault Attribute)} {entries : List (String × String)}
    (h : takeFields element allowed attributes = .ok entries) :
    ∀ item ∈ attributes, ¬ Faulty item := by
  induction attributes generalizing entries with
  | nil => exact List.forall_mem_nil _
  | cons first rest ih =>
      cases first with
      | error fault => cases h
      | ok item =>
          obtain ⟨value, resolved, h⟩ := bind_eq_ok_iff.1 h
          split at h
          · obtain ⟨others, taken, _⟩ := bind_eq_ok_iff.1 h
            exact List.forall_mem_cons.2 ⟨not_faulty_of_unescape resolved, ih taken⟩
          · cases h

theorem not_faulty_of_takeName {element name : String}
    {attributes : List (Except AttributeFault Attribute)}
    (h : takeName element attributes = .ok name) :
    ∀ item ∈ attributes.find? isDecisive, ¬ Faulty item := by
  rintro item decisive
  rw [← takeName_find?, Option.mem_def.1 decisive] at h
  cases item with
  | error fault => cases h
  | ok item =>
      have named : item.key = "name" := by simpa [isDecisive] using List.find?_some decisive
      rw [Option.toList_some, takeName, if_pos named] at h
      exact not_faulty_of_unescape h

/-! ## Elements that are decoded -/

namespace Place

/-- The elements whose attributes are looked at. -/
def decodes : Place → List String
  | constants => ["define"]
  | types => ["value", "enum", "bitmask", "struct"]
  | entries => ["entry"]
  | struct => ["member", "chained"]
  | chained => ["root"]
  | functions => ["function"]
  | function => ["arg"]
  | objects => ["object"]
  | _ => []

/-- Elements that are passed over are not looked at. -/
theorem not_mem_decodes {place : Place} {name : String} (unknown : place.enter name = skipped) :
    name ∉ place.decodes := by
  intro inside
  cases place <;> simp only [decodes, List.mem_cons, List.not_mem_nil, or_false] at inside <;>
    rcases inside with rfl | rfl | rfl | rfl <;> exact absurd unknown (by decide)

end Place

/-- An event that begins an element. -/
inductive Opens (tag : Tag) : Event → Prop
  | start : Opens tag (.start tag)
  | empty : Opens tag (.empty tag)

/-- The tag of an element inside the root at a place where its name is decoded. -/
inductive Decoded (events : List Event) (tag : Tag) : Prop
  | intro {lead inner rest : List Event} {root : Tag} {event : Event} {path : List String}
      (shape : events = lead ++ .start root :: (inner ++ event :: rest))
      (leads : ∀ event ∈ lead, leadsRoot event) (position : openAfter [] inner = some path)
      (opens : Opens tag event)
      (known : tag.name ∈ (placeOf (path ++ [root.name])).decodes)

/-- An element among others or inside of them, and the place at which it stands. -/
inductive Occurs : Place → List Node → Place → Node → Prop
  | here {place : Place} {elements : List Node} {element : Node} (inside : element ∈ elements) :
      Occurs place elements place element
  | within {place inner : Place} {elements : List Node} {outer element : Node}
      (inside : outer ∈ elements)
      (occurs : Occurs (place.enter outer.tag.name) outer.parts inner element) :
      Occurs place elements inner element

theorem Occurs.cons {place inner : Place} {elements : List Node} {element : Node} (first : Node)
    (occurs : Occurs place elements inner element) :
    Occurs place (first :: elements) inner element := by
  cases occurs with
  | here inside => exact .here (.tail _ inside)
  | within inside occurs => exact .within (.tail _ inside) occurs

/-- An element on either side of an end tag begins before it or after it. -/
theorem opens_append_close {tag : Tag} {event : Event} (opens : Opens tag event) {name : String}
    {before after inner rest : List Event}
    (shape : inner ++ .close name :: rest = before ++ event :: after) :
    (∃ more, inner = before ++ event :: more) ∨
      ∃ more, before = inner ++ .close name :: more ∧ rest = more ++ event :: after := by
  rcases List.append_eq_append_iff.1 shape with ⟨more, rfl, same⟩ | ⟨more, rfl, same⟩
  · cases more with
    | nil => cases opens <;> cases same
    | cons next more =>
        obtain ⟨rfl, rfl⟩ := List.cons.inj same
        exact .inr ⟨more, rfl, rfl⟩
  · cases more with
    | nil => cases opens <;> cases same
    | cons next more =>
        obtain ⟨rfl, _⟩ := List.cons.inj same
        exact .inl ⟨more, rfl⟩

/-- Every element that begins among whole elements occurs in their outline, at the place that
the open elements lead to. -/
theorem Nested.exists_occurs {content : List Event} (nested : Nested content) :
    ∃ parts, (∀ name rest, outlines (content ++ .close name :: rest) = parts :: outlines rest) ∧
      ∀ {opened path : List String} {before after : List Event} {event : Event} {tag : Tag},
        content = before ++ event :: after → Opens tag event →
          openAfter opened before = some path →
            ∃ element, element.tag = tag ∧
              Occurs (placeOf opened) parts (placeOf path) element := by
  induction nested with
  | nil => exact ⟨[], fun name rest => rfl, fun shape => by simp at shape⟩
  | @filler first rest filler others ih =>
      obtain ⟨parts, same, found⟩ := ih
      refine ⟨parts, fun name rest => (outlines_filler filler _).trans (same name rest), ?_⟩
      intro opened path before after event tag shape opens position
      cases before with
      | nil =>
          obtain ⟨rfl, _⟩ := List.cons.inj shape
          cases opens <;> cases filler
      | cons _ before =>
          obtain ⟨rfl, later⟩ := List.cons.inj shape
          rw [openAfter_filler filler] at position
          exact found later opens position
  | @empty first rest others ih =>
      obtain ⟨parts, same, found⟩ := ih
      refine ⟨⟨first, []⟩ :: parts, fun name rest => outlines_empty (same name rest), ?_⟩
      intro opened path before after event tag shape opens position
      cases before with
      | nil =>
          obtain ⟨rfl, _⟩ := List.cons.inj shape
          cases opens
          cases position
          exact ⟨_, rfl, .here (.head _)⟩
      | cons _ before =>
          obtain ⟨rfl, later⟩ := List.cons.inj shape
          obtain ⟨element, same, occurs⟩ := found later opens position
          exact ⟨element, same, occurs.cons _⟩
  | @element first last inside rest content others ihContent ihOthers =>
      obtain ⟨own, sameContent, foundContent⟩ := ihContent
      obtain ⟨parts, same, found⟩ := ihOthers
      refine ⟨⟨first, own⟩ :: parts, fun name rest => ?_, ?_⟩
      · rw [List.cons_append, List.append_assoc, List.cons_append]
        exact outlines_start (sameContent last _) (same name rest)
      intro opened path before after event tag shape opens position
      cases before with
      | nil =>
          obtain ⟨rfl, _⟩ := List.cons.inj shape
          cases opens
          cases position
          exact ⟨_, rfl, .here (.head _)⟩
      | cons _ before =>
          obtain ⟨rfl, later⟩ := List.cons.inj shape
          change openAfter (first.name :: opened) before = some path at position
          -- it begins in the content of the first element, or after the end tag of that
          rcases opens_append_close opens later with ⟨more, early⟩ | ⟨more, rfl, late⟩
          · obtain ⟨element, same, occurs⟩ := foundContent early opens position
            exact ⟨element, same, .within (.head _) occurs⟩
          · have closed := content.openAfter_append position
            rw [openAfter] at closed
            split at closed
            · obtain ⟨element, same, occurs⟩ := found late opens closed
              exact ⟨element, same, occurs.cons _⟩
            · cases closed

/-- Elements that stay open all the time do not matter to what happens inside of them. -/
theorem openAfter_outer {opened left : List String} {events : List Event}
    (h : openAfter opened events = some left) (outer : List String) :
    openAfter (opened ++ outer) events = some (left ++ outer) := by
  induction events generalizing opened with
  | nil =>
      cases h
      rfl
  | cons event rest ih =>
      rcases event_cases event with
        filler | ⟨tag, rfl⟩ | ⟨tag, rfl⟩ | ⟨name, rfl⟩ | ⟨cause, rfl⟩
      · rw [openAfter_filler filler] at h ⊢
        exact ih h
      · exact ih h
      · exact ih h
      · cases opened with
        | nil => cases h
        | cons innermost opened =>
            rw [openAfter] at h
            rw [List.cons_append, openAfter]
            split at h
            · next same =>
              rw [if_pos same]
              exact ih h
            · cases h
      · cases h

/-! ## Elements that were accepted -/

/-- All elements that are decoded, also those inside of others, are without a flaw. -/
def Vetted (place : Place) (elements : List Node) : Prop :=
  ∀ {inner : Place} {element : Node}, Occurs place elements inner element →
    element.tag.name ∈ inner.decodes → ¬ Flawed element.tag

/-- An element at a place is without a flaw, and so is what it holds. -/
structure Passed (place : Place) (element : Node) : Prop where
  tag : element.tag.name ∈ place.decodes → ¬ Flawed element.tag
  parts : Vetted (place.enter element.tag.name) element.parts

theorem vetted_of_passed {place : Place} {elements : List Node}
    (passed : ∀ element ∈ elements, Passed place element) : Vetted place elements := by
  intro inner element occurs decoded
  cases occurs with
  | here inside => exact (passed element inside).tag decoded
  | within inside occurs => exact (passed _ inside).parts occurs decoded

/-- The places inside of which no attributes are looked at. -/
def Place.unseen : List Place := [.metadata, .prefixes, .leaf, .text, .skipped]

theorem Place.enter_mem_unseen {place : Place} (unseen : place ∈ Place.unseen) (name : String) :
    place.enter name ∈ Place.unseen := by
  simp only [Place.unseen, List.mem_cons, List.not_mem_nil, or_false] at unseen
  rcases unseen with rfl | rfl | rfl | rfl | rfl <;>
    simp only [enter, known, List.lookup_cons, List.lookup_nil]
  · cases name == "prefix" <;> decide
  · cases name == "c" <;> decide
  all_goals decide

theorem vetted_of_unseen {place : Place} (unseen : place ∈ Place.unseen) (elements : List Node) :
    Vetted place elements := by
  intro inner element occurs decoded
  induction occurs with
  | here inside =>
      simp only [Place.unseen, List.mem_cons, List.not_mem_nil, or_false] at unseen
      rcases unseen with rfl | rfl | rfl | rfl | rfl <;> cases decoded
  | within inside occurs ih => exact ih (Place.enter_mem_unseen unseen _) decoded

/-! ## Readers -/

theorem Through.forall_mem {holds : Node → Prop} {state final : σ} {elements : List Node}
    (through : Through (fun _ element _ => holds element) state elements final) :
    ∀ element ∈ elements, holds element := by
  induction through with
  | nil => exact List.forall_mem_nil _
  | cons first others ih => exact List.forall_mem_cons.2 ⟨first, ih⟩

section Children

variable {place : Place} {visit : Visitor σ}

/-- A reader of children vouches for them if the readers of the children do, and those that
are passed over are not decoded. -/
theorem vetted_children
    (known : ∀ state tag reader, visit state tag = some reader →
      Means reader fun parts _ => Passed place ⟨tag, parts⟩)
    (unknown : ∀ state tag, visit state tag = none → place.enter tag.name = .skipped)
    (state : σ) : Means (children visit state) fun parts _ => Vetted place parts := by
  have passed_over (state : σ) (tag : Tag) (parts : List Node) (visited : visit state tag = none) :
      Passed place ⟨tag, parts⟩ := by
    have skipped := unknown state tag visited
    refine ⟨fun decoded => absurd decoded (Place.not_mem_decodes skipped), ?_⟩
    rw [skipped]
    exact vetted_of_unseen (by decide) parts
  have means : Means (children visit state) fun parts final =>
      Through (fun _ element _ => Passed place element) state parts final :=
    means_children known passed_over state
  exact means.imp fun parts final through => vetted_of_passed through.forall_mem

/-- The readers that know one tag only. -/
theorem vetted_children_named {name : String} {read : σ → Tag → Bool → ContentReader σ}
    (strict : place.keepsAll = false) (only : place.known.map Prod.fst = [name])
    (passed : ∀ state tag, tag.name = name →
      Means (read state tag) fun parts _ => Passed place ⟨tag, parts⟩) (state : σ) :
    Means
      (children (fun state tag => if tag.name = name then some (read state tag) else none) state)
      fun parts _ => Vetted place parts := by
  refine vetted_children (fun state tag reader visited => ?_) (fun state tag visited => ?_) state
  · split at visited
    · next named =>
      cases visited
      exact passed state tag named
    · cases visited
  · split at visited
    · cases visited
    · next other =>
      refine Place.enter_of_unknown strict ?_
      rw [only]
      exact mt List.mem_singleton.1 other

end Children

section Tags

variable {place : Place} {tag : Tag} {name : String}

/-- A reader that looks at the tag first. -/
theorem passed_of_tag (inner : Place) {outcome : Except LoadError β}
    {reader : β → Bool → ContentReader α} (named : tag.name = name)
    (inside : place.enter name = inner) (sound : ∀ {found}, outcome = .ok found → ¬ Flawed tag)
    (content : ∀ found, Means (reader found) fun parts _ => Vetted inner parts) :
    Means (fun selfClosing events => outcome >>= fun found => reader found selfClosing events)
      fun parts _ => Passed place ⟨tag, parts⟩ := by
  subst named inside
  exact means_of_tag fun found same => (content found).imp fun parts value vetted =>
    ⟨fun _ => sound same, vetted⟩

theorem passed_leaf {read : Tag → Except LoadError β} {add : β → α} (named : tag.name = name)
    (inside : place.enter name = .leaf) (sound : ∀ {found}, read tag = .ok found → ¬ Flawed tag) :
    Means (leaf ((read tag).map add)) fun parts _ => Passed place ⟨tag, parts⟩ := by
  refine passed_of_tag .leaf named inside (fun same => ?_) fun found => ?_
  · obtain ⟨entry, read, _⟩ := ok_of_map same
    exact sound read
  · exact exact_skipContent.means.map _ fun parts _ _ => vetted_of_unseen (by decide) parts

/-- An element whose attributes are not looked at. -/
theorem passed_section (inner : Place) {reader : Bool → ContentReader α} {add : α → β}
    (named : tag.name = name) (inside : place.enter name = inner) (untold : name ∉ place.decodes)
    (content : Means reader fun parts _ => Vetted inner parts) :
    Means (fun selfClosing => (reader selfClosing).map add)
      fun parts _ => Passed place ⟨tag, parts⟩ := by
  subst named inside
  exact content.map add fun _ _ vetted => ⟨fun decoded => absurd decoded untold, vetted⟩

/-- What looks at the fields of an element first accepts none with a flaw. -/
theorem not_flawed_of_fields {element : String} {allowed : String → String → Bool}
    {continued : Fields → Except LoadError α} {found : α} (named : tag.name = name)
    (other : name ∉ nameOnly) (h : fieldsOf element allowed tag >>= continued = .ok found) :
    ¬ Flawed tag := by
  obtain ⟨fields, taken, _⟩ := bind_eq_ok_iff.1 h
  obtain ⟨entries, taken, _⟩ := ok_of_map taken
  rintro ⟨item, inside, faulty⟩
  rw [looked, if_neg (named ▸ other)] at inside
  exact not_faulty_of_takeFields taken item inside faulty

theorem not_flawed_of_nameOf {element found : String} (named : tag.name = name)
    (only : name ∈ nameOnly) (h : nameOf element tag = .ok found) : ¬ Flawed tag := by
  rintro ⟨item, inside, faulty⟩
  rw [looked, if_pos (named ▸ only)] at inside
  exact not_faulty_of_takeName h item (Option.mem_toList.1 inside) faulty

end Tags

theorem vetted_readEntries : Means readEntries fun parts _ => Vetted .entries parts :=
  vetted_children_named rfl rfl (fun _ _ named => passed_leaf named rfl
    (not_flawed_of_fields named (by decide))) []

theorem passed_readEnumeration {element : String} {tag : Tag} (named : tag.name = element)
    (inside : Place.types.enter element = .entries) (only : element ∈ nameOnly) :
    Means (readEnumeration element tag) fun parts _ => Passed .types ⟨tag, parts⟩ :=
  passed_of_tag .entries named inside (not_flawed_of_nameOf named only) fun _ =>
    vetted_readEntries.map _ fun _ _ vetted => vetted

theorem passed_readFunction {tag : Tag} (named : tag.name = "function") :
    Means (readFunction tag) fun parts _ => Passed .functions ⟨tag, parts⟩ :=
  passed_of_tag .function named rfl (not_flawed_of_fields named (by decide))
    (vetted_children_named rfl rfl fun _ _ named => passed_leaf named rfl
      (not_flawed_of_fields named (by decide)))

theorem vetted_readFunctions : Means readFunctions fun parts _ => Vetted .functions parts :=
  vetted_children_named rfl rfl (fun _ _ named =>
    (passed_readFunction named).map _ fun _ _ passed => passed) []

theorem vetted_readConstants (constants : List Constant) :
    Means (readConstants constants) fun parts _ => Vetted .constants parts :=
  vetted_children_named rfl rfl (fun _ _ named => passed_leaf named rfl
    (not_flawed_of_fields named (by decide))) constants

theorem passed_readObject {tag : Tag} (named : tag.name = "object") :
    Means (readObject tag) fun parts _ => Passed .objects ⟨tag, parts⟩ :=
  passed_of_tag .object named rfl (not_flawed_of_fields named (by decide))
    (vetted_children_named rfl rfl fun _ _ named =>
      passed_section .functions named rfl (by decide) vetted_readFunctions)

theorem vetted_readObjects (objects : List Object) :
    Means (readObjects objects) fun parts _ => Vetted .objects parts :=
  vetted_children_named rfl rfl (fun _ _ named =>
    (passed_readObject named).map _ fun _ _ passed => passed) objects

theorem passed_readChained (struct : Struct) {tag : Tag} (named : tag.name = "chained") :
    Means (readChained struct tag) fun parts _ => Passed .struct ⟨tag, parts⟩ := by
  have roots : Means (readRoots struct.chainRoots) fun parts _ => Vetted .chained parts :=
    vetted_children_named rfl rfl (fun _ _ named => passed_leaf named rfl
      (not_flawed_of_nameOf named (by decide))) struct.chainRoots
  exact passed_of_tag .chained named rfl (not_flawed_of_fields named (by decide)) fun _ =>
    roots.map _ fun _ _ vetted => vetted

theorem passed_readStruct {tag : Tag} (named : tag.name = "struct") :
    Means (readStruct tag) fun parts _ => Passed .types ⟨tag, parts⟩ := by
  refine passed_of_tag .struct named rfl (not_flawed_of_fields named (by decide))
    (vetted_children (fun struct tag reader visited => ?_) fun struct tag visited => ?_)
  · rw [visitStructPart] at visited
    split at visited <;> cases visited
    · next named => exact passed_leaf named rfl (not_flawed_of_fields named (by decide))
    · next named => exact passed_readChained struct named
    · next named => exact passed_section .functions named rfl (by decide) vetted_readFunctions
  · rw [visitStructPart] at visited
    split at visited <;> cases visited
    exact Place.enter_of_unknown rfl (by simp_all [Place.known])

theorem vetted_readTypes (schema : Schema) :
    Means (readTypes schema) fun parts _ => Vetted .types parts := by
  refine vetted_children (fun schema tag reader visited => ?_) (fun schema tag visited => ?_) schema
  · rw [visitType] at visited
    split at visited <;> cases visited
    · next named => exact passed_leaf named rfl (not_flawed_of_fields named (by decide))
    · next named =>
      exact (passed_readEnumeration named rfl (by decide)).map _ fun _ _ passed => passed
    · next named =>
      exact (passed_readEnumeration named rfl (by decide)).map _ fun _ _ passed => passed
    · next named => exact (passed_readStruct named).map _ fun _ _ passed => passed
  · rw [visitType] at visited
    split at visited <;> cases visited
    exact Place.enter_of_unknown rfl (by simp_all [Place.known])

/-- Whatever is made of the root element, all that is decoded in it is without a flaw. -/
theorem exists_vetted_of_readRoot {draft : Draft} {events rest : List Event}
    (h : readRoot.run events = .ok (draft, rest)) :
    ∃ parts, outlines events = parts :: outlines rest ∧ Vetted .root parts := by
  refine (vetted_children (fun draft tag reader visited => ?_)
    (fun draft tag visited => ?_) _).content h
  · dsimp only [visitSection] at visited
    split at visited <;> cases visited
    · next named =>
      exact passed_section .text named rfl (by decide)
        (exact_trimmedText.means.imp fun parts _ _ => vetted_of_unseen (by decide) parts)
    · next named =>
      exact passed_section .metadata named rfl (by decide)
        ((exact_readMetadata _).means.imp fun parts _ _ => vetted_of_unseen (by decide) parts)
    · next named => exact passed_section .constants named rfl (by decide) (vetted_readConstants _)
    · next named => exact passed_section .types named rfl (by decide) (vetted_readTypes _)
    · next named => exact passed_section .functions named rfl (by decide) vetted_readFunctions
    · next named => exact passed_section .functions named rfl (by decide) vetted_readFunctions
    · next named => exact passed_section .objects named rfl (by decide) (vetted_readObjects _)
  · dsimp only [visitSection] at visited
    split at visited <;> cases visited
    exact Place.enter_of_unknown rfl (by simp_all [Place.known])

/-! ## Documents -/

/-- An element of a description that is decoded is without a flaw. -/
theorem not_flawed_of_loadEvents {events : List Event} {schema : Schema} {tag : Tag}
    (decoded : Decoded events tag) (loaded : loadEvents events = .ok schema) : ¬ Flawed tag := by
  obtain @⟨lead, inner, rest, root, event, path, rfl, leads, position, opens, known⟩ := decoded
  rw [loadEvents_append leads, loadEvents_start] at loaded
  obtain ⟨⟨draft, left⟩, read, _⟩ := bind_eq_ok_iff.1 loaded
  obtain ⟨content, name, nested, shape, _⟩ := exists_nested_of_readRoot read
  obtain ⟨vetted, outline, sound⟩ := exists_vetted_of_readRoot read
  obtain ⟨parts, same, found⟩ := nested.exists_occurs
  rw [shape, same] at outline
  obtain ⟨rfl, _⟩ := List.cons.inj outline
  rcases opens_append_close opens shape.symm with ⟨more, early⟩ | ⟨more, rfl, _⟩
  · obtain ⟨element, rfl, occurs⟩ := found early opens (openAfter_outer position [root.name])
    exact sound occurs known
  · -- the root would be closed before the element begins
    cases nested.openAfter_append position

end ApiHeader.Description

namespace ApiHeader

open Description Markup

/-- A document is refused if an element that is decoded has a fault in any of its attributes
or, if it is only asked for its name, in the attribute that decides about the name. The other
attributes of the latter do not matter. -/
theorem load_of_faulty_attributes (document : String) :
    (∀ tag, Decoded (events document) tag → tag.name ∉ nameOnly →
      (∃ item ∈ tag.attributes, Faulty item) → ∃ cause, Schema.load document = .error cause) ∧
    (∀ tag, Decoded (events document) tag → tag.name ∈ nameOnly →
      (∃ item ∈ tag.attributes.find? isDecisive, Faulty item) →
        ∃ cause, Schema.load document = .error cause) ∧
    ∀ other : String, (events other).map curtail = (events document).map curtail →
      Schema.load other = Schema.load document := by
  have refused (tag : Tag) (decoded : Decoded (events document) tag) (flawed : Flawed tag) :
      ∃ cause, Schema.load document = .error cause := by
    cases loaded : Schema.load document with
    | error cause => exact ⟨cause, rfl⟩
    | ok schema => exact absurd flawed (not_flawed_of_loadEvents decoded loaded)
  refine ⟨?_, ?_, ?_⟩
  · rintro tag decoded other ⟨item, inside, faulty⟩
    refine refused tag decoded ⟨item, ?_, faulty⟩
    rwa [looked, if_neg other]
  · rintro tag decoded only ⟨item, decisive, faulty⟩
    refine refused tag decoded ⟨item, ?_, faulty⟩
    rw [looked, if_pos only]
    exact Option.mem_toList.2 decisive
  · intro other same
    rw [Schema.load, ← loadEvents_curtail, same, loadEvents_curtail, Schema.load]

/-- A member with a fault in an attribute that nothing is made of. -/
def notedDocument : String :=
  "<api><metadata><prefix><c>P</c></prefix></metadata><types>
    <struct name='S'><member name='x' type='int' note='&no;'/></struct>
  </types></api>"

def notedMember : Tag :=
  ⟨"member", [.ok ⟨"name", "x"⟩, .ok ⟨"type", "int"⟩, .ok ⟨"note", "&no;"⟩]⟩

/-- An enumeration with a fault in front of its name. -/
def wideDocument : String :=
  "<api><metadata><prefix><c>P</c></prefix></metadata><types>
    <enum wide name='E'/>
  </types></api>"

def wideEnum : Tag := ⟨"enum", [.error (.noEquals 10)]⟩

/-- Elements that are only asked for their name, each with a fault after it. -/
def repeatedDocument : String :=
  "<api><metadata><prefix><c>P</c></prefix></metadata><types>
    <enum name='A' name='B'/><bitmask name='M' wide/>
    <struct name='S'><chained dir='in'><root name='R' of='&no;'/></chained></struct>
  </types></api>"

def repeatedEnum : Tag := ⟨"enum", [.ok ⟨"name", "A"⟩, .error (.duplicated 14 5)]⟩

def wideBitmask : Tag := ⟨"bitmask", [.ok ⟨"name", "M"⟩, .error (.noEquals 21)]⟩

def unknownRoot : Tag := ⟨"root", [.ok ⟨"name", "R"⟩, .ok ⟨"of", "&no;"⟩]⟩

/-- The same elements with nothing after the name. -/
def plainDocument : String :=
  "<api><metadata><prefix><c>P</c></prefix></metadata><types>
    <enum name='A'/><bitmask name='M'/>
    <struct name='S'><chained dir='in'><root name='R'/></chained></struct>
  </types></api>"

/-- What stands in front of the types. -/
def metadataEvents : List Event :=
  [.start ⟨"metadata", []⟩, .start ⟨"prefix", []⟩, .start ⟨"c", []⟩, .text "P", .close "c",
    .close "prefix", .close "metadata", .start ⟨"types", []⟩, .text "\n    "]

/-- The events of a document with an enumeration, a bitmask and a chain root. -/
def namedEvents (enum bitmask root : Tag) : List Event :=
  .start ⟨"api", []⟩ :: (metadataEvents ++
    [.empty enum, .empty bitmask, .text "\n    ", .start ⟨"struct", [.ok ⟨"name", "S"⟩]⟩,
      .start ⟨"chained", [.ok ⟨"dir", "in"⟩]⟩, .empty root, .close "chained", .close "struct",
      .text "\n  ", .close "types", .close "api"])

set_option maxRecDepth 10000 in
theorem events_repeatedDocument :
    events repeatedDocument = namedEvents repeatedEnum wideBitmask unknownRoot := by
  have text : events repeatedDocument = eventsFrom [] _ := events_ofList (by decide)
  rw [text]
  decide +kernel

set_option maxRecDepth 10000 in
theorem events_plainDocument : events plainDocument =
    namedEvents (curtailTag repeatedEnum) (curtailTag wideBitmask) (curtailTag unknownRoot) := by
  have text : events plainDocument = eventsFrom [] _ := events_ofList (by decide)
  rw [text]
  decide +kernel

theorem unescape_unknown : unescape "&no;" = .error (.unknownEntity 1 3 "no") := by
  decide +kernel

set_option maxRecDepth 10000 in
theorem decoded_notedMember : Decoded (events notedDocument) notedMember := by
  have text : events notedDocument = eventsFrom [] _ := events_ofList (by decide)
  have shape : events notedDocument = [] ++ .start ⟨"api", []⟩ ::
      (metadataEvents ++ [.start ⟨"struct", [.ok ⟨"name", "S"⟩]⟩] ++ .empty notedMember ::
        [.close "struct", .text "\n  ", .close "types", .close "api"]) := by
    rw [text]
    decide +kernel
  exact .intro shape (List.forall_mem_nil _) rfl .empty (by decide)

set_option maxRecDepth 10000 in
theorem decoded_wideEnum : Decoded (events wideDocument) wideEnum := by
  have text : events wideDocument = eventsFrom [] _ := events_ofList (by decide)
  have shape : events wideDocument = [] ++ .start ⟨"api", []⟩ ::
      (metadataEvents ++ .empty wideEnum :: [.text "\n  ", .close "types", .close "api"]) := by
    rw [text]
    decide +kernel
  exact .intro shape (List.forall_mem_nil _) rfl .empty (by decide)

theorem notedDocument_refused :
    (Decoded (events notedDocument) notedMember ∧
      ∃ cause, Schema.load notedDocument = .error cause) ∧
    (Decoded (events wideDocument) wideEnum ∧
      ∃ cause, Schema.load wideDocument = .error cause) ∧
    Schema.load plainDocument = Schema.load repeatedDocument := by
  refine ⟨⟨decoded_notedMember, ?_⟩, ⟨decoded_wideEnum, ?_⟩, ?_⟩
  · refine (load_of_faulty_attributes notedDocument).1 notedMember decoded_notedMember
      (by decide) ?_
    exact ⟨.ok ⟨"note", "&no;"⟩, by simp [notedMember], .unresolved unescape_unknown⟩
  · refine (load_of_faulty_attributes wideDocument).2.1 wideEnum decoded_wideEnum (by decide) ?_
    exact ⟨.error (.noEquals 10), rfl, .malformed _⟩
  · refine (load_of_faulty_attributes repeatedDocument).2.2 plainDocument ?_
    rw [events_plainDocument, events_repeatedDocument]
    rfl

theorem decoded_repeatedDocument :
    ∀ tag ∈ [repeatedEnum, wideBitmask, unknownRoot], Decoded (events repeatedDocument) tag := by
  rw [events_repeatedDocument]
  have enum : Decoded (namedEvents repeatedEnum wideBitmask unknownRoot) repeatedEnum :=
    .intro (show _ = [] ++ .start _ :: (metadataEvents ++ .empty repeatedEnum :: _) from rfl)
      (List.forall_mem_nil _) rfl .empty (by decide)
  have bitmask : Decoded (namedEvents repeatedEnum wideBitmask unknownRoot) wideBitmask :=
    .intro (show _ = [] ++ .start _ :: (metadataEvents ++ [.empty repeatedEnum] ++
      .empty wideBitmask :: _) from rfl) (List.forall_mem_nil _) rfl .empty (by decide)
  have root : Decoded (namedEvents repeatedEnum wideBitmask unknownRoot) unknownRoot :=
    .intro (show _ = [] ++ .start _ :: (metadataEvents ++ [.empty repeatedEnum, .empty wideBitmask,
      .text "\n    ", .start ⟨"struct", [.ok ⟨"name", "S"⟩]⟩,
      .start ⟨"chained", [.ok ⟨"dir", "in"⟩]⟩] ++ .empty unknownRoot :: _) from rfl)
      (List.forall_mem_nil _) rfl .empty (by decide)
  simp [enum, bitmask, root]

/-- A repeated, a malformed and an unresolved attribute after the name are not noticed. -/
theorem repeatedDocument_loads :
    (∀ tag ∈ [repeatedEnum, wideBitmask, unknownRoot],
      Decoded (events repeatedDocument) tag ∧ ∃ item ∈ tag.attributes, Faulty item) ∧
    ∃ schema, Schema.load repeatedDocument = .ok schema ∧
      schema.types.map Schema.TypeDef.name = ["A", "M", "S"] := by
  have faulty : ∀ tag ∈ [repeatedEnum, wideBitmask, unknownRoot],
      ∃ item ∈ tag.attributes, Faulty item := by
    refine List.forall_mem_cons.2 ⟨?_, List.forall_mem_cons.2 ⟨?_, List.forall_mem_singleton.2 ?_⟩⟩
    · exact ⟨_, .tail _ (.head _), .malformed _⟩
    · exact ⟨_, .tail _ (.head _), .malformed _⟩
    · exact ⟨_, .tail _ (.head _), .unresolved unescape_unknown⟩
  have named : (Schema.load repeatedDocument).map
      (fun schema => schema.types.map Schema.TypeDef.name) = .ok ["A", "M", "S"] := by
    rw [Schema.load, events_repeatedDocument]
    decide +kernel
  obtain ⟨schema, loaded, same⟩ := ok_of_map named
  exact ⟨fun tag inside => ⟨decoded_repeatedDocument tag inside, faulty tag inside⟩,
    schema, loaded, same.symm⟩

end ApiHeader
