/-
# Attributes that are looked at

Most elements take all of their attributes. Three are only asked for their name, and to
them a single attribute is decisive: the first one that is the name or cannot be read.
Leaving out all others from their tags changes nothing. One law says so for each reader:
reading the curtailed events gives the same outcome and leaves what is left, curtailed.
-/

import ApiHeader.Proofs.Reading

namespace ApiHeader.Description

open ApiHeader.Markup ApiHeader.Schema

variable {α β σ : Type}

/-- The elements that are only asked for their name. -/
def nameOnly : List String := ["enum", "bitmask", "root"]

/-- Whether the search for a name ends at an attribute. -/
def isDecisive : Except AttributeFault Attribute → Bool
  | .ok item => item.key = "name"
  | .error _ => true

/-- The attributes of a tag that are looked at. -/
def looked (tag : Tag) : List (Except AttributeFault Attribute) :=
  if tag.name ∈ nameOnly then (tag.attributes.find? isDecisive).toList else tag.attributes

/-- A tag with only those attributes that are looked at. -/
def curtailTag (tag : Tag) : Tag :=
  { tag with attributes := looked tag }

/-- An event with only those attributes that are looked at. -/
def curtail : Event → Event
  | .start tag => .start (curtailTag tag)
  | .empty tag => .empty (curtailTag tag)
  | event => event

@[simp]
theorem name_curtailTag (tag : Tag) : (curtailTag tag).name = tag.name := rfl

theorem takeName_find? (element : String) (attributes : List (Except AttributeFault Attribute)) :
    takeName element (attributes.find? isDecisive).toList = takeName element attributes := by
  induction attributes with
  | nil => rfl
  | cons first rest ih =>
      cases first with
      | error fault => rfl
      | ok item =>
          by_cases named : item.key = "name"
          · rw [List.find?_cons_of_pos (by simpa [isDecisive] using named)]
            simp [takeName, named]
          · rw [List.find?_cons_of_neg (by simpa [isDecisive] using named), ih, takeName,
              if_neg named]

theorem nameOf_curtailTag (element : String) (tag : Tag) :
    nameOf element (curtailTag tag) = nameOf element tag := by
  rw [nameOf, curtailTag, looked]
  split
  · exact takeName_find? element tag.attributes
  · rfl

theorem curtailTag_of_other {tag : Tag} {name : String} (named : tag.name = name)
    (other : name ∉ nameOnly) : curtailTag tag = tag := by
  rw [curtailTag, looked, if_neg (named ▸ other)]

theorem curtail_filler {event : Event} (filler : isFiller event) : curtail event = event := by
  cases event <;> first | rfl | cases filler

/-! ## Content without children of interest -/

theorem skipFrom_curtail (depth : Nat) (events : List Event) :
    skipFrom depth (events.map curtail) = (skipFrom depth events).map (List.map curtail) := by
  induction events generalizing depth with
  | nil => rfl
  | cons event rest ih =>
      cases event with
      | start tag => exact ih (depth + 1)
      | close name =>
          cases depth with
          | zero => rfl
          | succ depth => exact ih depth
      | fault cause => rfl
      | empty tag => exact ih depth
      | text content => exact ih depth
      | cdata content => exact ih depth
      | reference name => exact ih depth
      | aside => exact ih depth

theorem textFrom_curtail (depth : Nat) (events : List Event) :
    textFrom depth (events.map curtail) =
      (textFrom depth events).map fun found => (found.1, found.2.map curtail) := by
  induction events generalizing depth with
  | nil => rfl
  | cons event rest ih =>
      rw [List.map_cons]
      cases event with
      | start tag => exact ih (depth + 1)
      | close name =>
          cases depth with
          | zero => rfl
          | succ depth => exact ih depth
      | fault cause => rfl
      | empty tag => exact ih depth
      | text content =>
          rw [curtail_filler rfl, textFrom, textFrom, ih]
          cases textFrom depth rest <;> rfl
      | cdata content =>
          rw [curtail_filler rfl, textFrom, textFrom, ih]
          cases textFrom depth rest <;> rfl
      | reference name =>
          rw [curtail_filler rfl, textFrom, textFrom, ih]
          cases resolveInText name with
          | error cause => rfl
          | ok c => cases textFrom depth rest <;> rfl
      | aside => exact ih depth

/-! ## Readers -/

/-- A reader goes on alike when the attributes that are not looked at are left out. -/
def Disregards (reader : Bool → ContentReader α) : Prop :=
  ∀ selfClosing events, (reader selfClosing).run (events.map curtail) =
    ((reader selfClosing).run events).map fun taken => (taken.1, taken.2.map curtail)

theorem Disregards.map {reader : Bool → ContentReader α} (disregards : Disregards reader)
    (f : α → β) : Disregards fun selfClosing => (reader selfClosing).map f := by
  intro selfClosing events
  rw [run_map, run_map, disregards]
  cases (reader selfClosing).run events <;> rfl

/-- A reader that looks at the tag first. -/
theorem disregards_of_tag (outcome : Except LoadError β) {reader : β → Bool → ContentReader α}
    (disregards : ∀ found, Disregards (reader found)) :
    Disregards fun selfClosing events =>
      outcome >>= fun found => reader found selfClosing events := by
  cases outcome with
  | error cause => exact fun _ _ => rfl
  | ok found => exact disregards found

theorem disregards_skipContent : Disregards skipContent := by
  intro selfClosing events
  cases selfClosing with
  | true => rfl
  | false =>
      rw [run_skipContent_false, run_skipContent_false, skipFrom_curtail]
      cases skipFrom 0 events <;> rfl

theorem disregards_leaf (outcome : Except LoadError α) : Disregards (leaf outcome) :=
  disregards_of_tag outcome fun _ => disregards_skipContent.map _

theorem disregards_trimmedText : Disregards trimmedText := by
  have collected : Disregards textContent := by
    intro selfClosing events
    cases selfClosing with
    | true => rfl
    | false =>
        rw [run_textContent_false, run_textContent_false, textFrom_curtail]
        cases textFrom 0 events <;> rfl
  exact collected.map Text.trim

section Children

variable {visit : Visitor σ}

theorem disregards_readChild
    (known : ∀ state tag reader, visit state tag = some reader → Disregards reader)
    (state : σ) (tag : Tag) : Disregards (readChild visit state tag) := by
  cases visited : visit state tag with
  | some reader =>
      intro selfClosing events
      rw [run_readChild_some visited, run_readChild_some visited]
      exact known state tag reader visited selfClosing events
  | none =>
      intro selfClosing events
      rw [run_readChild_none visited, run_readChild_none visited, disregards_skipContent]
      cases (skipContent selfClosing).run events <;> rfl

/-- Reading children goes on alike if the curtailed tag of a child has the same reader. -/
theorem disregards_children
    (same : ∀ state tag, visit state (curtailTag tag) = visit state tag)
    (known : ∀ state tag reader, visit state tag = some reader → Disregards reader)
    (state : σ) : Disregards (children visit state) := by
  intro selfClosing events
  cases selfClosing with
  | true => rfl
  | false =>
      -- a child leaves fewer events, so the induction is on their number
      induction size : events.length using Nat.strongRecOn generalizing state events with
      | ind length ih =>
          have child (tag : Tag) : readChild visit state (curtailTag tag) =
              readChild visit state tag := by
            unfold readChild
            rw [same]
          cases events with
          | nil => simp [Except.map]
          | cons event rest =>
              simp only [List.length_cons] at size
              rw [List.map_cons]
              rcases event_cases event with
                filler | ⟨tag, rfl⟩ | ⟨tag, rfl⟩ | ⟨name, rfl⟩ | ⟨cause, rfl⟩
              · rw [curtail_filler filler, run_children_filler filler, run_children_filler filler]
                exact ih rest.length (by omega) state rest rfl
              · rw [curtail, run_children_start, run_children_start, child,
                  disregards_readChild known state tag]
                cases read : (readChild visit state tag false).run rest with
                | error cause => rfl
                | ok taken =>
                    have fewer := length_of_run read
                    exact ih taken.2.length (by omega) taken.1 taken.2 rfl
              · rw [curtail, run_children_empty, run_children_empty, child,
                  disregards_readChild known state tag]
                cases read : (readChild visit state tag true).run rest with
                | error cause => rfl
                | ok taken =>
                    have fewer := length_of_run read
                    exact ih taken.2.length (by omega) taken.1 taken.2 rfl
              · simp [curtail, Except.map]
              · simp [curtail, Except.map]

/-- The readers that know one tag only. -/
theorem disregards_children_named {name : String} {read : σ → Tag → Bool → ContentReader σ}
    (same : ∀ state tag, tag.name = name → read state (curtailTag tag) = read state tag)
    (disregards : ∀ state tag, Disregards (read state tag)) (state : σ) :
    Disregards
      (children (fun state tag => if tag.name = name then some (read state tag) else none)
        state) := by
  refine disregards_children (fun state tag => ?_) (fun state tag reader visited => ?_) state
  · by_cases named : tag.name = name
    · rw [name_curtailTag, if_pos named, if_pos named, same state tag named]
    · rw [name_curtailTag, if_neg named, if_neg named]
  · split at visited <;> cases visited
    exact disregards state tag

end Children

theorem disregards_readEntries : Disregards readEntries :=
  disregards_children_named
    (fun _ _ named => by rw [curtailTag_of_other named (by decide)])
    (fun _ _ => disregards_leaf _) []

theorem disregards_readEnumeration (element : String) (tag : Tag) :
    Disregards (readEnumeration element tag) :=
  disregards_of_tag _ fun _ => disregards_readEntries.map _

theorem disregards_readFunction (tag : Tag) : Disregards (readFunction tag) :=
  disregards_of_tag _ (disregards_children_named
    (fun _ _ named => by rw [curtailTag_of_other named (by decide)])
    fun _ _ => disregards_leaf _)

theorem disregards_readFunctions : Disregards readFunctions :=
  disregards_children_named
    (fun _ _ named => by rw [curtailTag_of_other named (by decide)])
    (fun _ tag => (disregards_readFunction tag).map _) []

theorem disregards_readConstants (constants : List Constant) :
    Disregards (readConstants constants) :=
  disregards_children_named
    (fun _ _ named => by rw [curtailTag_of_other named (by decide)])
    (fun _ _ => disregards_leaf _) constants

theorem disregards_readObject (tag : Tag) : Disregards (readObject tag) :=
  disregards_of_tag _ (disregards_children_named (fun _ _ _ => rfl)
    fun _ _ => disregards_readFunctions.map _)

theorem disregards_readObjects (objects : List Object) : Disregards (readObjects objects) :=
  disregards_children_named
    (fun _ _ named => by rw [curtailTag_of_other named (by decide)])
    (fun _ tag => (disregards_readObject tag).map _) objects

theorem disregards_readChained (struct : Struct) (tag : Tag) :
    Disregards (readChained struct tag) := by
  have roots : Disregards (readRoots struct.chainRoots) :=
    disregards_children_named (fun _ tag _ => by rw [nameOf_curtailTag])
      (fun _ _ => disregards_leaf _) struct.chainRoots
  exact disregards_of_tag _ fun _ => roots.map _

theorem disregards_readStruct (tag : Tag) : Disregards (readStruct tag) := by
  refine disregards_of_tag _ (disregards_children (fun struct tag => ?_)
    fun struct tag reader visited => ?_)
  · by_cases other : tag.name ∈ nameOnly
    · simp only [nameOnly, List.mem_cons, List.not_mem_nil, or_false] at other
      rcases other with named | named | named <;> simp [visitStructPart, named]
    · rw [curtailTag_of_other rfl other]
  · rw [visitStructPart] at visited
    split at visited <;> cases visited
    · exact disregards_leaf _
    · exact disregards_readChained struct tag
    · exact disregards_readFunctions.map _

theorem disregards_readTypes (schema : Schema) : Disregards (readTypes schema) := by
  have enumeration (element : String) (tag : Tag) :
      readEnumeration element (curtailTag tag) = readEnumeration element tag := by
    unfold readEnumeration
    rw [nameOf_curtailTag]
  refine disregards_children (fun schema tag => ?_) (fun schema tag reader visited => ?_) schema
  · by_cases other : tag.name ∈ nameOnly
    · simp only [nameOnly, List.mem_cons, List.not_mem_nil, or_false] at other
      rcases other with named | named | named <;> simp [visitType, named, enumeration]
    · rw [curtailTag_of_other rfl other]
  · rw [visitType] at visited
    split at visited <;> cases visited
    · exact disregards_leaf _
    · exact (disregards_readEnumeration _ tag).map _
    · exact (disregards_readEnumeration _ tag).map _
    · exact (disregards_readStruct tag).map _

theorem disregards_readMetadata (found : Option String) : Disregards (readMetadata found) := by
  have prefixes (found : Option String) : Disregards (readPrefix found) :=
    disregards_children_named (fun _ _ _ => rfl) (fun _ _ => disregards_trimmedText.map some) found
  exact disregards_children_named (fun _ _ _ => rfl) (fun found _ => prefixes found) found

theorem run_readRoot_curtail (events : List Event) :
    readRoot.run (events.map curtail) =
      (readRoot.run events).map fun taken => (taken.1, taken.2.map curtail) := by
  refine disregards_children (fun draft tag => rfl) (fun draft tag reader visited => ?_) _ false
    events
  dsimp only [visitSection] at visited
  split at visited <;> cases visited
  · exact disregards_trimmedText.map _
  · exact (disregards_readMetadata _).map _
  · exact (disregards_readConstants _).map _
  · exact (disregards_readTypes _).map _
  · exact disregards_readFunctions.map _
  · exact disregards_readFunctions.map _
  · exact (disregards_readObjects _).map _

/-- What events describe does not depend on attributes that are not looked at. -/
theorem loadEvents_curtail (events : List Event) :
    loadEvents (events.map curtail) = loadEvents events := by
  induction events with
  | nil => rfl
  | cons event rest ih =>
      rw [List.map_cons]
      rcases event_cases event with
        filler | ⟨tag, rfl⟩ | ⟨tag, rfl⟩ | ⟨name, rfl⟩ | ⟨cause, rfl⟩
      · rw [curtail_filler filler, loadEvents_filler filler, loadEvents_filler filler, ih]
      · rw [curtail, loadEvents_start, loadEvents_start, run_readRoot_curtail]
        cases readRoot.run rest <;> rfl
      · rfl
      · exact ih
      · rfl

end ApiHeader.Description
