/-
# What a reader takes

A content reader takes the content of its element and the end tag, and nothing else:
whole elements, what stands between them, and one end tag more than start tags. It
never looks at what follows, so what follows could be anything. One law says this of
each reader. For a reader of children it comes from the readers of the children, so
it holds for the root element, and the events up to the root's end tag alone decide
what a document describes.
-/

import ApiHeader.Proofs.Relevance

namespace ApiHeader.Description

open ApiHeader.Markup

variable {α β σ : Type}

/-! ## Whole elements -/

/-- Events that hold whole elements only. -/
inductive Nested : List Event → Prop
  | nil : Nested []
  | filler {event : Event} {rest : List Event} (filler : isFiller event) (others : Nested rest) :
      Nested (event :: rest)
  | empty {tag : Tag} {rest : List Event} (others : Nested rest) : Nested (.empty tag :: rest)
  | element {tag : Tag} {name : String} {inner rest : List Event} (content : Nested inner)
      (others : Nested rest) : Nested (.start tag :: (inner ++ .close name :: rest))

/-- A text in front of the text that was found later. -/
def inFrontOf (front : Except LoadError (List Char))
    (found : Except LoadError (List Char × List Event)) :
    Except LoadError (List Char × List Event) :=
  front >>= fun text => found.map fun later => (text ++ later.1, later.2)

theorem inFrontOf_nil (found : Except LoadError (List Char × List Event)) :
    inFrontOf (.ok []) found = found := by
  cases found <;> rfl

theorem inFrontOf_inFrontOf (first second : Except LoadError (List Char))
    (found : Except LoadError (List Char × List Event)) :
    inFrontOf first (inFrontOf second found) =
      inFrontOf (first >>= fun text => second.map (text ++ ·)) found := by
  cases first with
  | error cause => rfl
  | ok text =>
      cases second with
      | error cause => rfl
      | ok later =>
          cases found with
          | error cause => rfl
          | ok rest => exact congrArg Except.ok (by simp)

theorem exists_textFrom_cons {event : Event} (filler : isFiller event) : ∃ front, ∀ depth rest,
    textFrom depth (event :: rest) = inFrontOf front (textFrom depth rest) := by
  cases event with
  | text content =>
      refine ⟨.ok (Text.unifyLineEnds content.toList), fun depth rest => ?_⟩
      rw [textFrom]
      cases textFrom depth rest <;> rfl
  | cdata content =>
      refine ⟨.ok (Text.unifyLineEnds content.toList), fun depth rest => ?_⟩
      rw [textFrom]
      cases textFrom depth rest <;> rfl
  | reference name =>
      refine ⟨(resolveInText name).map ([·]), fun depth rest => ?_⟩
      rw [textFrom]
      cases resolveInText name with
      | error cause => rfl
      | ok c => cases textFrom depth rest <;> rfl
  | aside => exact ⟨.ok [], fun depth rest => (inFrontOf_nil _).symm⟩
  | start tag => cases filler
  | empty tag => cases filler
  | close name => cases filler
  | fault cause => cases filler

namespace Nested

variable {inner : List Event}

theorem fault_not_mem (nested : Nested inner) (cause : Fault) : .fault cause ∉ inner := by
  induction nested with
  | nil => simp
  | @filler event rest filler others ih =>
      rw [List.mem_cons, not_or]
      refine ⟨?_, ih⟩
      rintro rfl
      cases filler
  | empty others ih => simpa using ih
  | element content others ihContent ihOthers => simp [ihContent, ihOthers]

/-- Whole elements are passed over at any depth. -/
theorem skipFrom_append (nested : Nested inner) (depth : Nat) (rest : List Event) :
    skipFrom depth (inner ++ rest) = skipFrom depth rest := by
  induction nested generalizing depth rest with
  | nil => rfl
  | filler filler others ih => rw [List.cons_append, skipFrom_filler filler, ih]
  | empty others ih => exact ih depth rest
  | @element tag name inner others' content others ihContent ihOthers =>
      rw [List.cons_append, List.append_assoc]
      change skipFrom (depth + 1) (inner ++ .close name :: (others' ++ rest)) = _
      rw [ihContent]
      exact ihOthers depth rest

/-- Whole elements leave those elements open that were open before. -/
theorem openAfter_append (nested : Nested inner) {path left : List String} {rest : List Event}
    (h : openAfter path (inner ++ rest) = some left) : openAfter path rest = some left := by
  induction nested generalizing path rest with
  | nil => exact h
  | filler filler others ih =>
      rw [List.cons_append, openAfter_filler filler] at h
      exact ih h
  | empty others ih => exact ih h
  | @element tag name inner others' content others ihContent ihOthers =>
      rw [List.cons_append, List.append_assoc] at h
      have inside : openAfter (tag.name :: path) (.close name :: (others' ++ rest)) = some left :=
        ihContent h
      by_cases same : tag.name = name
      · simp only [openAfter, same, if_true] at inside
        exact ihOthers inside
      · simp [openAfter, same] at inside

/-- The text of whole elements stands in front of the text of what follows. -/
theorem exists_textFrom_append (nested : Nested inner) : ∃ front, ∀ depth rest,
    textFrom depth (inner ++ rest) = inFrontOf front (textFrom depth rest) := by
  induction nested with
  | nil => exact ⟨.ok [], fun depth rest => (inFrontOf_nil _).symm⟩
  | filler filler others ih =>
      obtain ⟨own, first⟩ := exists_textFrom_cons filler
      obtain ⟨front, later⟩ := ih
      refine ⟨own >>= fun text => front.map (text ++ ·), fun depth rest => ?_⟩
      rw [List.cons_append, first, later, inFrontOf_inFrontOf]
  | empty others ih => exact ih
  | @element tag name inner others' content others ihContent ihOthers =>
      obtain ⟨own, first⟩ := ihContent
      obtain ⟨front, later⟩ := ihOthers
      refine ⟨own >>= fun text => front.map (text ++ ·), fun depth rest => ?_⟩
      rw [List.cons_append, List.append_assoc]
      change textFrom (depth + 1) (inner ++ .close name :: (others' ++ rest)) = _
      rw [first]
      change inFrontOf own (textFrom depth (others' ++ rest)) = _
      rw [later, inFrontOf_inFrontOf]

end Nested

/-- What is passed over up to an end tag is whole elements. -/
theorem exists_nested_of_skipFrom {events rest : List Event} (h : skipFrom 0 events = .ok rest) :
    ∃ inner name, Nested inner ∧ events = inner ++ .close name :: rest := by
  induction size : events.length using Nat.strongRecOn generalizing events rest with
  | ind length ih =>
      cases events with
      | nil => cases h
      | cons event following =>
          simp only [List.length_cons] at size
          rcases event_cases event with
            filler | ⟨tag, rfl⟩ | ⟨tag, rfl⟩ | ⟨name, rfl⟩ | ⟨cause, rfl⟩
          · rw [skipFrom_filler filler] at h
            obtain ⟨inner, name, nested, rfl⟩ := ih following.length (by omega) h rfl
            exact ⟨event :: inner, name, .filler filler nested, rfl⟩
          · change skipFrom 1 following = .ok rest at h
            rw [skipFrom_succ] at h
            obtain ⟨left, first, second⟩ := bind_eq_ok_iff.1 h
            have fewer := length_of_skipFrom first
            obtain ⟨content, last, nestedContent, rfl⟩ := ih following.length (by omega) first rfl
            obtain ⟨inner, name, nested, rfl⟩ := ih left.length (by omega) second rfl
            exact ⟨.start tag :: (content ++ .close last :: inner), name,
              .element nestedContent nested, by simp⟩
          · change skipFrom 0 following = .ok rest at h
            obtain ⟨inner, name, nested, rfl⟩ := ih following.length (by omega) h rfl
            exact ⟨.empty tag :: inner, name, .empty nested, rfl⟩
          · cases h
            exact ⟨[], name, .nil, rfl⟩
          · cases h

/-- Where the text of an element ends, the element is over. -/
theorem skipFrom_of_textFrom {depth : Nat} {events rest : List Event} {text : List Char}
    (h : textFrom depth events = .ok (text, rest)) : skipFrom depth events = .ok rest := by
  induction events generalizing depth text with
  | nil => cases h
  | cons event events ih =>
      rcases event_cases event with filler | ⟨tag, rfl⟩ | ⟨tag, rfl⟩ | ⟨name, rfl⟩ | ⟨cause, rfl⟩
      · obtain ⟨front, first⟩ := exists_textFrom_cons filler
        rw [first] at h
        obtain ⟨own, _, later⟩ := bind_eq_ok_iff.1 h
        obtain ⟨⟨others, left⟩, found, same⟩ := ok_of_map later
        cases same
        rw [skipFrom_filler filler, ih found]
      · exact ih h
      · exact ih h
      · cases depth with
        | zero => cases h; rfl
        | succ depth => exact ih h
      · cases h

/-! ## Readers that take the content of an element -/

/-- A reader takes whole elements and one end tag, or nothing for an element without
content, and what follows does not matter to it. -/
structure Exact (reader : Bool → ContentReader α) : Prop where
  content : ∀ {events rest : List Event} {value : α},
    (reader false).run events = .ok (value, rest) →
      ∃ inner name, Nested inner ∧ events = inner ++ .close name :: rest ∧
        ∀ more, (reader false).run (inner ++ .close name :: more) = .ok (value, more)
  empty : ∀ {events rest : List Event} {value : α},
    (reader true).run events = .ok (value, rest) →
      rest = events ∧ ∀ more, (reader true).run more = .ok (value, more)

theorem Exact.map {reader : Bool → ContentReader α} (exactly : Exact reader) (f : α → β) :
    Exact fun selfClosing => (reader selfClosing).map f where
  content h := by
    obtain ⟨taken, read, rfl⟩ := run_map_eq_ok h
    obtain ⟨inner, name, nested, shape, reads⟩ := exactly.content read
    refine ⟨inner, name, nested, shape, fun more => ?_⟩
    rw [run_map, reads]
    rfl
  empty h := by
    obtain ⟨taken, read, rfl⟩ := run_map_eq_ok h
    obtain ⟨same, reads⟩ := exactly.empty read
    refine ⟨same, fun more => ?_⟩
    rw [run_map, reads]
    rfl

/-- A reader that looks at the tag first. -/
theorem exact_of_tag (outcome : Except LoadError β) {reader : β → Bool → ContentReader α}
    (exactly : ∀ found, Exact (reader found)) :
    Exact fun selfClosing events => outcome >>= fun found => reader found selfClosing events := by
  cases outcome with
  | error cause => exact ⟨nofun, nofun⟩
  | ok found => exact exactly found

theorem exact_skipContent : Exact skipContent where
  content h := by
    rw [run_skipContent_false] at h
    obtain ⟨rest, skipped, same⟩ := ok_of_map h
    cases same
    obtain ⟨inner, name, nested, shape⟩ := exists_nested_of_skipFrom skipped
    refine ⟨inner, name, nested, shape, fun more => ?_⟩
    rw [run_skipContent_false, nested.skipFrom_append]
    rfl
  empty h := by
    cases h
    exact ⟨rfl, fun more => rfl⟩

theorem exact_leaf (outcome : Except LoadError α) : Exact (leaf outcome) :=
  exact_of_tag outcome fun value => exact_skipContent.map fun _ => value

theorem exact_textContent : Exact textContent where
  content h := by
    rw [run_textContent_false] at h
    obtain ⟨⟨text, rest⟩, found, same⟩ := ok_of_map h
    cases same
    obtain ⟨inner, name, nested, rfl⟩ := exists_nested_of_skipFrom (skipFrom_of_textFrom found)
    refine ⟨inner, name, nested, rfl, fun more => ?_⟩
    obtain ⟨front, reads⟩ := nested.exists_textFrom_append
    rw [reads] at found
    obtain ⟨own, rfl, later⟩ := bind_eq_ok_iff.1 found
    cases later
    rw [run_textContent_false, reads]
    rfl
  empty h := by
    cases h
    exact ⟨rfl, fun more => rfl⟩

theorem readChild_of_some {visit : Visitor σ} {state : σ} {tag : Tag}
    {reader : Bool → ContentReader σ} (known : visit state tag = some reader) :
    readChild visit state tag = reader := by
  funext selfClosing
  rw [readChild, known]

theorem readChild_of_none {visit : Visitor σ} {state : σ} {tag : Tag}
    (unknown : visit state tag = none) :
    readChild visit state tag =
      fun selfClosing => (skipContent selfClosing).map fun _ => state := by
  funext selfClosing
  rw [readChild, unknown]

theorem exact_readChild {visit : Visitor σ}
    (known : ∀ state tag reader, visit state tag = some reader → Exact reader) (state : σ)
    (tag : Tag) : Exact (readChild visit state tag) := by
  cases visited : visit state tag with
  | some reader =>
      rw [readChild_of_some visited]
      exact known state tag reader visited
  | none =>
      rw [readChild_of_none visited]
      exact exact_skipContent.map fun _ => state

/-- Reading children takes what the readers of the children take, up to an end tag. -/
theorem exists_nested_of_children {visit : Visitor σ}
    (known : ∀ state tag reader, visit state tag = some reader → Exact reader) {state value : σ}
    {events rest : List Event} (h : (children visit state false).run events = .ok (value, rest)) :
    ∃ inner name, Nested inner ∧ events = inner ++ .close name :: rest ∧
      ∀ more,
        (children visit state false).run (inner ++ .close name :: more) = .ok (value, more) := by
  -- a child leaves fewer events, so the induction is on their number
  induction size : events.length using Nat.strongRecOn generalizing state events with
  | ind length ih =>
      cases events with
      | nil => simp at h
      | cons event following =>
          simp only [List.length_cons] at size
          rcases event_cases event with
            filler | ⟨tag, rfl⟩ | ⟨tag, rfl⟩ | ⟨name, rfl⟩ | ⟨cause, rfl⟩
          · rw [run_children_filler filler] at h
            obtain ⟨inner, name, nested, rfl, reads⟩ := ih following.length (by omega) h rfl
            refine ⟨event :: inner, name, .filler filler nested, rfl, fun more => ?_⟩
            rw [List.cons_append, run_children_filler filler, reads]
          · rw [run_children_start] at h
            obtain ⟨⟨taken, left⟩, child, others⟩ := bind_eq_ok_iff.1 h
            have fewer := length_of_run child
            obtain ⟨content, last, nestedContent, rfl, readsChild⟩ :=
              (exact_readChild known state tag).content child
            obtain ⟨inner, name, nested, rfl, reads⟩ := ih left.length (by omega) others rfl
            refine ⟨.start tag :: (content ++ .close last :: inner), name,
              .element nestedContent nested, by simp, fun more => ?_⟩
            rw [List.cons_append, List.append_assoc, List.cons_append, run_children_start,
              readsChild]
            exact reads more
          · rw [run_children_empty] at h
            obtain ⟨⟨taken, left⟩, child, others⟩ := bind_eq_ok_iff.1 h
            obtain ⟨rfl, readsChild⟩ := (exact_readChild known state tag).empty child
            obtain ⟨inner, name, nested, rfl, reads⟩ :=
              ih left.length (by omega) others rfl
            refine ⟨.empty tag :: inner, name, .empty nested, rfl, fun more => ?_⟩
            rw [List.cons_append, run_children_empty, readsChild]
            exact reads more
          · rw [run_children_close] at h
            cases h
            exact ⟨[], name, .nil, rfl, fun more => run_children_close visit _ name more⟩
          · simp at h

theorem exact_children {visit : Visitor σ}
    (known : ∀ state tag reader, visit state tag = some reader → Exact reader) (state : σ) :
    Exact (children visit state) where
  content := exists_nested_of_children known
  empty h := by
    cases h
    exact ⟨rfl, fun more => rfl⟩

/-- A visitor that knows one tag only. -/
theorem exact_of_named {name : String} {read : σ → Tag → Bool → ContentReader σ}
    (exactly : ∀ state tag, Exact (read state tag)) (state : σ) (tag : Tag)
    (reader : Bool → ContentReader σ)
    (visited : (if tag.name = name then some (read state tag) else none) = some reader) :
    Exact reader := by
  split at visited <;> cases visited
  exact exactly state tag

/-- The readers of children that know one tag only. -/
theorem exact_children_named {name : String} {read : σ → Tag → Bool → ContentReader σ}
    (exactly : ∀ state tag, Exact (read state tag)) (state : σ) :
    Exact (children
      (fun state tag => if tag.name = name then some (read state tag) else none) state) :=
  exact_children (exact_of_named exactly) state

/-! ## Every reader takes the content of its element -/

theorem exact_trimmedText : Exact trimmedText :=
  exact_textContent.map Text.trim

theorem exact_readEntries : Exact readEntries :=
  exact_children_named (fun _ _ => exact_leaf _) []

theorem exact_readFunction (tag : Tag) : Exact (readFunction tag) :=
  exact_of_tag (functionOf tag) (exact_children_named fun _ _ => exact_leaf _)

theorem exact_readFunctions : Exact readFunctions :=
  exact_children_named (fun _ tag => (exact_readFunction tag).map _) []

theorem exact_readRoots (roots : List String) : Exact (readRoots roots) :=
  exact_children_named (fun _ _ => exact_leaf _) roots

theorem exact_readChained (struct : Schema.Struct) (tag : Tag) : Exact (readChained struct tag) :=
  exact_of_tag (chainedOf tag) fun _ => (exact_readRoots struct.chainRoots).map _

theorem exact_readEnumeration (element : String) (tag : Tag) :
    Exact (readEnumeration element tag) :=
  exact_of_tag (nameOf element tag) fun _ => exact_readEntries.map _

theorem exact_readConstants (constants : List Schema.Constant) : Exact (readConstants constants) :=
  exact_children_named (fun _ _ => exact_leaf _) constants

theorem exact_readObject (tag : Tag) : Exact (readObject tag) :=
  exact_of_tag (objectOf tag) (exact_children_named fun _ _ => exact_readFunctions.map _)

theorem exact_readObjects (objects : List Schema.Object) : Exact (readObjects objects) :=
  exact_children_named (fun _ tag => (exact_readObject tag).map _) objects

theorem exact_readPrefix (found : Option String) : Exact (readPrefix found) :=
  exact_children_named (fun _ _ => exact_trimmedText.map some) found

theorem exact_readMetadata (found : Option String) : Exact (readMetadata found) :=
  exact_children_named (fun found _ => exact_readPrefix found) found

theorem exact_of_visitStructPart {struct : Schema.Struct} {tag : Tag}
    {reader : Bool → ContentReader Schema.Struct}
    (visited : visitStructPart struct tag = some reader) : Exact reader := by
  rw [visitStructPart] at visited
  split at visited <;> cases visited
  · exact exact_leaf _
  · exact exact_readChained struct tag
  · exact exact_readFunctions.map _

theorem exact_readStruct (tag : Tag) : Exact (readStruct tag) :=
  exact_of_tag (structOf tag) (exact_children fun _ _ _ => exact_of_visitStructPart)

theorem exact_of_visitType {schema : Schema} {tag : Tag} {reader : Bool → ContentReader Schema}
    (visited : visitType schema tag = some reader) : Exact reader := by
  rw [visitType] at visited
  split at visited <;> cases visited
  · exact exact_leaf _
  · exact (exact_readEnumeration _ tag).map _
  · exact (exact_readEnumeration _ tag).map _
  · exact (exact_readStruct tag).map _

theorem exact_readTypes (schema : Schema) : Exact (readTypes schema) :=
  exact_children (fun _ _ _ => exact_of_visitType) schema

theorem exact_of_visitSection {draft : Draft} {tag : Tag} {reader : Bool → ContentReader Draft}
    (visited : visitSection draft tag = some reader) : Exact reader := by
  dsimp only [visitSection] at visited
  split at visited <;> cases visited
  · exact exact_trimmedText.map _
  · exact (exact_readMetadata _).map _
  · exact (exact_readConstants _).map _
  · exact (exact_readTypes _).map _
  · exact exact_readFunctions.map _
  · exact exact_readFunctions.map _
  · exact (exact_readObjects _).map _

/-- Reading the root element takes its content and its end tag. -/
theorem exists_nested_of_readRoot {draft : Draft} {events rest : List Event}
    (h : readRoot.run events = .ok (draft, rest)) :
    ∃ inner name, Nested inner ∧ events = inner ++ .close name :: rest ∧
      ∀ more, readRoot.run (inner ++ .close name :: more) = .ok (draft, more) :=
  exists_nested_of_children (fun _ _ _ => exact_of_visitSection) h

/-! ## Documents -/

/-- Whether an event before the root element is passed over. -/
def leadsRoot : Event → Bool
  | .close _ => true
  | event => isFiller event

theorem loadEvents_leadsRoot {event : Event} (leads : leadsRoot event) (rest : List Event) :
    loadEvents (event :: rest) = loadEvents rest := by
  cases event <;> first | rfl | cases leads

theorem loadEvents_append {front : List Event} (leads : ∀ event ∈ front, leadsRoot event)
    (rest : List Event) : loadEvents (front ++ rest) = loadEvents rest := by
  induction front with
  | nil => rfl
  | cons event front ih =>
      obtain ⟨own, others⟩ := List.forall_mem_cons.1 leads
      rw [List.cons_append, loadEvents_leadsRoot own, ih others]

/-- A document that describes something has a root element, and what it describes is
settled by the events up to the root's end tag. -/
theorem exists_root_of_loadEvents {events : List Event} {schema : Schema}
    (h : loadEvents events = .ok schema) :
    ∃ front tag inner name rest, (∀ event ∈ front, leadsRoot event) ∧ Nested inner ∧
      events = front ++ .start tag :: (inner ++ .close name :: rest) ∧
      ∀ more, loadEvents (front ++ .start tag :: (inner ++ .close name :: more)) = .ok schema := by
  induction events with
  | nil => cases h
  | cons event following ih =>
      by_cases leads : leadsRoot event
      · rw [loadEvents_leadsRoot leads] at h
        obtain ⟨front, tag, inner, name, rest, before, nested, rfl, loads⟩ := ih h
        refine ⟨event :: front, tag, inner, name, rest, ?_, nested, rfl, fun more => ?_⟩
        · exact List.forall_mem_cons.2 ⟨leads, before⟩
        · rw [List.cons_append, loadEvents_leadsRoot leads, loads]
      · cases event with
        | start tag =>
            rw [loadEvents_start] at h
            obtain ⟨⟨draft, rest⟩, read, finished⟩ := bind_eq_ok_iff.1 h
            obtain ⟨inner, name, nested, rfl, reads⟩ := exists_nested_of_readRoot read
            refine ⟨[], tag, inner, name, rest, List.forall_mem_nil _, nested, rfl, fun more => ?_⟩
            rw [List.nil_append, loadEvents_start, reads]
            exact finished
        | empty tag => cases h
        | fault cause => cases h
        | close name => exact absurd rfl leads
        | text content => exact absurd rfl leads
        | cdata content => exact absurd rfl leads
        | reference name => exact absurd rfl leads
        | aside => exact absurd rfl leads

end ApiHeader.Description
