/-
# Readers stop at the end tags of their elements

A reader that is entered after a start tag never looks at its name, and still stops at the
matching end tag. It takes whole elements and one end tag more, whatever the names are; where
every end tag names the innermost open element, that last one can only be its own. The events
of a document are nested in this way, up to the fault at which they end, so nothing has to be
assumed of documents.

Readers of children rely on it for every child they know. What such a reader asks of its
visitor is stated here as a contract, with the tags that the visitor knows, and every visitor
of a description keeps it.
-/

import ApiHeader.Proofs.Consumption

namespace ApiHeader.Description

open ApiHeader.Markup ApiHeader.Schema

variable {α σ : Type}

/-! ## Nested events -/

/-- Whether every end tag names the innermost open element, as far as events can be read. -/
def wellNested (opened : List String) : List Event → Bool
  | [] => true
  | .fault _ :: _ => true
  | .start tag :: rest => wellNested (tag.name :: opened) rest
  | .close name :: rest =>
    match opened with
    | [] => false
    | innermost :: outer => innermost == name && wellNested outer rest
  | _ :: rest => wellNested opened rest

theorem wellNested_filler {event : Event} (filler : isFiller event) (opened : List String)
    (rest : List Event) : wellNested opened (event :: rest) = wellNested opened rest := by
  cases event <;> first | rfl | simp [isFiller] at filler

theorem wellNested_close {innermost name : String} {outer : List String} {rest : List Event} :
    wellNested (innermost :: outer) (.close name :: rest) ↔
      innermost = name ∧ wellNested outer rest := by
  simp [wellNested]

/-- An end tag closes the innermost open element. -/
theorem exists_outer_of_openAfter {path left : List String} {name : String} {rest : List Event}
    (h : openAfter path (.close name :: rest) = some left) :
    ∃ outer, path = name :: outer ∧ openAfter outer rest = some left := by
  cases path with
  | nil => cases h
  | cons innermost outer =>
      by_cases same : innermost = name
      · rw [openAfter, if_pos same] at h
        exact ⟨outer, by rw [same], h⟩
      · rw [openAfter, if_neg same] at h
        cases h

/-- Events are well nested from any place on, given the elements that are open there. -/
theorem wellNested_append {path left : List String} {before : List Event}
    (position : openAfter path before = some left) (rest : List Event) :
    wellNested path (before ++ rest) = wellNested left rest := by
  induction before generalizing path with
  | nil =>
      cases position
      rfl
  | cons event before ih =>
      rcases event_cases event with filler | ⟨tag, rfl⟩ | ⟨tag, rfl⟩ | ⟨name, rfl⟩ | ⟨cause, rfl⟩
      · rw [openAfter_filler filler] at position
        rw [List.cons_append, wellNested_filler filler, ih position]
      · exact ih position
      · exact ih position
      · obtain ⟨outer, rfl, after⟩ := exists_outer_of_openAfter position
        simp [wellNested, ih after]
      · cases position

theorem wellNested_eventsFrom (opened : List String) (cs : List Char) :
    wellNested opened (eventsFrom opened cs) := by
  induction size : cs.length using Nat.strongRecOn generalizing opened cs with
  | ind length ih =>
      cases cs with
      | nil =>
          rw [eventsFrom_nil]
          rfl
      | cons c cs =>
          cases next : Lexeme.next c cs with
          | error cause =>
              rw [eventsFrom_of_next_error opened next]
              rfl
          | ok found =>
              cases step : found.1.step opened with
              | error cause =>
                  rw [eventsFrom_of_step_error next step]
                  rfl
              | ok after =>
                  have fewer := Lexeme.length_of_next next
                  rw [List.length_cons] at size
                  have position : openAfter opened [after.1] = some after.2 := openAfter_step step []
                  rw [eventsFrom_of_step next step, ← List.singleton_append,
                    wellNested_append position]
                  exact ih found.2.length (by omega) after.2 found.2 rfl

/-- The events of a document are well nested. -/
theorem wellNested_events (document : String) : wellNested [] (events document) := by
  rw [events]
  split
  · split
    · exact wellNested_eventsFrom _ _
    · exact wellNested_eventsFrom _ _
  · rfl

/-! ## The content of an element -/

/-- Events after a start tag are the content of its element, the matching end tag and others.
The content opens and closes elements of its own only. -/
structure IsContent (tag : Tag) (following inner rest : List Event) : Prop where
  whole : openAfter [] inner = some []
  shape : following = inner ++ .close tag.name :: rest

/-- Passing over an element counts the elements that are open inside it. -/
theorem skipFrom_of_openAfter {path left : List String} {inner : List Event}
    (h : openAfter path inner = some left) (rest : List Event) :
    skipFrom path.length (inner ++ rest) = skipFrom left.length rest := by
  induction inner generalizing path with
  | nil =>
      cases h
      rfl
  | cons event inner ih =>
      rcases event_cases event with filler | ⟨tag, rfl⟩ | ⟨tag, rfl⟩ | ⟨name, rfl⟩ | ⟨cause, rfl⟩
      · rw [openAfter_filler filler] at h
        rw [List.cons_append, skipFrom_filler filler, ih h]
      · exact ih h
      · exact ih h
      · obtain ⟨outer, rfl, after⟩ := exists_outer_of_openAfter h
        exact ih after
      · cases h

theorem IsContent.skipFrom_eq {tag : Tag} {following inner rest : List Event}
    (h : IsContent tag following inner rest) : skipFrom 0 following = .ok rest := by
  rw [h.shape]
  exact skipFrom_of_openAfter h.whole (.close tag.name :: rest)

/-- An element has one content. -/
theorem IsContent.unique {tag : Tag} {following inner inner' rest rest' : List Event}
    (h : IsContent tag following inner rest) (h' : IsContent tag following inner' rest') :
    inner' = inner ∧ rest' = rest := by
  obtain rfl : rest' = rest := Except.ok.inj (h'.skipFrom_eq.symm.trans h.skipFrom_eq)
  have same := h'.shape.symm.trans h.shape
  exact ⟨List.append_cancel_right same, rfl⟩

/-- Whole elements in well-nested events have end tags of their own names. -/
theorem Nested.openAfter_of_wellNested {inner : List Event} (nested : Nested inner)
    {path : List String} {rest : List Event} (h : wellNested path (inner ++ rest)) :
    (∀ opened more, openAfter opened (inner ++ more) = openAfter opened more) ∧
      wellNested path rest := by
  induction nested generalizing path rest with
  | nil => exact ⟨fun _ _ => rfl, h⟩
  | filler filler others ih =>
      rw [List.cons_append, wellNested_filler filler] at h
      obtain ⟨passes, after⟩ := ih h
      refine ⟨fun opened more => ?_, after⟩
      rw [List.cons_append, openAfter_filler filler, passes]
  | empty others ih => exact ih h
  | @element tag name inner others' content others ihContent ihOthers =>
      rw [List.cons_append, List.append_assoc] at h
      have inside : wellNested (tag.name :: path) (inner ++ .close name :: (others' ++ rest)) := h
      obtain ⟨within, atEnd⟩ := ihContent inside
      -- nothing that the content opened is open any more, so the end tag has the element's name
      obtain ⟨rfl, outside⟩ := wellNested_close.1 atEnd
      obtain ⟨passes, after⟩ := ihOthers outside
      refine ⟨fun opened more => ?_, after⟩
      calc
        openAfter opened (.start tag :: (inner ++ .close tag.name :: others') ++ more)
          = openAfter (tag.name :: opened) (inner ++ .close tag.name :: (others' ++ more)) := by
            rw [List.cons_append, List.append_assoc]
            rfl
        _ = openAfter (tag.name :: opened) (.close tag.name :: (others' ++ more)) := within _ _
        _ = openAfter opened (others' ++ more) := if_pos rfl
        _ = openAfter opened more := passes _ _

/-! ## Readers that stop at their end tags -/

/-- Wherever a reader is entered in well-nested events, what it takes after a start tag is the
content of that element and the matching end tag. For an element without content it takes
nothing. -/
structure Consumes (reader : Bool → ContentReader α) : Prop where
  content : ∀ {before following rest : List Event} {opened : List String} {tag : Tag} {value : α},
    openAfter [] before = some opened → wellNested [] (before ++ .start tag :: following) →
      (reader false).run following = .ok (value, rest) →
        ∃ inner, IsContent tag following inner rest ∧
          ∀ inner' rest', IsContent tag following inner' rest' → inner' = inner ∧ rest' = rest
  empty : ∀ {events rest : List Event} {value : α},
    (reader true).run events = .ok (value, rest) → rest = events

/-- The last end tag that a reader takes matches the start tag. -/
theorem Exact.exists_content {reader : Bool → ContentReader α} (exactly : Exact reader)
    {opened : List String} {tag : Tag} {following rest : List Event} {value : α}
    (nested : wellNested opened (.start tag :: following))
    (read : (reader false).run following = .ok (value, rest)) :
    ∃ inner, IsContent tag following inner rest := by
  obtain ⟨inner, name, whole, rfl, _⟩ := exactly.content read
  have inside : wellNested (tag.name :: opened) (inner ++ .close name :: rest) := nested
  obtain ⟨passes, atEnd⟩ := whole.openAfter_of_wellNested inside
  obtain ⟨rfl, _⟩ := wellNested_close.1 atEnd
  refine ⟨inner, ?_, rfl⟩
  rw [← List.append_nil inner, passes]
  rfl

theorem Exact.consumes {reader : Bool → ContentReader α} (exactly : Exact reader) :
    Consumes reader where
  content position nested read := by
    rw [wellNested_append position] at nested
    obtain ⟨inner, content⟩ := exactly.exists_content nested read
    exact ⟨inner, content, fun inner' rest' => content.unique⟩
  empty read := (exactly.empty read).1

/-- What a reader of children asks of its visitor: it knows the children with the given tags,
and takes the content of each of them and the end tag. -/
structure MeetsContract (visit : Visitor σ) (known : List String) : Prop where
  isSome_iff : ∀ state tag, (visit state tag).isSome ↔ tag.name ∈ known
  consumes : ∀ state tag reader, visit state tag = some reader → Consumes reader

theorem meetsContract_of_named {name : String} {read : σ → Tag → Bool → ContentReader σ}
    (exactly : ∀ state tag, Exact (read state tag)) :
    MeetsContract (fun state tag => if tag.name = name then some (read state tag) else none)
      [name] where
  isSome_iff state tag := by by_cases named : tag.name = name <;> simp [named]
  consumes state tag reader visited := (exact_of_named exactly state tag reader visited).consumes

theorem meetsContract_visitStructPart :
    MeetsContract visitStructPart ["member", "chained", "methods"] where
  isSome_iff struct tag := by
    rw [visitStructPart]
    split <;> simp_all
  consumes _ _ _ visited := (exact_of_visitStructPart visited).consumes

theorem meetsContract_visitType :
    MeetsContract visitType ["value", "enum", "bitmask", "struct"] where
  isSome_iff schema tag := by
    rw [visitType]
    split <;> simp_all
  consumes _ _ _ visited := (exact_of_visitType visited).consumes

theorem meetsContract_visitSection :
    MeetsContract visitSection ["license", "metadata", "defines", "types", "free_functions",
      "function_pointers", "objects"] where
  isSome_iff draft tag := by
    dsimp only [visitSection]
    split <;> simp_all
  consumes _ _ _ visited := (exact_of_visitSection visited).consumes

/-- Every reader of a description takes its element up to the matching end tag, and every
visitor meets its contract. -/
theorem readers_consume_elements :
    (∀ document, wellNested [] (events document)) ∧
    Consumes skipContent ∧ Consumes textContent ∧
    (∀ found, Consumes (readMetadata found)) ∧ (∀ constants, Consumes (readConstants constants)) ∧
    (∀ schema, Consumes (readTypes schema)) ∧ Consumes readEntries ∧
    (∀ tag, Consumes (readStruct tag)) ∧ (∀ struct tag, Consumes (readChained struct tag)) ∧
    (∀ objects, Consumes (readObjects objects)) ∧ Consumes readFunctions ∧
    (∀ tag, Consumes (readFunction tag)) ∧
    MeetsContract visitSection ["license", "metadata", "defines", "types", "free_functions",
      "function_pointers", "objects"] ∧
    MeetsContract visitPrefix ["prefix"] ∧ MeetsContract visitPrefixText ["c"] ∧
    MeetsContract visitConstant ["define"] ∧
    MeetsContract visitType ["value", "enum", "bitmask", "struct"] ∧
    MeetsContract visitEntry ["entry"] ∧
    MeetsContract visitStructPart ["member", "chained", "methods"] ∧
    MeetsContract visitRoot ["root"] ∧ MeetsContract visitObject ["object"] ∧
    MeetsContract visitMethods ["methods"] ∧ MeetsContract visitFunction ["function"] ∧
    MeetsContract visitArgument ["arg"] := by
  refine ⟨wellNested_events, exact_skipContent.consumes, exact_textContent.consumes,
    fun found => (exact_readMetadata found).consumes,
    fun constants => (exact_readConstants constants).consumes,
    fun schema => (exact_readTypes schema).consumes, exact_readEntries.consumes,
    fun tag => (exact_readStruct tag).consumes,
    fun struct tag => (exact_readChained struct tag).consumes,
    fun objects => (exact_readObjects objects).consumes, exact_readFunctions.consumes,
    fun tag => (exact_readFunction tag).consumes, meetsContract_visitSection, ?_, ?_, ?_,
    meetsContract_visitType, ?_, meetsContract_visitStructPart, ?_, ?_, ?_, ?_, ?_⟩
  · exact meetsContract_of_named fun found _ => exact_readPrefix found
  · exact meetsContract_of_named fun _ _ => exact_trimmedText.map some
  · exact meetsContract_of_named fun _ _ => exact_leaf _
  · exact meetsContract_of_named fun _ _ => exact_leaf _
  · exact meetsContract_of_named fun _ _ => exact_leaf _
  · exact meetsContract_of_named fun _ tag => (exact_readObject tag).map _
  · exact meetsContract_of_named fun _ _ => exact_readFunctions.map _
  · exact meetsContract_of_named fun _ tag => (exact_readFunction tag).map _
  · exact meetsContract_of_named fun _ _ => exact_leaf _

def bareTag (name : String) : Tag :=
  { name, attributes := [] }

/-- What follows the start tag of metadata that hold elements of the same names as those that
are read. -/
def nestedMetadata : List Event :=
  [.start (bareTag "prefix"), .start (bareTag "c"), .text "P", .start (bareTag "c"), .close "c",
    .empty (bareTag "prefix"), .close "c", .close "prefix", .start (bareTag "metadata"),
    .close "metadata", .close "metadata", .close "api"]

theorem nestedMetadata_consumed :
    openAfter [] [.start (bareTag "api")] = some ["api"] ∧
      wellNested [] ([.start (bareTag "api")] ++ .start (bareTag "metadata") :: nestedMetadata) ∧
      (readMetadata none false).run nestedMetadata = .ok (some "P", [.close "api"]) ∧
      IsContent (bareTag "metadata") nestedMetadata (nestedMetadata.take 10) [.close "api"] := by
  have position : openAfter [] [.start (bareTag "api")] = some ["api"] := rfl
  have nested :
      wellNested [] ([.start (bareTag "api")] ++ .start (bareTag "metadata") :: nestedMetadata) :=
    rfl
  have content : IsContent (bareTag "metadata") nestedMetadata (nestedMetadata.take 10)
      [.close "api"] := ⟨rfl, rfl⟩
  have value : ((readMetadata none false).run nestedMetadata).map Prod.fst = .ok (some "P") := by
    decide +kernel
  obtain ⟨⟨found, rest⟩, read, same⟩ := ok_of_map value
  cases same
  -- the events that are left need not be computed, since there is one end tag that matches
  obtain ⟨_, _, _, metadata, _⟩ := readers_consume_elements
  obtain ⟨inner, _, only⟩ := (metadata none).content position nested read
  obtain ⟨_, rfl⟩ := only _ _ content
  exact ⟨position, nested, read, content⟩

end ApiHeader.Description
