/-
# What a description depends on

Readers tell elements apart by the place at which they stand: each place knows some
tags, and every other element is passed over with all it holds. Leaving out what is
passed over, and what stands between the tags of elements that hold no text, leaves
the events that a description depends on. One law says so for each reader: reading
the relevant events gives the same outcome, faults and errors included, and leaves
the relevant part of what is left. It is proved for a reader of children from the
readers of the children, and so for the whole document.
-/

import ApiHeader.Proofs.Lexing
import ApiHeader.Proofs.Reading

namespace ApiHeader.Description

open ApiHeader.Markup

variable {α β σ : Type}

/-! ## Places -/

/-- The places that readers tell apart. -/
inductive Place
  /-- Before and after the root element. -/
  | outside
  | root
  | metadata
  | prefixes
  | constants
  | types
  /-- An enumeration or a bitmask. -/
  | entries
  | struct
  | chained
  /-- Methods, free functions or function pointers. -/
  | functions
  | function
  | objects
  | object
  /-- An element of which only the tag is looked at. -/
  | leaf
  /-- An element whose text is read, or one inside it. -/
  | text
  /-- An element that is passed over, or one inside it. -/
  | skipped
  deriving DecidableEq, Repr

namespace Place

/-- The tags that are known at a place, and the places inside their elements. -/
def known : Place → List (String × Place)
  | root =>
    [("license", text), ("metadata", metadata), ("defines", constants), ("types", types),
      ("free_functions", functions), ("function_pointers", functions), ("objects", objects)]
  | metadata => [("prefix", prefixes)]
  | prefixes => [("c", text)]
  | constants => [("define", leaf)]
  | types => [("value", leaf), ("enum", entries), ("bitmask", entries), ("struct", struct)]
  | entries => [("entry", leaf)]
  | struct => [("member", leaf), ("chained", chained), ("methods", functions)]
  | chained => [("root", leaf)]
  | functions => [("function", function)]
  | function => [("arg", leaf)]
  | objects => [("object", object)]
  | object => [("methods", functions)]
  | outside | leaf | text | skipped => []

/-- The place inside an element with the given tag. Any element outside is the root. -/
def enter (place : Place) (name : String) : Place :=
  match place with
  | outside => root
  | text => text
  | _ => (place.known.lookup name).getD skipped

/-- Whether what stands between the tags counts, or elements of any tag do. -/
def keepsAll : Place → Bool
  | outside | text => true
  | _ => false

theorem enter_of_not_keepsAll {place : Place} (strict : place.keepsAll = false) (name : String) :
    place.enter name = (place.known.lookup name).getD skipped := by
  cases place <;> first | rfl | cases strict

theorem enter_of_unknown {place : Place} (strict : place.keepsAll = false) {name : String}
    (unknown : name ∉ place.known.map Prod.fst) : place.enter name = skipped := by
  rw [enter_of_not_keepsAll strict, lookup_eq_none_of_not_mem unknown]
  rfl

end Place

/-- The place inside the innermost of some open elements. -/
def placeOf : List String → Place
  | [] => .outside
  | name :: outer => (placeOf outer).enter name

/-- A place that no element leads out of is the place of everything inside. -/
theorem placeOf_append {place : Place} (absorbing : ∀ name, place.enter name = place)
    {path : List String} (here : placeOf path = place) (inner : List String) :
    placeOf (inner ++ path) = place := by
  induction inner with
  | nil => exact here
  | cons name inner ih =>
      change (placeOf (inner ++ path)).enter name = _
      rw [ih, absorbing]

/-! ## Relevant events -/

/-- The events that matter, given the open elements. An element without content that is
known comes out with an end tag of its own. -/
def relevant (path : List String) : List Event → List Event
  | [] => []
  | .fault cause :: rest => .fault cause :: rest
  | .start tag :: rest =>
    if placeOf (tag.name :: path) = .skipped then relevant (tag.name :: path) rest
    else .start tag :: relevant (tag.name :: path) rest
  | .close name :: rest =>
    if placeOf path = .skipped then relevant path.tail rest
    else .close name :: relevant path.tail rest
  | .empty tag :: rest =>
    if (placeOf path).keepsAll then .empty tag :: relevant path rest
    else if placeOf (tag.name :: path) = .skipped then relevant path rest
    else .start tag :: .close tag.name :: relevant path rest
  | event :: rest =>
    if (placeOf path).keepsAll then event :: relevant path rest else relevant path rest

theorem relevant_filler {path : List String} (strict : (placeOf path).keepsAll = false)
    {event : Event} (filler : isFiller event) (rest : List Event) :
    relevant path (event :: rest) = relevant path rest := by
  cases event <;> first | exact if_neg (by simp [strict]) | simp [isFiller] at filler

theorem relevant_filler_kept {path : List String} (lenient : (placeOf path).keepsAll)
    {event : Event} (filler : isFiller event) (rest : List Event) :
    relevant path (event :: rest) = event :: relevant path rest := by
  cases event <;> first | exact if_pos lenient | simp [isFiller] at filler

theorem openAfter_filler {event : Event} (filler : isFiller event) (path : List String)
    (rest : List Event) : openAfter path (event :: rest) = openAfter path rest := by
  cases event <;> first | rfl | simp [isFiller] at filler

/-! ## Passing over elements -/

/-- Passing over one more element is passing over one more time. -/
theorem skipFrom_succ (depth : Nat) (events : List Event) :
    skipFrom (depth + 1) events = skipFrom depth events >>= skipFrom 0 := by
  induction events generalizing depth with
  | nil => rfl
  | cons event rest ih =>
      rcases event_cases event with filler | ⟨tag, rfl⟩ | ⟨tag, rfl⟩ | ⟨name, rfl⟩ | ⟨cause, rfl⟩
      · rw [skipFrom_filler filler, skipFrom_filler filler, ih]
      · exact ih (depth + 1)
      · exact ih depth
      · cases depth with
        | zero => rfl
        | succ depth => exact ih depth
      · rfl

/-- Of an element that is passed over nothing is relevant. The elements that are open
inside it are passed over too. -/
theorem relevant_of_skipped {f : List Event → Except LoadError β}
    (atEnd : f [] = .error .unexpectedEnd)
    (atFault : ∀ cause rest, f (.fault cause :: rest) = .error (.markup cause))
    {name : String} {path : List String} (skipped : placeOf (name :: path) = .skipped)
    (inner : List String) (events : List Event) :
    f (relevant (inner ++ name :: path) events) =
      skipFrom inner.length events >>= fun rest => f (relevant path rest) := by
  induction events generalizing inner with
  | nil => exact atEnd
  | cons event rest ih =>
      have placed := placeOf_append (fun _ => rfl) skipped inner
      have strict : (placeOf (inner ++ name :: path)).keepsAll = false := by rw [placed]; rfl
      have deeper (tag : Tag) : placeOf (tag.name :: (inner ++ name :: path)) = .skipped :=
        placeOf_append (fun _ => rfl) skipped (tag.name :: inner)
      rcases event_cases event with filler | ⟨tag, rfl⟩ | ⟨tag, rfl⟩ | ⟨found, rfl⟩ | ⟨cause, rfl⟩
      · rw [relevant_filler strict filler, skipFrom_filler filler]
        exact ih inner
      · rw [relevant, if_pos (deeper tag)]
        exact ih (tag.name :: inner)
      · rw [relevant, if_neg (by simp [strict]), if_pos (deeper tag)]
        exact ih inner
      · rw [relevant, if_pos placed]
        cases inner with
        | nil => rfl
        | cons first inner => exact ih inner
      · exact atFault cause rest

/-- Of an element that is a leaf only the end tag is relevant. -/
theorem skipFrom_relevant {name : String} {path : List String}
    (leaf : placeOf (name :: path) = .leaf) (events : List Event) :
    skipFrom 0 (relevant (name :: path) events) = (skipFrom 0 events).map (relevant path) := by
  induction size : events.length using Nat.strongRecOn generalizing events with
  | ind length ih =>
      have strict : (placeOf (name :: path)).keepsAll = false := by rw [leaf]; rfl
      have inside (tag : Tag) : placeOf (tag.name :: name :: path) = .skipped := by
        change (placeOf (name :: path)).enter tag.name = _
        rw [leaf]
        rfl
      cases events with
      | nil => rfl
      | cons event rest =>
          simp only [List.length_cons] at size
          rcases event_cases event with
            filler | ⟨tag, rfl⟩ | ⟨tag, rfl⟩ | ⟨found, rfl⟩ | ⟨cause, rfl⟩
          · rw [relevant_filler strict filler, skipFrom_filler filler]
            exact ih rest.length (by omega) rest rfl
          · rw [relevant, if_pos (inside tag)]
            have passed :=
              relevant_of_skipped (f := skipFrom 0) rfl (fun _ _ => rfl) (inside tag) [] rest
            change skipFrom 0 (relevant (tag.name :: name :: path) rest) = _ at passed
            rw [passed]
            change skipFrom 0 rest >>= _ = (skipFrom 1 rest).map _
            rw [skipFrom_succ]
            cases skipped : skipFrom 0 rest with
            | error cause => rfl
            | ok left =>
                have fewer := length_of_skipFrom skipped
                exact ih left.length (by omega) left rfl
          · rw [relevant, if_neg (by simp [strict]), if_pos (inside tag)]
            exact ih rest.length (by omega) rest rfl
          · rw [relevant, if_neg (by rw [leaf]; decide)]
            rfl
          · rfl

/-- Inside an element whose text is read everything is relevant. -/
theorem textFrom_relevant {name : String} {path : List String}
    (text : placeOf (name :: path) = .text) (inner : List String) (events : List Event) :
    textFrom inner.length (relevant (inner ++ name :: path) events) =
      (textFrom inner.length events).map fun found => (found.1, relevant path found.2) := by
  induction events generalizing inner with
  | nil => rfl
  | cons event rest ih =>
      have placed := placeOf_append (fun _ => rfl) text inner
      have lenient : (placeOf (inner ++ name :: path)).keepsAll := by rw [placed]; rfl
      have kept : placeOf (inner ++ name :: path) ≠ .skipped := by rw [placed]; decide
      have deeper (tag : Tag) : placeOf (tag.name :: (inner ++ name :: path)) ≠ .skipped := by
        rw [← List.cons_append, placeOf_append (fun _ => rfl) text]
        decide
      cases event with
      | start tag =>
          rw [relevant, if_neg (deeper tag)]
          exact ih (tag.name :: inner)
      | empty tag =>
          rw [relevant, if_pos lenient]
          exact ih inner
      | close found =>
          rw [relevant, if_neg kept]
          cases inner with
          | nil => rfl
          | cons first inner => exact ih inner
      | text content =>
          rw [relevant_filler_kept lenient rfl, textFrom, textFrom, ih]
          cases textFrom inner.length rest <;> rfl
      | cdata content =>
          rw [relevant_filler_kept lenient rfl, textFrom, textFrom, ih]
          cases textFrom inner.length rest <;> rfl
      | reference found =>
          rw [relevant_filler_kept lenient rfl, textFrom, textFrom, ih]
          cases resolveInText found with
          | error cause => rfl
          | ok c => cases textFrom inner.length rest <;> rfl
      | aside =>
          rw [relevant_filler_kept lenient rfl]
          exact ih inner
      | fault cause => rfl

/-! ## Readers that respect a place -/

/-- A reader of the content at a place depends on the relevant events only, and an
element without content is to it one whose end tag follows at once. -/
structure Respects (place : Place) (reader : Bool → ContentReader α) : Prop where
  opened : ∀ {name : String} {path : List String}, placeOf (name :: path) = place →
    ∀ events, (reader false).run (relevant (name :: path) events) =
      ((reader false).run events).map fun taken => (taken.1, relevant path taken.2)
  empty : ∃ outcome : Except LoadError α, ∀ rest,
    (reader true).run rest = outcome.map (fun value => (value, rest)) ∧
      ∀ name, (reader false).run (.close name :: rest) = outcome.map fun value => (value, rest)

theorem Respects.map {place : Place} {reader : Bool → ContentReader α}
    (respects : Respects place reader) (f : α → β) :
    Respects place fun selfClosing => (reader selfClosing).map f where
  opened placed events := by
    rw [run_map, run_map, respects.opened placed]
    cases (reader false).run events <;> rfl
  empty := by
    obtain ⟨outcome, read⟩ := respects.empty
    refine ⟨outcome.map f, fun rest => ⟨?_, fun name => ?_⟩⟩
    · rw [run_map, (read rest).1]
      cases outcome <;> rfl
    · rw [run_map, (read rest).2]
      cases outcome <;> rfl

/-- A reader that looks at the tag first. -/
theorem respects_of_tag {place : Place} (outcome : Except LoadError β)
    {reader : β → Bool → ContentReader α} (respects : ∀ found, Respects place (reader found)) :
    Respects place fun selfClosing events =>
      outcome >>= fun found => reader found selfClosing events := by
  cases outcome with
  | error cause => exact ⟨fun _ _ => rfl, .error cause, fun _ => ⟨rfl, fun _ => rfl⟩⟩
  | ok found => exact respects found

theorem respects_leaf (outcome : Except LoadError α) : Respects .leaf (leaf outcome) where
  opened placed events := by
    rw [run_leaf, run_leaf, run_skipContent_false, run_skipContent_false, skipFrom_relevant placed]
    cases outcome with
    | error cause => rfl
    | ok value => cases skipFrom 0 events <;> rfl
  empty := by
    refine ⟨outcome, fun rest => ⟨?_, fun name => ?_⟩⟩
    · rw [run_leaf]
      cases outcome <;> rfl
    · rw [run_leaf, run_skipContent_false]
      cases outcome <;> rfl

theorem respects_trimmedText : Respects .text trimmedText := by
  have collected : Respects .text textContent :=
    { opened := fun placed events => by
        have found := textFrom_relevant placed [] events
        simp only [List.nil_append, List.length_nil] at found
        rw [run_textContent_false, run_textContent_false, found]
        cases textFrom 0 events <;> rfl
      empty := ⟨.ok "", fun rest => ⟨rfl, fun name => by rw [run_textContent_false]; rfl⟩⟩ }
  exact collected.map Text.trim

/-- A visitor suits a place: it has readers for the tags that are known there, each of
which respects the place inside, and for no others. -/
inductive Suits (place : Place) (tag : Tag) : Option (Bool → ContentReader σ) → Prop
  | passes (unknown : place.enter tag.name = .skipped) : Suits place tag none
  | reads {reader : Bool → ContentReader σ} (known : place.enter tag.name ≠ .skipped)
      (respects : Respects (place.enter tag.name) reader) : Suits place tag (some reader)

theorem Suits.of_enter {place child : Place} {tag : Tag} {reader : Bool → ContentReader σ}
    (entered : place.enter tag.name = child) (kept : child ≠ .skipped)
    (respects : Respects child reader) : Suits place tag (some reader) := by
  subst entered
  exact .reads kept respects

/-- Reading children from a state depends on the relevant events only. -/
def Agrees (visit : Visitor σ) (name : String) (path : List String) (state : σ)
    (events : List Event) : Prop :=
  (children visit state false).run (relevant (name :: path) events) =
    ((children visit state false).run events).map fun taken => (taken.1, relevant path taken.2)

section Children

variable {place : Place} {visit : Visitor σ} {name : String} {path : List String} {state : σ}
  {tag : Tag} {rest : List Event}

/-- A child with content is read alike, if reading agrees on all that it may leave. -/
theorem agrees_start (placed : placeOf (name :: path) = place)
    (suits : Suits place tag (visit state tag))
    (next : ∀ state left, left.length ≤ rest.length → Agrees visit name path state left) :
    Agrees visit name path state (.start tag :: rest) := by
  have inside : placeOf (tag.name :: name :: path) = place.enter tag.name := by
    rw [← placed]
    rfl
  rw [Agrees, relevant, run_children_start]
  cases visited : visit state tag with
  | none =>
      rw [visited] at suits
      obtain ⟨unknown⟩ := suits
      have skipped : placeOf (tag.name :: name :: path) = .skipped := by rw [inside, unknown]
      have passed := relevant_of_skipped (run_children_nil visit state)
        (run_children_fault visit state) skipped [] rest
      rw [List.nil_append] at passed
      rw [if_pos skipped, passed, run_readChild_none visited, run_skipContent_false]
      cases read : skipFrom 0 rest with
      | error cause => rfl
      | ok left =>
          have fewer := length_of_skipFrom read
          exact next state left (by omega)
  | some reader =>
      rw [visited] at suits
      cases suits with
      | reads known respects =>
          rw [if_neg (by rw [inside]; exact known), run_children_start,
            run_readChild_some visited, run_readChild_some visited, respects.opened inside]
          cases read : (reader false).run rest with
          | error cause => rfl
          | ok taken => exact next taken.1 taken.2 (length_of_run read)

/-- A child without content is read as if its end tag followed. -/
theorem agrees_empty (placed : placeOf (name :: path) = place) (strict : place.keepsAll = false)
    (suits : Suits place tag (visit state tag))
    (next : ∀ state, Agrees visit name path state rest) :
    Agrees visit name path state (.empty tag :: rest) := by
  have inside : placeOf (tag.name :: name :: path) = place.enter tag.name := by
    rw [← placed]
    rfl
  rw [Agrees, relevant, if_neg (by rw [placed, strict]; decide), run_children_empty]
  cases visited : visit state tag with
  | none =>
      rw [visited] at suits
      obtain ⟨unknown⟩ := suits
      rw [if_pos (by rw [inside, unknown]), run_readChild_none visited]
      exact next state
  | some reader =>
      rw [visited] at suits
      cases suits with
      | reads known respects =>
          obtain ⟨outcome, read⟩ := respects.empty
          rw [if_neg (by rw [inside]; exact known), run_children_start,
            run_readChild_some visited, run_readChild_some visited, (read _).1, (read _).2]
          cases outcome with
          | error cause => rfl
          | ok value => exact next value

theorem agrees_children (placed : placeOf (name :: path) = place) (strict : place.keepsAll = false)
    (kept : place ≠ .skipped) (suits : ∀ state tag, Suits place tag (visit state tag))
    (state : σ) (events : List Event) : Agrees visit name path state events := by
  -- a child leaves fewer events, so the induction is on their number
  induction size : events.length using Nat.strongRecOn generalizing state events with
  | ind length ih =>
      cases events with
      | nil => simp [Agrees, relevant, Except.map]
      | cons event rest =>
          simp only [List.length_cons] at size
          have next : ∀ state left, left.length ≤ rest.length → Agrees visit name path state left :=
            fun state left fewer => ih left.length (by omega) state left rfl
          rcases event_cases event with
            filler | ⟨tag, rfl⟩ | ⟨tag, rfl⟩ | ⟨found, rfl⟩ | ⟨cause, rfl⟩
          · rw [Agrees, relevant_filler (by rw [placed, strict]) filler, run_children_filler filler]
            exact next state rest (Nat.le_refl _)
          · exact agrees_start placed (suits state tag) next
          · exact agrees_empty placed strict (suits state tag)
              fun state => next state rest (Nat.le_refl _)
          · rw [Agrees, relevant, if_neg (by rw [placed]; exact kept), run_children_close,
              run_children_close]
            rfl
          · rw [Agrees, relevant, run_children_fault]
            rfl

end Children

/-- A reader of children respects its place if the readers of the children respect theirs. -/
theorem respects_children {place : Place} (strict : place.keepsAll = false)
    (kept : place ≠ .skipped) {visit : Visitor σ}
    (suits : ∀ state tag, Suits place tag (visit state tag)) (state : σ) :
    Respects place (children visit state) where
  opened placed := agrees_children placed strict kept suits state
  empty := ⟨.ok state, fun rest => ⟨rfl, fun name => run_children_close visit state name rest⟩⟩

/-- The readers of children that know one tag only. -/
theorem respects_children_named {place child : Place} {name : String}
    (known : place.known = [(name, child)]) (kept : child ≠ .skipped)
    {read : σ → Tag → Bool → ContentReader σ}
    (respects : ∀ state tag, Respects child (read state tag)) (state : σ) :
    Respects place (children
      (fun state tag => if tag.name = name then some (read state tag) else none) state) := by
  have strict : place.keepsAll = false := by cases place <;> first | rfl | cases known
  have entered (tag : Tag) :
      place.enter tag.name = if tag.name = name then child else .skipped := by
    rw [Place.enter_of_not_keepsAll strict, known]
    by_cases named : tag.name = name
    · simp [named]
    · have differs : (tag.name == name) = false := by simpa using named
      simp [List.lookup_cons, differs, named]
  apply respects_children strict
  · intro same
    rw [same] at known
    cases known
  · intro state tag
    by_cases named : tag.name = name
    · rw [if_pos named]
      exact .of_enter (by rw [entered, if_pos named]) kept (respects state tag)
    · rw [if_neg named]
      exact .passes (by rw [entered, if_neg named])

/-! ## Every reader respects its place -/

theorem respects_readEntries : Respects .entries readEntries :=
  respects_children_named rfl (by decide) (fun _ _ => respects_leaf _) []

theorem respects_readFunction (tag : Tag) : Respects .function (readFunction tag) :=
  respects_of_tag (functionOf tag) fun function =>
    respects_children_named rfl (by decide) (fun _ _ => respects_leaf _) function

theorem respects_readFunctions : Respects .functions readFunctions :=
  respects_children_named rfl (by decide) (fun _ tag => (respects_readFunction tag).map _) []

theorem respects_readRoots (roots : List String) : Respects .chained (readRoots roots) :=
  respects_children_named rfl (by decide) (fun _ _ => respects_leaf _) roots

theorem respects_readChained (struct : Schema.Struct) (tag : Tag) :
    Respects .chained (readChained struct tag) :=
  respects_of_tag (chainedOf tag) fun _ => (respects_readRoots struct.chainRoots).map _

theorem respects_readEnumeration (element : String) (tag : Tag) :
    Respects .entries (readEnumeration element tag) :=
  respects_of_tag (nameOf element tag) fun _ => respects_readEntries.map _

theorem respects_readConstants (constants : List Schema.Constant) :
    Respects .constants (readConstants constants) :=
  respects_children_named rfl (by decide) (fun _ _ => respects_leaf _) constants

theorem respects_readObject (tag : Tag) : Respects .object (readObject tag) :=
  respects_of_tag (objectOf tag) fun object =>
    respects_children_named rfl (by decide) (fun _ _ => respects_readFunctions.map _) object

theorem respects_readObjects (objects : List Schema.Object) :
    Respects .objects (readObjects objects) :=
  respects_children_named rfl (by decide) (fun _ tag => (respects_readObject tag).map _) objects

theorem respects_readPrefix (found : Option String) : Respects .prefixes (readPrefix found) :=
  respects_children_named rfl (by decide) (fun _ _ => respects_trimmedText.map some) found

theorem respects_readMetadata (found : Option String) : Respects .metadata (readMetadata found) :=
  respects_children_named rfl (by decide) (fun found _ => respects_readPrefix found) found

theorem respects_readStruct (tag : Tag) : Respects .struct (readStruct tag) := by
  apply respects_of_tag (structOf tag)
  apply respects_children rfl (by decide)
  intro struct tag
  rw [visitStructPart]
  split
  · next named => exact .of_enter (by rw [named]; rfl) (by decide) (respects_leaf _)
  · next named => exact .of_enter (by rw [named]; rfl) (by decide) (respects_readChained struct tag)
  · next named => exact .of_enter (by rw [named]; rfl) (by decide) (respects_readFunctions.map _)
  · next member chained methods =>
      exact .passes (Place.enter_of_unknown rfl
        (by simpa [Place.known] using ⟨member, chained, methods⟩))

theorem respects_readTypes (schema : Schema) : Respects .types (readTypes schema) := by
  apply respects_children rfl (by decide)
  intro schema tag
  rw [visitType]
  split
  · next named => exact .of_enter (by rw [named]; rfl) (by decide) (respects_leaf _)
  · next named =>
      exact .of_enter (by rw [named]; rfl) (by decide) ((respects_readEnumeration _ tag).map _)
  · next named =>
      exact .of_enter (by rw [named]; rfl) (by decide) ((respects_readEnumeration _ tag).map _)
  · next named => exact .of_enter (by rw [named]; rfl) (by decide) ((respects_readStruct tag).map _)
  · next value enumeration bitmask struct =>
      exact .passes (Place.enter_of_unknown rfl
        (by simpa [Place.known] using ⟨value, enumeration, bitmask, struct⟩))

theorem run_readRoot_relevant {name : String} {path : List String}
    (placed : placeOf (name :: path) = .root) (events : List Event) :
    readRoot.run (relevant (name :: path) events) =
      (readRoot.run events).map fun taken => (taken.1, relevant path taken.2) := by
  apply agrees_children placed rfl (by decide)
  intro draft tag
  rw [visitSection]
  split
  · next named => exact .of_enter (by rw [named]; rfl) (by decide) (respects_trimmedText.map _)
  · next named =>
      exact .of_enter (by rw [named]; rfl) (by decide) ((respects_readMetadata _).map _)
  · next named =>
      exact .of_enter (by rw [named]; rfl) (by decide) ((respects_readConstants _).map _)
  · next named => exact .of_enter (by rw [named]; rfl) (by decide) ((respects_readTypes _).map _)
  · next named => exact .of_enter (by rw [named]; rfl) (by decide) (respects_readFunctions.map _)
  · next named => exact .of_enter (by rw [named]; rfl) (by decide) (respects_readFunctions.map _)
  · next named => exact .of_enter (by rw [named]; rfl) (by decide) ((respects_readObjects _).map _)
  · next license metadata defines types freeFunctions functionPointers objects =>
      exact .passes (Place.enter_of_unknown rfl (by
        simpa [Place.known] using
          ⟨license, metadata, defines, types, freeFunctions, functionPointers, objects⟩))

/-- A document describes what its relevant events describe, or is rejected for the same
reason. -/
theorem loadEvents_relevant (events : List Event) :
    loadEvents (relevant [] events) = loadEvents events := by
  induction events with
  | nil => rfl
  | cons event rest ih =>
      have lenient : (placeOf []).keepsAll := rfl
      rcases event_cases event with filler | ⟨tag, rfl⟩ | ⟨tag, rfl⟩ | ⟨name, rfl⟩ | ⟨cause, rfl⟩
      · rw [relevant_filler_kept lenient filler, loadEvents_filler filler, loadEvents_filler filler,
          ih]
      · have placed : placeOf [tag.name] = .root := rfl
        rw [relevant, if_neg (by rw [placed]; decide), loadEvents_start, loadEvents_start,
          run_readRoot_relevant placed]
        cases readRoot.run rest <;> rfl
      · rfl
      · exact ih
      · rfl

end ApiHeader.Description
