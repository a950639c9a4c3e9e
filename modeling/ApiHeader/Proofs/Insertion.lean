/-
# Adding to a document

Whatever a description does not know may be added to it. At any place inside the
root element other than the license and the prefix, comments, instructions, text and
elements with unknown tags change nothing about what a document describes: not the
schema, and not the reason for which it is rejected either. The material has to be
readable by itself and to close what it opens; nothing else is asked of it, so its
elements may hold anything, elements with known tags among them. An element that is
written as one tag takes additions between two tags of its own.
-/

import ApiHeader.Proofs.Relevance

namespace ApiHeader.Description

open ApiHeader.Markup

/-! ## Material -/

/-- The names of the outermost elements among some events, given how many elements
are open. -/
def outermost : Nat → List Event → List String
  | _, [] => []
  | 0, .start tag :: rest => tag.name :: outermost 1 rest
  | depth + 1, .start _ :: rest => outermost (depth + 2) rest
  | depth, .close _ :: rest => outermost (depth - 1) rest
  | 0, .empty tag :: rest => tag.name :: outermost 0 rest
  | depth, _ :: rest => outermost depth rest

/-- Material that may be added at a place: it is read by itself without a fault and
closes all it opens, and none of its outermost elements is known there. -/
structure Addable (place : Place) (material : String) : Prop where
  closed : openAfter [] (eventsFrom [] material.toList) = some []
  unknown : ∀ name ∈ outermost 0 (eventsFrom [] material.toList), name ∉ place.known.map Prod.fst

theorem outermost_filler {event : Event} (filler : isFiller event) (depth : Nat)
    (rest : List Event) : outermost depth (event :: rest) = outermost depth rest := by
  cases depth <;> cases event <;> first | rfl | simp [isFiller] at filler

theorem outermost_start (depth : Nat) (tag : Tag) (rest : List Event) :
    outermost depth (.start tag :: rest) =
      (if depth = 0 then [tag.name] else []) ++ outermost (depth + 1) rest := by
  cases depth <;> rfl

theorem outermost_empty (depth : Nat) (tag : Tag) (rest : List Event) :
    outermost depth (.empty tag :: rest) =
      (if depth = 0 then [tag.name] else []) ++ outermost depth rest := by
  cases depth <;> rfl

/-! ## Relevant events of joined lists -/

/-- The relevant events of a list are those of a first part, and those of the rest with
the elements that the first part leaves open. -/
theorem relevant_append {path left : List String} {events : List Event}
    (h : openAfter path events = some left) (more : List Event) :
    relevant path (events ++ more) = relevant path events ++ relevant left more := by
  induction events generalizing path with
  | nil =>
      cases h
      rfl
  | cons event rest ih =>
      rw [List.cons_append]
      rcases event_cases event with filler | ⟨tag, rfl⟩ | ⟨tag, rfl⟩ | ⟨name, rfl⟩ | ⟨cause, rfl⟩
      · rw [openAfter_filler filler] at h
        by_cases lenient : (placeOf path).keepsAll
        · rw [relevant_filler_kept lenient filler, relevant_filler_kept lenient filler, ih h]
          rfl
        · rw [Bool.not_eq_true] at lenient
          rw [relevant_filler lenient filler, relevant_filler lenient filler, ih h]
      · rw [relevant, relevant, ih h]
        split <;> rfl
      · rw [relevant, relevant, ih h]
        split
        · rfl
        · split <;> rfl
      · cases path with
        | nil => cases h
        | cons innermost outer =>
            rw [openAfter] at h
            split at h
            · rw [relevant, relevant, List.tail_cons, ih h]
              split <;> rfl
            · cases h
      · cases h

/-- Inside an unknown element everything is passed over. -/
theorem placeOf_append_of_unknown {path inner : List String} (nonempty : inner ≠ [])
    (unknown : ∀ name, inner.getLast? = some name → (placeOf path).enter name = .skipped) :
    placeOf (inner ++ path) = .skipped := by
  have last : placeOf (inner.getLast nonempty :: path) = .skipped :=
    unknown _ (List.getLast?_eq_some_getLast nonempty)
  rw [← List.dropLast_concat_getLast nonempty, List.append_assoc]
  exact placeOf_append (fun _ => rfl) last inner.dropLast

/-- Nothing is relevant of events whose outermost elements are unknown. The elements that
are open already are unknown too. -/
theorem relevant_eq_nil {path inner left : List String} {events more : List Event}
    (strict : (placeOf path).keepsAll = false) (h : openAfter inner events = some left)
    (unknown : ∀ name ∈ outermost inner.length (events ++ more),
      (placeOf path).enter name = .skipped)
    (outer : ∀ name, inner.getLast? = some name → (placeOf path).enter name = .skipped) :
    relevant (inner ++ path) events = [] := by
  induction events generalizing inner with
  | nil => rfl
  | cons event rest ih =>
      have strictHere : (placeOf (inner ++ path)).keepsAll = false := by
        by_cases nonempty : inner = []
        · rw [nonempty]
          exact strict
        · rw [placeOf_append_of_unknown nonempty outer]
          rfl
      have inside (tag : Tag) (first : inner = [] → (placeOf path).enter tag.name = .skipped) :
          ∀ name, (tag.name :: inner).getLast? = some name →
            (placeOf path).enter name = .skipped := by
        intro name last
        cases inner with
        | nil =>
            cases last
            exact first rfl
        | cons _ _ => exact outer name last
      have deeper (tag : Tag) (first : inner = [] → (placeOf path).enter tag.name = .skipped) :
          placeOf (tag.name :: (inner ++ path)) = .skipped :=
        placeOf_append_of_unknown (List.cons_ne_nil tag.name inner) (inside tag first)
      rw [List.cons_append] at unknown
      rcases event_cases event with filler | ⟨tag, rfl⟩ | ⟨tag, rfl⟩ | ⟨name, rfl⟩ | ⟨cause, rfl⟩
      · rw [openAfter_filler filler] at h
        rw [outermost_filler filler] at unknown
        rw [relevant_filler strictHere filler]
        exact ih h unknown outer
      · rw [outermost_start] at unknown
        have first (empty : inner = []) := unknown tag.name (by simp [empty])
        rw [relevant, if_pos (deeper tag first)]
        exact ih h (fun name member => unknown name (List.mem_append_right _ member))
          (inside tag first)
      · rw [outermost_empty] at unknown
        have first (empty : inner = []) := unknown tag.name (by simp [empty])
        rw [relevant, if_neg (by simp [strictHere]), if_pos (deeper tag first)]
        exact ih h (fun name member => unknown name (List.mem_append_right _ member)) outer
      · cases inner with
        | nil => cases h
        | cons innermost others =>
            have skipped := placeOf_append_of_unknown (List.cons_ne_nil innermost others) outer
            rw [relevant, if_pos skipped]
            rw [openAfter] at h
            split at h
            · refine ih h unknown fun name last => outer name ?_
              rw [List.getLast?_cons, last]
              rfl
            · cases h
      · cases h

/-! ## Relevant events of joined characters -/

section Characters

variable {path : List String} (strict : (placeOf path).keepsAll = false)

include strict

/-- Text that goes before other characters is not relevant, although it may become one
with text that they begin with. -/
theorem relevant_run {run : List Char} (text : ∀ c ∈ run, continuesText c) (opened : List String)
    (more : List Char) :
    relevant path (eventsFrom opened (run ++ more)) = relevant path (eventsFrom opened more) := by
  have withoutText (cs : List Char) : relevant path (eventsFrom opened cs) =
      relevant path (eventsFrom opened (cs.dropWhile continuesText)) := by
    cases cs with
    | nil => rfl
    | cons c cs =>
        by_cases goesOn : continuesText c
        · rw [eventsFrom_of_step (Lexeme.next_of_continuesText goesOn cs) rfl,
            relevant_filler strict rfl, List.dropWhile_cons_of_pos goesOn]
        · rw [List.dropWhile_cons_of_neg goesOn]
  rw [withoutText, List.dropWhile_append_of_pos text, ← withoutText]

/-- Material that may be added leaves no trace among the relevant events. -/
theorem relevant_material {material : String} (addable : Addable (placeOf path) material)
    (more : List Char) :
    relevant path (eventsFrom path (material.toList ++ more)) =
      relevant path (eventsFrom path more) := by
  obtain ⟨events, run, scan⟩ := exists_scan addable.closed
  have whole := scan.eventsFrom_append []
  rw [List.append_nil, List.append_nil] at whole
  have closedHere : openAfter path events = some path := (scan.extend path).openAfter_events
  have unknown : ∀ name ∈ outermost 0 (events ++ eventsFrom [] run),
      (placeOf path).enter name = .skipped := by
    intro name member
    rw [← whole] at member
    exact Place.enter_of_unknown strict (addable.unknown name member)
  have nothing : relevant path events = [] :=
    relevant_eq_nil strict scan.openAfter_events unknown (fun _ last => by cases last)
  have joined : eventsFrom path (material.toList ++ more) =
      events ++ eventsFrom path (run ++ more) := (scan.extend path).eventsFrom_append more
  rw [joined, relevant_append closedHere, nothing, List.nil_append,
    relevant_run strict scan.continuesText_run]

end Characters

/-- A single tag is read as one event, whatever elements are open further out and
whatever follows. -/
theorem eventsFrom_of_single {opened left : List String} {cs : List Char} {event : Event}
    (single : eventsFrom opened cs = [event]) (after : openAfter opened [event] = some left)
    (tag : isFiller event = false) (outer : List String) (more : List Char) :
    eventsFrom (opened ++ outer) (cs ++ more) = event :: eventsFrom (left ++ outer) more := by
  obtain ⟨events, run, scan⟩ := exists_scan (by rw [single]; exact after)
  have whole := scan.eventsFrom_append []
  rw [List.append_nil, List.append_nil, single] at whole
  have ended : run = [] := by
    have text := scan.continuesText_run
    cases run with
    | nil => rfl
    | cons c cs =>
        rw [eventsFrom_of_step (Lexeme.next_of_continuesText (text c List.mem_cons_self) cs) rfl]
          at whole
        cases events with
        | nil =>
            rw [(List.cons.inj whole).1] at tag
            cases tag
        | cons first others => simp at whole
  subst ended
  rw [eventsFrom_nil, List.append_nil] at whole
  rw [(scan.extend outer).eventsFrom_append more, ← whole]
  rfl

/-! ## Documents -/

theorem load_eq_relevant (document : String) :
    Schema.load document = loadEvents (relevant [] (events document)) :=
  (loadEvents_relevant _).symm

/-- At a place that keeps no text, what stands before it and what follows it are relevant
apart from each other. -/
theorem relevant_events_append {before : String} {path : List String}
    (position : openAfter [] (events before) = some path)
    (strict : (placeOf path).keepsAll = false) :
    ∃ front, ∀ more : String, relevant [] (events (before ++ more)) =
      front ++ relevant path (eventsFrom path more.toList) := by
  have nonempty : before ≠ "" := by
    intro empty
    subst empty
    cases position
    cases strict
  obtain ⟨cs, alone, joined⟩ := exists_events_append nonempty
  rw [alone] at position
  obtain ⟨found, run, scan⟩ := exists_scan position
  refine ⟨relevant [] found, fun more => ?_⟩
  rw [joined, scan.eventsFrom_append, relevant_append scan.openAfter_events,
    relevant_run strict scan.continuesText_run]

/-- One document is another with material added among the children of an element. The
element is inside the root, and neither its text nor that of an element around it is
read. If it is written as one tag, the material goes between two tags that say the
same. -/
inductive Addition : String → String → Prop
  | between {before material after : String} {path : List String}
      (position : openAfter [] (events before) = some path)
      (strict : (placeOf path).keepsAll = false) (addable : Addable (placeOf path) material) :
      Addition (before ++ after) (before ++ material ++ after)
  | inside {before single start material stop after : String} {path : List String} {tag : Tag}
      (position : openAfter [] (events before) = some path)
      (strict : (placeOf path).keepsAll = false)
      (isSingle : eventsFrom [] single.toList = [.empty tag])
      (isStart : eventsFrom [] start.toList = [.start tag])
      (isStop : eventsFrom [tag.name] stop.toList = [.close tag.name])
      (strictInside : (placeOf (tag.name :: path)).keepsAll = false)
      (addable : Addable (placeOf (tag.name :: path)) material) :
      Addition (before ++ single ++ after) (before ++ start ++ material ++ stop ++ after)

/-- An element written as one tag has the same relevant events as one that is written as
two tags with material between them. -/
theorem relevant_of_single {path : List String} {tag : Tag} {single start stop material : String}
    (strict : (placeOf path).keepsAll = false)
    (isSingle : eventsFrom [] single.toList = [.empty tag])
    (isStart : eventsFrom [] start.toList = [.start tag])
    (isStop : eventsFrom [tag.name] stop.toList = [.close tag.name])
    (strictInside : (placeOf (tag.name :: path)).keepsAll = false)
    (addable : Addable (placeOf (tag.name :: path)) material) (after : List Char) :
    relevant path (eventsFrom path (start.toList ++ (material.toList ++ (stop.toList ++ after)))) =
      relevant path (eventsFrom path (single.toList ++ after)) := by
  have singleRead := eventsFrom_of_single isSingle rfl rfl path after
  have startRead :=
    eventsFrom_of_single isStart rfl rfl path (material.toList ++ (stop.toList ++ after))
  have closes : openAfter [tag.name] [.close tag.name] = some [] := by simp [openAfter]
  have stopRead := eventsFrom_of_single isStop closes rfl path after
  simp only [List.nil_append, List.singleton_append] at singleRead startRead stopRead
  rw [singleRead, startRead, relevant, relevant, relevant_material strictInside addable, stopRead,
    relevant]
  by_cases skipped : placeOf (tag.name :: path) = .skipped
  · simp [skipped, strict]
  · simp [skipped, strict]

end ApiHeader.Description

namespace ApiHeader

open ApiHeader.Description ApiHeader.Markup

/-- A document with additions describes what it described without them. -/
theorem load_eq_of_addition {document edited : String} (addition : Addition document edited) :
    Schema.load edited = Schema.load document := by
  rw [load_eq_relevant, load_eq_relevant]
  congr 1
  cases addition with
  | @between before material after path position strict addable =>
      obtain ⟨front, split⟩ := relevant_events_append position strict
      rw [String.append_assoc, split, split, String.toList_append, relevant_material strict addable]
  | @inside before single start material stop after path tag position strict isSingle isStart
      isStop strictInside addable =>
      obtain ⟨front, split⟩ := relevant_events_append position strict
      simp only [String.append_assoc]
      rw [split, split]
      simp only [String.toList_append]
      rw [relevant_of_single strict isSingle isStart isStop strictInside addable]

/-- The beginning of a document, up to the children of its types. -/
def typesFront : String :=
  "<api><metadata><prefix><c>P</c></prefix></metadata><types>"

/-- Material that is known neither among types nor in a structure, although an element
with a known tag stands inside. -/
def noteMaterial : String :=
  "<!-- > --><note of='all'>a &lt; b<member/></note>"

/-- A note may stand before a structure, and inside one that is written as one tag. -/
theorem load_eq_of_note :
    (Schema.load (typesFront ++ "<struct name='A'/>" ++ "</types></api>")).toOption.isSome ∧
      Schema.load (typesFront ++ noteMaterial ++ ("<struct name='A'/>" ++ "</types></api>")) =
        Schema.load (typesFront ++ ("<struct name='A'/>" ++ "</types></api>")) ∧
      Schema.load (typesFront ++ "<struct name='A'>" ++ noteMaterial ++ "</struct>" ++
          "</types></api>") =
        Schema.load (typesFront ++ "<struct name='A'/>" ++ "</types></api>") := by
  have position : openAfter [] (events typesFront) = some ["types", "api"] := by decide +kernel
  have closed : openAfter [] (eventsFrom [] noteMaterial.toList) = some [] := by decide +kernel
  have outer : outermost 0 (eventsFrom [] noteMaterial.toList) = ["note"] := by decide +kernel
  have addable {place : Place} (unknown : "note" ∉ place.known.map Prod.fst) :
      Addable place noteMaterial := by
    refine ⟨closed, ?_⟩
    rw [outer]
    simpa using unknown
  let tag := Tag.ofContent "struct name='A'".toList
  have alone {opened left : List String} {cs : List Char} {lexeme : Lexeme} {event : Event}
      (next : Lexeme.next '<' cs = .ok (lexeme, []))
      (step : lexeme.step opened = .ok (event, left)) :
      eventsFrom opened ('<' :: cs) = [event] := by
    rw [eventsFrom_of_step next step, eventsFrom_nil]
  have isSingle : eventsFrom [] "<struct name='A'/>".toList = [.empty tag] :=
    alone (show _ = Except.ok (Lexeme.opening tag true, []) from rfl) rfl
  have isStart : eventsFrom [] "<struct name='A'>".toList = [.start tag] :=
    alone (show _ = Except.ok (Lexeme.opening tag false, []) from rfl) rfl
  have isStop : eventsFrom [tag.name] "</struct>".toList = [.close tag.name] :=
    alone (show _ = Except.ok (Lexeme.closing tag.name, []) from rfl)
      (show _ = Except.ok (Event.close tag.name, []) by simp [Lexeme.step])
  refine ⟨by decide +kernel, load_eq_of_addition ?_, load_eq_of_addition ?_⟩
  · exact .between position rfl (addable (by decide))
  · exact .inside position rfl isSingle isStart isStop rfl (addable (by decide))

end ApiHeader
