/-
# Elements behind events

Readers go through events, while a description consists of elements in elements. The
outline of some events is what they say about elements: those up to an end tag whose start
tag came earlier, then those up to the next one, and so on. So the outline after a start
tag begins with the parts of the element, and what a reader leaves is told by where it ends.

The meaning of a reader relates the parts of an element to what is made of them. It is put
together like the reader itself: the children of an element are read one after the other,
each from what the earlier ones gave, and where every child of some names adds one entry,
the entries belong to these children one by one and in order.
-/

import ApiHeader.Proofs.Consumption
import Mathlib.Data.List.Forall2

namespace ApiHeader.Description

open ApiHeader.Markup

variable {α β γ σ : Type}

/-- An element as it was read, with the elements in it. -/
structure Node where
  tag : Tag
  parts : List Node

/-- The elements of some events, divided by the end tags that no start tag among them
matches. -/
def outlines : List Event → List (List Node)
  | [] => [[]]
  | .start tag :: rest =>
    match outlines rest with
    | parts :: siblings :: outer => (⟨tag, parts⟩ :: siblings) :: outer
    | unclosed => unclosed
  | .empty tag :: rest => (outlines rest).modifyHead (⟨tag, []⟩ :: ·)
  | .close _ :: rest => [] :: outlines rest
  | _ :: rest => outlines rest

/-- The parts of the first element that is opened. -/
def rootParts : List Event → List Node
  | [] => []
  | .start _ :: following => (outlines following).headD []
  | _ :: following => rootParts following

theorem rootParts_append {front : List Event} (leads : ∀ event ∈ front, leadsRoot event)
    (rest : List Event) : rootParts (front ++ rest) = rootParts rest := by
  induction front with
  | nil => rfl
  | cons event front ih =>
      obtain ⟨own, others⟩ := List.forall_mem_cons.1 leads
      have skipped : rootParts (event :: (front ++ rest)) = rootParts (front ++ rest) := by
        cases event <;> first | rfl | cases own
      rw [List.cons_append, skipped, ih others]

/-- The elements that have one of the given names. -/
def among (names : List String) (elements : List Node) : List Node :=
  elements.filter fun element => element.tag.name ∈ names

theorem outlines_filler {event : Event} (filler : isFiller event) (rest : List Event) :
    outlines (event :: rest) = outlines rest := by
  cases event <;> first | rfl | cases filler

theorem outlines_empty {tag : Tag} {rest left : List Event} {parts : List Node}
    (others : outlines rest = parts :: outlines left) :
    outlines (.empty tag :: rest) = (⟨tag, []⟩ :: parts) :: outlines left := by
  rw [outlines, others]
  rfl

theorem outlines_start {tag : Tag} {inner rest left : List Event} {own parts : List Node}
    (content : outlines inner = own :: outlines rest)
    (others : outlines rest = parts :: outlines left) :
    outlines (.start tag :: inner) = (⟨tag, own⟩ :: parts) :: outlines left := by
  rw [outlines, content, others]

/-- Whole elements up to an end tag are one part of an outline. -/
theorem Nested.exists_outlines {inner : List Event} (nested : Nested inner) :
    ∃ parts, ∀ name rest, outlines (inner ++ .close name :: rest) = parts :: outlines rest := by
  induction nested with
  | nil => exact ⟨[], fun name rest => rfl⟩
  | filler filler others ih =>
      obtain ⟨parts, same⟩ := ih
      exact ⟨parts, fun name rest => (outlines_filler filler _).trans (same name rest)⟩
  | @empty tag _ others ih =>
      obtain ⟨parts, same⟩ := ih
      exact ⟨⟨tag, []⟩ :: parts, fun name rest => outlines_empty (same name rest)⟩
  | @element tag last _ _ content others ihContent ihOthers =>
      obtain ⟨own, sameContent⟩ := ihContent
      obtain ⟨parts, same⟩ := ihOthers
      refine ⟨⟨tag, own⟩ :: parts, fun name rest => ?_⟩
      rw [List.cons_append, List.append_assoc, List.cons_append]
      exact outlines_start (sameContent last _) (same name rest)

/-! ## The meaning of a reader -/

/-- What a reader makes of an element is related to the parts of the element, and it ends
where the parts do. -/
structure Means (reader : Bool → ContentReader α) (meaning : List Node → α → Prop) : Prop where
  content : ∀ {events rest : List Event} {value : α},
    (reader false).run events = .ok (value, rest) →
      ∃ parts, outlines events = parts :: outlines rest ∧ meaning parts value
  empty : ∀ {events rest : List Event} {value : α},
    (reader true).run events = .ok (value, rest) → rest = events ∧ meaning [] value

namespace Means

variable {reader : Bool → ContentReader α} {meaning : List Node → α → Prop}

theorem imp {weaker : List Node → α → Prop} (means : Means reader meaning)
    (implies : ∀ parts value, meaning parts value → weaker parts value) : Means reader weaker where
  content h := by
    obtain ⟨parts, same, meant⟩ := means.content h
    exact ⟨parts, same, implies _ _ meant⟩
  empty h := (means.empty h).imp id (implies _ _)

theorem map {changed : List Node → β → Prop} (means : Means reader meaning) (f : α → β)
    (implies : ∀ parts value, meaning parts value → changed parts (f value)) :
    Means (fun selfClosing => (reader selfClosing).map f) changed where
  content h := by
    obtain ⟨taken, read, rfl⟩ := run_map_eq_ok h
    obtain ⟨parts, same, meant⟩ := means.content read
    exact ⟨parts, same, implies _ _ meant⟩
  empty h := by
    obtain ⟨taken, read, rfl⟩ := run_map_eq_ok h
    exact (means.empty read).imp id (implies _ _)

end Means

theorem Exact.means {reader : Bool → ContentReader α} (exactly : Exact reader) :
    Means reader fun _ _ => True where
  content h := by
    obtain ⟨inner, name, nested, rfl, _⟩ := exactly.content h
    obtain ⟨parts, same⟩ := nested.exists_outlines
    exact ⟨parts, same name _, trivial⟩
  empty h := ⟨(exactly.empty h).1, trivial⟩

/-- A reader that looks at the tag first. -/
theorem means_of_tag {outcome : Except LoadError β} {reader : β → Bool → ContentReader α}
    {meaning : List Node → α → Prop}
    (means : ∀ found, outcome = .ok found → Means (reader found) meaning) :
    Means (fun selfClosing events => outcome >>= fun found => reader found selfClosing events)
      meaning := by
  cases outcome with
  | error cause => exact ⟨nofun, nofun⟩
  | ok found => exact means found rfl

theorem means_leaf {outcome : Except LoadError α} :
    Means (leaf outcome) fun _ value => outcome = .ok value :=
  means_of_tag fun _ same => exact_skipContent.means.map _ fun _ _ _ => same

/-! ## Children -/

/-- Elements taken one after the other, each in the state that the one before it left. -/
inductive Through (step : σ → Node → σ → Prop) : σ → List Node → σ → Prop
  | nil {state : σ} : Through step state [] state
  | cons {state next final : σ} {element : Node} {elements : List Node}
      (first : step state element next) (others : Through step next elements final) :
      Through step state (element :: elements) final

section Children

variable {visit : Visitor σ} {step : σ → Node → σ → Prop}

theorem means_readChild
    (known : ∀ state tag reader, visit state tag = some reader →
      Means reader fun parts next => step state ⟨tag, parts⟩ next)
    (unknown : ∀ state tag parts, visit state tag = none → step state ⟨tag, parts⟩ state)
    (state : σ) (tag : Tag) :
    Means (readChild visit state tag) fun parts next => step state ⟨tag, parts⟩ next := by
  cases visited : visit state tag with
  | some reader =>
      rw [readChild_of_some visited]
      exact known state tag reader visited
  | none =>
      rw [readChild_of_none visited]
      exact exact_skipContent.means.map _ fun parts _ _ => unknown state tag parts visited

/-- Reading children takes them one after the other, as the readers of the children mean. -/
theorem means_children
    (known : ∀ state tag reader, visit state tag = some reader →
      Means reader fun parts next => step state ⟨tag, parts⟩ next)
    (unknown : ∀ state tag parts, visit state tag = none → step state ⟨tag, parts⟩ state)
    (state : σ) :
    Means (children visit state) fun parts value => Through step state parts value where
  content := by
    intro events rest value h
    -- a child leaves fewer events, so the induction is on their number
    induction size : events.length using Nat.strongRecOn generalizing state events with
    | ind length ih =>
        cases events with
        | nil => simp at h
        | cons event following =>
            simp only [List.length_cons] at size
            rcases event_cases event with
              filler | ⟨tag, rfl⟩ | ⟨tag, rfl⟩ | ⟨name, rfl⟩ | ⟨cause, rfl⟩
            · rw [run_children_filler filler] at h
              rw [outlines_filler filler]
              exact ih following.length (by omega) state h rfl
            · rw [run_children_start] at h
              obtain ⟨⟨taken, left⟩, read, continued⟩ := bind_eq_ok_iff.1 h
              have fewer := length_of_run read
              obtain ⟨own, content, first⟩ :=
                (means_readChild known unknown state tag).content read
              obtain ⟨parts, others, later⟩ := ih left.length (by omega) taken continued rfl
              exact ⟨⟨tag, own⟩ :: parts, outlines_start content others, .cons first later⟩
            · rw [run_children_empty] at h
              obtain ⟨⟨taken, left⟩, read, continued⟩ := bind_eq_ok_iff.1 h
              obtain ⟨rfl, first⟩ := (means_readChild known unknown state tag).empty read
              obtain ⟨parts, others, later⟩ := ih left.length (by omega) taken continued rfl
              exact ⟨⟨tag, []⟩ :: parts, outlines_empty others, .cons first later⟩
            · rw [run_children_close] at h
              cases h
              exact ⟨[], rfl, .nil⟩
            · simp at h
  empty h := by
    cases h
    exact ⟨rfl, .nil⟩

end Children

/-- Where a field changes with the elements of some names only, each of them adds an entry to
it, in order. -/
theorem Through.exists_foldl {step : σ → Node → σ → Prop} {names : List String}
    {describes : Node → β → Prop} {add : γ → β → γ} (field : σ → γ)
    (each : ∀ {state element next}, step state element next →
      if element.tag.name ∈ names then
        ∃ entry, describes element entry ∧ field next = add (field state) entry
      else field next = field state)
    {state final : σ} {elements : List Node} (through : Through step state elements final) :
    ∃ entries, List.Forall₂ describes (among names elements) entries ∧
      field final = entries.foldl add (field state) := by
  induction through with
  | nil => exact ⟨[], .nil, rfl⟩
  | @cons state next final element elements first others ih =>
      obtain ⟨entries, described, same⟩ := ih
      have own := each first
      by_cases inside : element.tag.name ∈ names
      · rw [if_pos inside] at own
        obtain ⟨entry, own, changed⟩ := own
        refine ⟨entry :: entries, ?_, ?_⟩
        · rw [among, List.filter_cons_of_pos (by simpa using inside)]
          exact .cons own described
        · rw [same, changed, List.foldl_cons]
      · rw [if_neg inside] at own
        refine ⟨entries, ?_, ?_⟩
        · rw [among, List.filter_cons_of_neg (by simpa using inside)]
          exact described
        · rw [same, own]

/-- What no element changes stays as it was. -/
theorem Through.keeps {step : σ → Node → σ → Prop} (field : σ → γ)
    (kept : ∀ {state element next}, step state element next → field next = field state)
    {state final : σ} {elements : List Node} (through : Through step state elements final) :
    field final = field state := by
  induction through with
  | nil => rfl
  | cons first others ih => exact ih.trans (kept first)

/-- The readers in which every known child adds one entry. -/
theorem means_children_entries {visit : Visitor σ} {names : List String}
    {describes : Node → β → Prop} {add : σ → β → σ}
    (known : ∀ state tag reader, visit state tag = some reader → tag.name ∈ names ∧
      Means reader fun parts next => ∃ entry, describes ⟨tag, parts⟩ entry ∧ next = add state entry)
    (unknown : ∀ state tag, visit state tag = none → tag.name ∉ names) (state : σ) :
    Means (children visit state) fun parts value =>
      ∃ entries, List.Forall₂ describes (among names parts) entries ∧
        value = entries.foldl add state := by
  let step (state : σ) (element : Node) (next : σ) : Prop :=
    if element.tag.name ∈ names then ∃ entry, describes element entry ∧ next = add state entry
    else next = state
  have means : Means (children visit state) fun parts value => Through step state parts value := by
    refine means_children (fun state tag reader visited => ?_) (fun state tag parts visited => ?_) _
    · obtain ⟨inside, means⟩ := known state tag reader visited
      exact means.imp fun parts next meant => (if_pos inside).mpr meant
    · exact (if_neg (unknown state tag visited)).mpr rfl
  exact means.imp fun parts value through => through.exists_foldl id fun first => first

/-- The readers that know one tag only. -/
theorem means_children_named {name : String} {read : σ → Tag → Bool → ContentReader σ}
    {describes : Node → β → Prop} {add : σ → β → σ}
    (means : ∀ state tag, Means (read state tag) fun parts next =>
      ∃ entry, describes ⟨tag, parts⟩ entry ∧ next = add state entry) (state : σ) :
    Means
      (children (fun state tag => if tag.name = name then some (read state tag) else none) state)
      fun parts value => ∃ entries, List.Forall₂ describes (among [name] parts) entries ∧
        value = entries.foldl add state := by
  refine means_children_entries (fun state tag reader visited => ?_) (fun state tag visited => ?_) _
  · split at visited
    · next named =>
      cases visited
      exact ⟨List.mem_singleton.2 named, means state tag⟩
    · cases visited
  · split at visited
    · cases visited
    · next other => exact mt List.mem_singleton.1 other

end ApiHeader.Description
