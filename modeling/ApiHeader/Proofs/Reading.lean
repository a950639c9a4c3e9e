/-
# Laws of content readers

A content reader returns what it made of the events after a start tag together
with the events it left. The bound that its type carries is only there to make
reading end; the laws here forget it. One equation for each kind of event says how
the children of an element are read, and what one child preserves, reading all of
them preserves.
-/

import ApiHeader.Description.Load

namespace ApiHeader.Description

open ApiHeader.Markup

variable {α β σ : Type}

theorem ok_of_map {f : α → β} {outcome : Except LoadError α} {value : β}
    (h : outcome.map f = .ok value) : ∃ taken, outcome = .ok taken ∧ value = f taken := by
  cases outcome with
  | error cause => cases h
  | ok taken => exact ⟨taken, rfl, (Except.ok.inj h).symm⟩

theorem lookup_eq_none_of_not_mem {κ : Type} [BEq κ] [LawfulBEq κ] {key : κ}
    {entries : List (κ × α)} (absent : key ∉ entries.map Prod.fst) : entries.lookup key = none := by
  rw [List.lookup_eq_none_iff]
  intro entry inside
  rw [bne_iff_ne]
  intro same
  exact absent (List.mem_map.2 ⟨entry, inside, same.symm⟩)

/-- What a reader makes of events, and those it leaves. -/
def ContentReader.run (reader : ContentReader α) (events : List Event) :
    Except LoadError (α × List Event) :=
  (reader events).map fun taken => (taken.value, taken.rest)

/-- A reader never leaves more events than it was given. -/
theorem length_of_run {reader : ContentReader α} {events rest : List Event} {value : α}
    (h : reader.run events = .ok (value, rest)) : rest.length ≤ events.length := by
  obtain ⟨taken, _, same⟩ := ok_of_map h
  cases same
  exact taken.bound

@[simp]
theorem run_map (f : α → β) (reader : ContentReader α) (events : List Event) :
    (reader.map f).run events = (reader.run events).map fun taken => (f taken.1, taken.2) := by
  simp only [ContentReader.run, ContentReader.map]
  cases reader events <;> rfl

/-- A reader that first decides something about the tag. -/
theorem run_bind (outcome : Except LoadError α) (next : α → ContentReader β)
    (events : List Event) :
    ContentReader.run (fun events => outcome >>= fun value => next value events) events =
      outcome >>= fun value => (next value).run events := by
  cases outcome <;> rfl

/-! ## Skipping and text -/

@[simp]
theorem run_skipContent_false (events : List Event) :
    (skipContent false).run events = (skipFrom 0 events).map fun rest => ((), rest) := by
  rw [ContentReader.run, skipContent, if_neg Bool.false_ne_true]
  split <;> next skipped => simp only [skipped]; rfl

@[simp]
theorem run_textContent_false (events : List Event) :
    (textContent false).run events =
      (textFrom 0 events).map fun found => (String.ofList found.1, found.2) := by
  rw [ContentReader.run, textContent, if_neg Bool.false_ne_true]
  split <;> next found => simp only [found]; rfl

theorem run_leaf (outcome : Except LoadError α) (selfClosing : Bool) (events : List Event) :
    (leaf outcome selfClosing).run events = outcome >>= fun value =>
      ((skipContent selfClosing).run events).map fun taken => (value, taken.2) := by
  cases outcome with
  | error cause => rfl
  | ok value => exact run_map (fun _ => value) (skipContent selfClosing) events

/-- What a changed reader returns comes from what the reader returned. -/
theorem run_map_eq_ok {f : α → β} {reader : ContentReader α} {events rest : List Event}
    {value : β} (h : (reader.map f).run events = .ok (value, rest)) :
    ∃ taken, reader.run events = .ok (taken, rest) ∧ value = f taken := by
  rw [run_map] at h
  obtain ⟨taken, read, same⟩ := ok_of_map h
  cases same
  exact ⟨taken.1, read, rfl⟩

/-- What an element without children of interest gives is decided by its tag. -/
theorem run_leaf_eq_ok {outcome : Except LoadError α} {selfClosing : Bool}
    {events rest : List Event} {value : α}
    (h : (leaf outcome selfClosing).run events = .ok (value, rest)) :
    outcome = .ok value ∧ (skipContent selfClosing).run events = .ok ((), rest) := by
  rw [run_leaf] at h
  obtain ⟨decided, same, skipped⟩ := bind_eq_ok_iff.1 h
  obtain ⟨taken, read, together⟩ := ok_of_map skipped
  cases together
  exact ⟨same, read⟩

/-! ## Children -/

theorem run_readChild_some {visit : Visitor σ} {state : σ} {tag : Tag}
    {reader : Bool → ContentReader σ} (known : visit state tag = some reader)
    (selfClosing : Bool) (events : List Event) :
    (readChild visit state tag selfClosing).run events = (reader selfClosing).run events := by
  rw [readChild, known]

theorem run_readChild_none {visit : Visitor σ} {state : σ} {tag : Tag}
    (unknown : visit state tag = none) (selfClosing : Bool) (events : List Event) :
    (readChild visit state tag selfClosing).run events =
      ((skipContent selfClosing).run events).map fun taken => (state, taken.2) := by
  rw [readChild, unknown]
  exact run_map _ _ _

@[simp]
theorem run_children_nil (visit : Visitor σ) (state : σ) :
    (children visit state false).run [] = .error .unexpectedEnd := by
  simp [ContentReader.run, children, childrenFrom, Except.map]

@[simp]
theorem run_children_fault (visit : Visitor σ) (state : σ) (cause : Fault) (rest : List Event) :
    (children visit state false).run (.fault cause :: rest) = .error (.markup cause) := by
  simp [ContentReader.run, children, childrenFrom, Except.map]

@[simp]
theorem run_children_close (visit : Visitor σ) (state : σ) (name : String) (rest : List Event) :
    (children visit state false).run (.close name :: rest) = .ok (state, rest) := by
  simp [ContentReader.run, children, childrenFrom, Except.map]

private theorem map_bind_within {following events : List Event}
    (fewer : ∀ child : Taken σ following, child.rest.length ≤ events.length)
    (child : Except LoadError (Taken σ following))
    (next : (state : σ) → (rest : List Event) → Except LoadError (Taken σ rest)) :
    (do
      let child ← child
      let taken ← next child.value child.rest
      return (taken.within (fewer child) : Taken σ events)).map
        (fun taken : Taken σ events => (taken.value, taken.rest)) =
      (child.map fun taken => (taken.value, taken.rest)) >>= fun taken =>
        (next taken.1 taken.2).map fun taken => (taken.value, taken.rest) := by
  cases child with
  | error cause => rfl
  | ok child =>
      simp only [bind, Except.bind, Except.map]
      cases next child.value child.rest <;> rfl

/-- A child is read, and what it gives is the state in which the next is read. -/
@[simp]
theorem run_children_start (visit : Visitor σ) (state : σ) (tag : Tag) (rest : List Event) :
    (children visit state false).run (.start tag :: rest) =
      (readChild visit state tag false).run rest >>= fun taken =>
        (children visit taken.1 false).run taken.2 := by
  change (childrenFrom visit state (.start tag :: rest)).map _ = _
  rw [childrenFrom]
  exact map_bind_within _ _ _

@[simp]
theorem run_children_empty (visit : Visitor σ) (state : σ) (tag : Tag) (rest : List Event) :
    (children visit state false).run (.empty tag :: rest) =
      (readChild visit state tag true).run rest >>= fun taken =>
        (children visit taken.1 false).run taken.2 := by
  change (childrenFrom visit state (.empty tag :: rest)).map _ = _
  rw [childrenFrom]
  exact map_bind_within _ _ _

/-- An event between the tags of an element's children. -/
def isFiller : Event → Bool
  | .text _ | .cdata _ | .reference _ | .aside => true
  | _ => false

/-- The kinds of events that readers of children tell apart. -/
theorem event_cases (event : Event) :
    isFiller event ∨ (∃ tag, event = .start tag) ∨ (∃ tag, event = .empty tag) ∨
      (∃ name, event = .close name) ∨ ∃ cause, event = .fault cause := by
  cases event <;> simp [isFiller]

/-- What stands between children is passed over. -/
theorem run_children_filler {event : Event} (filler : isFiller event) (visit : Visitor σ)
    (state : σ) (rest : List Event) :
    (children visit state false).run (event :: rest) = (children visit state false).run rest := by
  change (childrenFrom visit state (event :: rest)).map _ = (childrenFrom visit state rest).map _
  cases event <;> simp only [isFiller, Bool.false_eq_true] at filler
  all_goals
    rw [childrenFrom]
    cases childrenFrom visit state rest <;> rfl

theorem skipFrom_filler {event : Event} (filler : isFiller event) (depth : Nat)
    (rest : List Event) : skipFrom depth (event :: rest) = skipFrom depth rest := by
  cases event <;> first | rfl | simp [isFiller] at filler

/-- What reading one child preserves, reading all children preserves. A child that
is passed over leaves the state as it was, so only known children matter. -/
theorem children_invariant {visit : Visitor σ} (holds : σ → Prop)
    (child : ∀ state tag reader, visit state tag = some reader → holds state →
      ∀ selfClosing events value rest,
        (reader selfClosing).run events = .ok (value, rest) → holds value)
    {state value : σ} {selfClosing : Bool} {events rest : List Event} (initial : holds state)
    (h : (children visit state selfClosing).run events = .ok (value, rest)) : holds value := by
  cases selfClosing with
  | true =>
      cases h
      exact initial
  | false =>
      have kept {state taken : σ} {tag : Tag} {selfClosing : Bool} {events rest : List Event}
          (before : holds state)
          (read : (readChild visit state tag selfClosing).run events = .ok (taken, rest)) :
          holds taken := by
        cases known : visit state tag with
        | some reader =>
            rw [run_readChild_some known] at read
            exact child state tag reader known before _ _ _ _ read
        | none =>
            rw [run_readChild_none known] at read
            obtain ⟨result, _, same⟩ := ok_of_map read
            cases same
            exact before
      -- the events that a child leaves are fewer, whatever it took
      induction size : events.length using Nat.strongRecOn generalizing events state with
      | ind length ih =>
          have next {state : σ} {rest' : List Event} (shorter : rest'.length < length)
              (before : holds state)
              (read : (children visit state false).run rest' = .ok (value, rest)) : holds value :=
            ih rest'.length shorter before read rfl
          cases events with
          | nil => simp at h
          | cons event following =>
              simp only [List.length_cons] at size
              rcases event_cases event with
                filler | ⟨tag, rfl⟩ | ⟨tag, rfl⟩ | ⟨name, rfl⟩ | ⟨cause, rfl⟩
              · rw [run_children_filler filler] at h
                exact next (by omega) initial h
              · rw [run_children_start] at h
                obtain ⟨⟨taken, left⟩, read, continued⟩ := bind_eq_ok_iff.1 h
                have fewer := length_of_run read
                exact next (by dsimp only; omega) (kept initial read) continued
              · rw [run_children_empty] at h
                obtain ⟨⟨taken, left⟩, read, continued⟩ := bind_eq_ok_iff.1 h
                have fewer := length_of_run read
                exact next (by dsimp only; omega) (kept initial read) continued
              · simp only [run_children_close, Except.ok.injEq, Prod.mk.injEq] at h
                exact h.1 ▸ initial
              · simp at h

/-! ## Documents -/

theorem loadEvents_start (tag : Tag) (rest : List Event) :
    loadEvents (.start tag :: rest) = readRoot.run rest >>= fun taken => taken.1.finish := by
  rw [loadEvents, ContentReader.run]
  cases readRoot rest <;> rfl

theorem loadEvents_filler {event : Event} (filler : isFiller event) (rest : List Event) :
    loadEvents (event :: rest) = loadEvents rest := by
  cases event <;> first | rfl | simp [isFiller] at filler

/-- The events of a document whose characters are known need not be read off its bytes. -/
theorem events_of_spelled {document : String} {cs : List Char} (spelled : document = String.ofList cs)
    (plain : cs.head? ≠ some byteOrderMark) : events document = eventsFrom [] cs := by
  rw [spelled, events, String.toList_ofList]
  cases cs with
  | nil => simp [eventsFrom]
  | cons c cs => exact if_neg (by simpa using plain)

/-- A literal shows its characters. -/
theorem events_ofList {c : Char} {cs : List Char} (plain : c ≠ byteOrderMark) :
    events (String.ofList (c :: cs)) = eventsFrom [] (c :: cs) :=
  events_of_spelled rfl (by simpa using plain)

/-- Literals that are joined show their characters as well. -/
theorem append_eq_ofList {first second : String} {cs ds : List Char}
    (h : first = String.ofList cs) (h' : second = String.ofList ds) :
    first ++ second = String.ofList (cs ++ ds) := by
  rw [h, h', String.ofList_append]

end ApiHeader.Description
