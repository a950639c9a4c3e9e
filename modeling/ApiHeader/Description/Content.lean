/-
# Reading the content of an element

A content reader is entered after the start tag of an element and takes the events
up to its end tag. It returns the events that follow, and the type records that
they are no more than it was given, so that `children` may call any reader for a
child and still go through finitely many events. A tag written as an empty element
has no content, and its readers take nothing.
-/

import ApiHeader.Description.Error
import ApiHeader.Markup.Event
import ApiHeader.Text.Lines

namespace ApiHeader

/-- Two steps one after the other succeed exactly if both do. -/
theorem bind_eq_ok_iff {ε α β : Type} {first : Except ε α} {next : α → Except ε β} {result : β} :
    first >>= next = .ok result ↔ ∃ value, first = .ok value ∧ next value = .ok result := by
  cases first <;> simp [bind, Except.bind]

namespace Description

open ApiHeader.Markup ApiHeader.Text

/-- What a reader made of the first of the given events, and those it left. -/
structure Taken (α : Type) (events : List Event) where
  value : α
  rest : List Event
  bound : rest.length ≤ events.length

/-- A reader of the events after a start tag. -/
abbrev ContentReader (α : Type) :=
  (events : List Event) → Except LoadError (Taken α events)

/-- The reader that takes nothing. -/
def ContentReader.pure {α : Type} (value : α) : ContentReader α :=
  fun events => .ok ⟨value, events, Nat.le_refl _⟩

/-- Change what a reader makes of the events. -/
def ContentReader.map {α β : Type} (f : α → β) (reader : ContentReader α) : ContentReader β :=
  fun events => (reader events).map fun taken => ⟨f taken.value, taken.rest, taken.bound⟩

/-- Pass over the rest of an element, given how many elements are open inside it,
and return the events after its end tag. -/
def skipFrom (depth : Nat) : List Event → Except LoadError (List Event)
  | [] => .error .unexpectedEnd
  | .fault cause :: _ => .error (.markup cause)
  | .start _ :: rest => skipFrom (depth + 1) rest
  | .close _ :: rest =>
    match depth with
    | 0 => .ok rest
    | depth + 1 => skipFrom depth rest
  | _ :: rest => skipFrom depth rest

/-- The character that a reference in text stands for. -/
def resolveInText (name : String) : Except LoadError Char :=
  match name.toList with
  | '#' :: digits => (readCharacter digits).mapError .character
  | cs =>
    match entity? cs with
    | some c => .ok c
    | none => .error (.unknownEntity name)

/-- Collect the text of the rest of an element, given how many elements are open
inside it. The text of inner elements counts, their tags do not. -/
def textFrom (depth : Nat) : List Event → Except LoadError (List Char × List Event)
  | [] => .error .unexpectedEnd
  | .fault cause :: _ => .error (.markup cause)
  | .start _ :: rest => textFrom (depth + 1) rest
  | .close _ :: rest =>
    match depth with
    | 0 => .ok ([], rest)
    | depth + 1 => textFrom depth rest
  | .text content :: rest | .cdata content :: rest => do
    let (others, rest) ← textFrom depth rest
    return (unifyLineEnds content.toList ++ others, rest)
  | .reference name :: rest => do
    let c ← resolveInText name
    let (others, rest) ← textFrom depth rest
    return (c :: others, rest)
  | .empty _ :: rest | .aside :: rest => textFrom depth rest

theorem length_of_skipFrom {depth : Nat} {events rest : List Event}
    (h : skipFrom depth events = .ok rest) : rest.length < events.length := by
  fun_induction skipFrom depth events <;> simp_all <;> omega

theorem length_of_textFrom {depth : Nat} {events rest : List Event} {text : List Char}
    (h : textFrom depth events = .ok (text, rest)) : rest.length < events.length := by
  induction events generalizing depth text with
  | nil => simp [textFrom] at h
  | cons event events ih =>
    have later {depth : Nat} {text : List Char} (h : textFrom depth events = .ok (text, rest)) :
        rest.length < (event :: events).length := Nat.lt_succ_of_lt (ih h)
    cases event with
    | fault cause => simp [textFrom] at h
    | start tag => exact later h
    | empty tag => exact later h
    | aside => exact later h
    | close name =>
      cases depth with
      | zero =>
        simp only [textFrom, Except.ok.injEq, Prod.mk.injEq] at h
        simp [h.2]
      | succ depth => exact later h
    | text content =>
      rw [textFrom] at h
      obtain ⟨⟨others, left⟩, found, same⟩ := bind_eq_ok_iff.1 h
      cases same
      exact later found
    | cdata content =>
      rw [textFrom] at h
      obtain ⟨⟨others, left⟩, found, same⟩ := bind_eq_ok_iff.1 h
      cases same
      exact later found
    | reference name =>
      rw [textFrom] at h
      obtain ⟨c, _, step⟩ := bind_eq_ok_iff.1 h
      obtain ⟨⟨others, left⟩, found, same⟩ := bind_eq_ok_iff.1 step
      cases same
      exact later found

/-- Pass over the content of an element. -/
def skipContent (selfClosing : Bool) : ContentReader Unit :=
  if selfClosing then .pure () else fun events =>
    match h : skipFrom 0 events with
    | .error cause => .error cause
    | .ok rest => .ok ⟨(), rest, Nat.le_of_lt (length_of_skipFrom h)⟩

/-- The text of an element. -/
def textContent (selfClosing : Bool) : ContentReader String :=
  if selfClosing then .pure "" else fun events =>
    match h : textFrom 0 events with
    | .error cause => .error cause
    | .ok (text, rest) => .ok ⟨String.ofList text, rest, Nat.le_of_lt (length_of_textFrom h)⟩

/-- How the children of an element are read: from what the earlier ones gave and
the child's tag, a reader for its content, or nothing for a child that is to be
passed over. -/
abbrev Visitor (σ : Type) := σ → Tag → Option (Bool → ContentReader σ)

/-- Read one child, or pass over it. -/
def readChild {σ : Type} (visit : Visitor σ) (state : σ) (tag : Tag) (selfClosing : Bool) :
    ContentReader σ :=
  match visit state tag with
  | some reader => reader selfClosing
  | none => (skipContent selfClosing).map fun _ => state

/-- The same outcome, seen as one of more events. -/
def Taken.within {α : Type} {events rest : List Event} (taken : Taken α rest)
    (fewer : rest.length ≤ events.length) : Taken α events :=
  ⟨taken.value, taken.rest, Nat.le_trans taken.bound fewer⟩

/-- Read the children of an open element up to its end tag. -/
def childrenFrom {σ : Type} (visit : Visitor σ) (state : σ) (events : List Event) :
    Except LoadError (Taken σ events) :=
  match events with
  | [] => .error .unexpectedEnd
  | .fault cause :: _ => .error (.markup cause)
  | .close _ :: following => .ok ⟨state, following, Nat.le_succ _⟩
  | .start tag :: following => do
    let child ← readChild visit state tag false following
    let taken ← childrenFrom visit child.value child.rest
    return taken.within (Nat.le_succ_of_le child.bound)
  | .empty tag :: following => do
    let child ← readChild visit state tag true following
    let taken ← childrenFrom visit child.value child.rest
    return taken.within (Nat.le_succ_of_le child.bound)
  | .text _ :: following | .cdata _ :: following | .reference _ :: following
  | .aside :: following => do
    let taken ← childrenFrom visit state following
    return taken.within (Nat.le_succ _)
termination_by events.length
decreasing_by
  all_goals
    first
    | exact Nat.lt_succ_self _
    | exact Nat.lt_succ_of_le child.bound

/-- Read the children of an element. -/
def children {σ : Type} (visit : Visitor σ) (state : σ) (selfClosing : Bool) : ContentReader σ :=
  if selfClosing then .pure state else childrenFrom visit state

end Description

end ApiHeader
