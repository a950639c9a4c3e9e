/-
# Exchanging one element for another

Two documents that differ in one element are read side by side. Up to the element they are
the same, and reading comes to the same state. At the element the states come apart, say in
one field, and what follows keeps that difference: a reader whose state is changed in a field
that it does not set gives what it gave before, with the same change. This holds as long as no
later element sets the field again.

Both halves are laws of readers of children that come from the readers of the children, so an
exchange deep inside a document is one of the elements around it, up to the root.
-/

import ApiHeader.Proofs.Consumption
import Mathlib.Data.List.Induction

namespace ApiHeader.Description

open ApiHeader.Markup

variable {α β σ : Type}

/-! ## Leading into an element -/

theorem Nested.append {first second : List Event} (nested : Nested first)
    (others : Nested second) : Nested (first ++ second) := by
  induction nested with
  | nil => exact others
  | filler filler _ ih => exact .filler filler ih
  | empty _ ih => exact .empty ih
  | @element tag name inner rest content _ _ ih =>
      rw [List.cons_append, List.append_assoc]
      exact .element content ih

theorem openAfter_append (opened : List String) (first second : List Event) :
    openAfter opened (first ++ second) = (openAfter opened first).bind (openAfter · second) := by
  induction first generalizing opened with
  | nil => rfl
  | cons event first ih =>
      rw [List.cons_append]
      rcases event_cases event with filler | ⟨tag, rfl⟩ | ⟨tag, rfl⟩ | ⟨name, rfl⟩ | ⟨cause, rfl⟩
      · rw [openAfter_filler filler, openAfter_filler filler, ih]
      · exact ih _
      · exact ih _
      · cases opened with
        | nil => rfl
        | cons innermost outer =>
            rw [openAfter, openAfter]
            split
            · exact ih outer
            · rfl
      · rfl

/-- Whole elements and, between them, the start tags of elements that stay open. -/
inductive Leads : List String → List Event → Prop
  | inside {inner : List Event} (nested : Nested inner) : Leads [] inner
  | enter {tag : Tag} {outer : List String} {front inner : List Event} (leads : Leads outer front)
      (nested : Nested inner) : Leads (tag.name :: outer) (front ++ .start tag :: inner)

theorem Leads.append {path : List String} {events more : List Event} (leads : Leads path events)
    (nested : Nested more) : Leads path (events ++ more) := by
  cases leads with
  | inside inner => exact .inside (inner.append nested)
  | enter leads inner =>
      rw [List.append_assoc]
      exact .enter leads (inner.append nested)

theorem Leads.exists_enter {name : String} {outer : List String} {events : List Event}
    (leads : Leads (name :: outer) events) : ∃ tag front inner, tag.name = name ∧
      events = front ++ .start tag :: inner ∧ Leads outer front ∧ Nested inner := by
  generalize shape : name :: outer = path at leads
  cases leads with
  | inside nested => cases shape
  | enter leads nested =>
      obtain ⟨rfl, rfl⟩ := List.cons.inj shape
      exact ⟨_, _, _, rfl, rfl, leads, nested⟩

theorem leads_of_openAfter {path : List String} {events : List Event}
    (h : openAfter [] events = some path) : Leads path events := by
  induction events using List.reverseRecOn generalizing path with
  | nil =>
      cases h
      exact .inside .nil
  | append_singleton events event ih =>
      rw [openAfter_append] at h
      obtain ⟨middle, before, last⟩ := Option.bind_eq_some_iff.1 h
      have leads := ih before
      rcases event_cases event with filler | ⟨tag, rfl⟩ | ⟨tag, rfl⟩ | ⟨name, rfl⟩ | ⟨cause, rfl⟩
      · rw [openAfter_filler filler] at last
        cases last
        exact leads.append (.filler filler .nil)
      · cases last
        exact .enter leads .nil
      · cases last
        exact leads.append (.empty .nil)
      · -- an end tag makes the innermost open element a whole one
        cases leads with
        | inside nested => cases last
        | @enter tag outer front inner leads nested =>
            have closed : path = outer := by
              by_cases same : tag.name = name
              · simp only [openAfter, same, if_true, Option.some.injEq] at last
                exact last.symm
              · simp [openAfter, same] at last
            rw [closed, List.append_assoc, List.cons_append]
            exact leads.append (.element nested .nil)
      · cases last

/-- Reading whole elements comes to a state from which whatever follows is read. -/
theorem exists_state_of_children {visit : Visitor σ}
    (known : ∀ state tag reader, visit state tag = some reader → Exact reader)
    {inner : List Event} (nested : Nested inner) {state value : σ} {rest left : List Event}
    (h : (children visit state false).run (inner ++ rest) = .ok (value, left)) :
    ∃ middle, ∀ more, (children visit state false).run (inner ++ more) =
      (children visit middle false).run more := by
  induction nested generalizing state with
  | nil => exact ⟨state, fun more => rfl⟩
  | filler filler _ ih =>
      rw [List.cons_append, run_children_filler filler] at h
      obtain ⟨middle, reads⟩ := ih h
      refine ⟨middle, fun more => ?_⟩
      rw [List.cons_append, run_children_filler filler, reads]
  | empty _ ih =>
      rw [List.cons_append, run_children_empty] at h
      obtain ⟨⟨taken, after⟩, child, others⟩ := bind_eq_ok_iff.1 h
      obtain ⟨rfl, readsChild⟩ := (exact_readChild known state _).empty child
      obtain ⟨middle, reads⟩ := ih others
      refine ⟨middle, fun more => ?_⟩
      rw [List.cons_append, run_children_empty, readsChild]
      exact reads more
  | @element tag name inner others content _ _ ih =>
      rw [List.cons_append, List.append_assoc, List.cons_append, run_children_start] at h
      obtain ⟨⟨taken, after⟩, child, rests⟩ := bind_eq_ok_iff.1 h
      obtain ⟨inner', name', nested', shape, readsChild⟩ :=
        (exact_readChild known state tag).content child
      -- the reader of the child stops at the end tag of the child
      obtain rfl : others ++ rest = after := by
        have skipped := congrArg (skipFrom 0) shape
        rw [content.skipFrom_append, nested'.skipFrom_append] at skipped
        exact Except.ok.inj skipped
      have joined : inner ++ [.close name] ++ (others ++ rest) =
          inner' ++ [.close name'] ++ (others ++ rest) := by simpa using shape
      have same := List.append_cancel_right joined
      obtain ⟨middle, reads⟩ := ih rests
      refine ⟨middle, fun more => ?_⟩
      have again := readsChild (others ++ more)
      rw [List.append_cons, ← same, ← List.append_cons] at again
      rw [List.cons_append, List.append_assoc, List.cons_append, run_children_start, again]
      exact reads more

/-! ## Elements that begin later -/

/-- Whether an element that the given names lead to begins among events inside the root, given
the names of the open elements; the names go outwards and leave out the root. -/
def begins (target : List String) : List String → List Event → Bool
  | _, [] => false
  | opened, .start tag :: rest =>
    tag.name :: opened == target || begins target (tag.name :: opened) rest
  | opened, .empty tag :: rest => tag.name :: opened == target || begins target opened rest
  | [], .close _ :: _ => false
  | _ :: opened, .close _ :: rest => begins target opened rest
  | opened, _ :: rest => begins target opened rest

section Begins

variable {target opened : List String} {tag : Tag} {rest : List Event}

theorem begins_filler {event : Event} (filler : isFiller event) (rest : List Event) :
    begins target opened (event :: rest) = begins target opened rest := by
  cases opened <;> cases event <;> first | rfl | simp [isFiller] at filler

theorem begins_start_eq_false :
    begins target opened (.start tag :: rest) = false ↔
      tag.name :: opened ≠ target ∧ begins target (tag.name :: opened) rest = false := by
  rw [begins, Bool.or_eq_false_iff, beq_eq_false_iff_ne]

theorem begins_empty_eq_false :
    begins target opened (.empty tag :: rest) = false ↔
      tag.name :: opened ≠ target ∧ begins target opened rest = false := by
  rw [begins, Bool.or_eq_false_iff, beq_eq_false_iff_ne]

/-- What does not begin later does not begin after whole elements. -/
theorem Nested.begins_append {inner : List Event} (nested : Nested inner)
    (free : begins target opened (inner ++ rest) = false) : begins target opened rest = false := by
  induction nested generalizing opened rest with
  | nil => exact free
  | filler filler _ ih =>
      rw [List.cons_append, begins_filler filler] at free
      exact ih free
  | empty _ ih => exact ih (begins_empty_eq_false.1 free).2
  | @element tag name inner others _ _ ihContent ihOthers =>
      rw [List.cons_append, List.append_assoc] at free
      have closed : begins target (tag.name :: opened) (.close name :: (others ++ rest)) = false :=
        ihContent (begins_start_eq_false.1 free).2
      exact ihOthers closed

end Begins

/-! ## Changes that reading keeps -/

/-- The second reader gives what the first one gives with a change made to it, unless an
element that the names lead to begins in what they read. -/
def Framed (change : α → α) (target path : List String) (first second : Bool → ContentReader α) :
    Prop :=
  ∀ selfClosing events, (selfClosing = false → begins target path events = false) →
    (second selfClosing).run events =
      ((first selfClosing).run events).map fun taken => (change taken.1, taken.2)

section Framed

variable {change : α → α} {target path : List String}

theorem framed_refl (reader : Bool → ContentReader α) : Framed id target path reader reader := by
  intro selfClosing events _
  cases (reader selfClosing).run events <;> rfl

theorem Framed.map {first second : Bool → ContentReader α}
    (framed : Framed change target path first second) {change' : β → β} {f g : α → β}
    (same : ∀ value, g (change value) = change' (f value)) :
    Framed change' target path (fun selfClosing => (first selfClosing).map f)
      (fun selfClosing => (second selfClosing).map g) := by
  intro selfClosing events free
  rw [run_map, run_map, framed selfClosing events free]
  cases (first selfClosing).run events with
  | error cause => rfl
  | ok taken => exact congrArg (fun value => Except.ok (value, taken.2)) (same taken.1)

theorem framed_leaf (outcome : Except LoadError β) {f g : β → α}
    (same : ∀ value, g value = change (f value)) :
    Framed change target path (leaf (outcome.map f)) (leaf (outcome.map g)) := by
  intro selfClosing events _
  rw [run_leaf, run_leaf]
  cases outcome with
  | error cause => rfl
  | ok value =>
      cases (skipContent selfClosing).run events with
      | error cause => rfl
      | ok taken => exact congrArg (fun value => Except.ok (value, taken.2)) (same value)

end Framed

/-- Two readers for the same child, if there are any. -/
inductive FramedChild (change : σ → σ) (target path : List String) :
    Option (Bool → ContentReader σ) → Option (Bool → ContentReader σ) → Prop
  | passes : FramedChild change target path none none
  | reads {first second : Bool → ContentReader σ}
      (framed : Framed change target path first second) :
      FramedChild change target path (some first) (some second)

theorem framed_readChild {visit : Visitor σ} {change : σ → σ} {target path : List String}
    {state : σ} {tag : Tag}
    (child : FramedChild change target path (visit state tag) (visit (change state) tag)) :
    Framed change target path (readChild visit state tag) (readChild visit (change state) tag) := by
  generalize first : visit state tag = found, second : visit (change state) tag = found' at child
  cases child with
  | passes =>
      rw [readChild_of_none first, readChild_of_none second]
      exact (framed_refl skipContent).map fun _ => rfl
  | reads framed =>
      rw [readChild_of_some first, readChild_of_some second]
      exact framed

/-- A change that the readers of the children keep is kept by reading all of them. -/
theorem framed_children {visit : Visitor σ} (change : σ → σ)
    (known : ∀ state tag reader, visit state tag = some reader → Exact reader)
    {target opened : List String}
    (child : ∀ state tag, tag.name :: opened ≠ target →
      FramedChild change target (tag.name :: opened) (visit state tag) (visit (change state) tag))
    (state : σ) :
    Framed change target opened (children visit state) (children visit (change state)) := by
  intro selfClosing events free
  cases selfClosing with
  | true => rfl
  | false =>
      replace free := free rfl
      -- a child leaves fewer events, so the induction is on their number
      induction size : events.length using Nat.strongRecOn generalizing state events with
      | ind length ih =>
          cases events with
          | nil => rw [run_children_nil, run_children_nil]; rfl
          | cons event following =>
              simp only [List.length_cons] at size
              rcases event_cases event with
                filler | ⟨tag, rfl⟩ | ⟨tag, rfl⟩ | ⟨name, rfl⟩ | ⟨cause, rfl⟩
              · rw [begins_filler filler] at free
                rw [run_children_filler filler, run_children_filler filler]
                exact ih following.length (by omega) state following free rfl
              · obtain ⟨other, free⟩ := begins_start_eq_false.1 free
                have read := framed_readChild (child state tag other) false following fun _ => free
                rw [run_children_start, run_children_start, read]
                cases first : (readChild visit state tag false).run following with
                | error cause => rfl
                | ok taken =>
                    have fewer := length_of_run first
                    obtain ⟨inner, name, nested, rfl, -⟩ :=
                      (exact_readChild known state tag).content first
                    have closed : begins target (tag.name :: opened) (.close name :: taken.2) =
                        false := nested.begins_append free
                    exact ih taken.2.length (by omega) taken.1 taken.2 closed rfl
              · obtain ⟨other, free⟩ := begins_empty_eq_false.1 free
                have read := framed_readChild (child state tag other) true following nofun
                rw [run_children_empty, run_children_empty, read]
                cases first : (readChild visit state tag true).run following with
                | error cause => rfl
                | ok taken =>
                    obtain ⟨rfl, -⟩ := (exact_readChild known state tag).empty first
                    exact ih taken.2.length (by omega) taken.1 taken.2 free rfl
              · rw [run_children_close, run_children_close]; rfl
              · rw [run_children_fault, run_children_fault]; rfl

/-! ## Two documents side by side -/

/-- From the second events a reader gets what it gets from the first ones with a change made to
it, and the same events are left, of which something is known. -/
def Exchanges (change : α → α) (left : List Event → Prop) (reader : ContentReader α)
    (first second : List Event) : Prop :=
  ∀ value rest, reader.run first = .ok (value, rest) →
    reader.run second = .ok (change value, rest) ∧ left rest

theorem Exchanges.map {change : α → α} {left : List Event → Prop} {reader : ContentReader α}
    {first second : List Event} (exchanges : Exchanges change left reader first second)
    {change' : β → β} {f : α → β} (same : ∀ value, f (change value) = change' (f value)) :
    Exchanges change' left (reader.map f) first second := by
  intro value rest h
  obtain ⟨taken, read, rfl⟩ := run_map_eq_ok h
  obtain ⟨read', known⟩ := exchanges taken rest read
  rw [run_map, read']
  exact ⟨congrArg (fun value => Except.ok (value, rest)) (same taken), known⟩

/-- An exchange in a child is one in the element around it, if no later element undoes the
change. -/
theorem exchanges_children {visit : Visitor σ} {change : σ → σ}
    (known : ∀ state tag reader, visit state tag = some reader → Exact reader)
    {target opened : List String}
    (framed : ∀ state, Framed change target opened (children visit state)
      (children visit (change state)))
    {inner : List Event} (nested : Nested inner) (tag : Tag) {first second : List Event}
    (child : ∀ state, Exchanges change (fun rest => begins target opened rest = false)
      (readChild visit state tag false) first second) (state : σ) :
    Exchanges change (fun rest => ∀ name outer, opened = name :: outer →
        begins target outer rest = false)
      (children visit state false) (inner ++ .start tag :: first)
      (inner ++ .start tag :: second) := by
  intro value rest h
  obtain ⟨middle, reads⟩ := exists_state_of_children known nested h
  rw [reads, run_children_start] at h ⊢
  obtain ⟨⟨taken, left⟩, childRead, others⟩ := bind_eq_ok_iff.1 h
  obtain ⟨childRead', free⟩ := child middle taken left childRead
  constructor
  · rw [childRead']
    change (children visit (change taken) false).run left = _
    rw [framed taken false left fun _ => free, others]
    rfl
  · rintro name outer rfl
    obtain ⟨content, last, nestedContent, rfl, -⟩ := (exact_children known taken).content others
    have closed : begins target (name :: outer) (.close last :: rest) = false :=
      nestedContent.begins_append free
    exact closed

end ApiHeader.Description
