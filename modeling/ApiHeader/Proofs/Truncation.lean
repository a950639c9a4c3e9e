/-
# Documents that are cut short

A document describes something only if its root element has an end tag, and that end
tag is the last thing that is read. So a document that describes something has a
beginning that ends with the root, describes the same whatever is put behind it, and
describes nothing when any of its last characters are missing.

The last part needs no search through the places at which a document can be cut. If a
shorter beginning described anything, it would hold a whole root element of its own,
and the longer one would have to go on behind it, but its own root is where it ends.
-/

import ApiHeader.Proofs.Consumption
import ApiHeader.Proofs.Extent

namespace ApiHeader

open Description Markup

/-- A text whose last event is the end tag of its root element. -/
def EndsWithRoot (text : String) : Prop :=
  ∃ front tag inner, (∀ event ∈ front, isFiller event) ∧ Nested inner ∧
    events text = front ++ .start tag :: (inner ++ [.close tag.name])

/-- Outside of elements nothing can be closed, so what leads the root is fillers. -/
theorem openAfter_of_leadsRoot {front rest : List Event} {left : List String}
    (leads : ∀ event ∈ front, leadsRoot event) (h : openAfter [] (front ++ rest) = some left) :
    (∀ event ∈ front, isFiller event) ∧ openAfter [] rest = some left := by
  induction front with
  | nil => exact ⟨List.forall_mem_nil _, h⟩
  | cons event front ih =>
      obtain ⟨first, others⟩ := List.forall_mem_cons.1 leads
      have filler : isFiller event := by
        cases event <;> first | exact first | cases h
      rw [List.cons_append, openAfter_filler filler] at h
      obtain ⟨fillers, rest⟩ := ih others h
      exact ⟨List.forall_mem_cons.2 ⟨filler, fillers⟩, rest⟩

/-- A document that describes something begins with a whole root element. -/
theorem exists_root_of_load {document : String} {schema : Schema}
    (loaded : Schema.load document = .ok schema) :
    ∃ text rest : String, document = text ++ rest ∧
      ∃ front tag inner, (∀ event ∈ front, isFiller event) ∧ Nested inner ∧
        ∀ more : String,
          events (text ++ more) =
              front ++ .start tag :: (inner ++ .close tag.name :: eventsFrom [] more.toList) ∧
            Schema.load (text ++ more) = .ok schema := by
  obtain ⟨front, tag, inner, name, others, leads, nested, shape, loads⟩ :=
    exists_root_of_loadEvents loaded
  have split (tail : List Event) : front ++ .start tag :: (inner ++ .close name :: tail) =
      (front ++ .start tag :: (inner ++ [.close name])) ++ tail := by simp
  have sound (cause : Fault) : .fault cause ∉ front ++ .start tag :: (inner ++ [.close name]) := by
    have notLeading : .fault cause ∉ front := fun inside => nomatch leads _ inside
    simp [notLeading, nested.fault_not_mem cause]
  have ended : ∀ event ∈ (front ++ Event.start tag :: (inner ++ [Event.close name])).getLast?,
      event.isText = false := by
    rw [← List.cons_append, ← List.append_assoc, List.getLast?_concat]
    rintro _ ⟨⟩
    rfl
  rw [split] at shape
  obtain ⟨text, rest, left, rfl, opens, reads⟩ :=
    exists_taken_of_events shape (by simp) sound ended
  obtain ⟨fillers, opens⟩ := openAfter_of_leadsRoot leads opens
  -- the end tag names the root element, and outside of it nothing is open
  have closes : openAfter [tag.name] [.close name] = some left := nested.openAfter_append opens
  obtain ⟨rfl, rfl⟩ : tag.name = name ∧ left = [] := by
    by_cases same : tag.name = name
    · simp only [openAfter, same, if_true, Option.some.injEq] at closes
      exact ⟨same, closes.symm⟩
    · simp [openAfter, same] at closes
  refine ⟨text, rest, rfl, front, tag, inner, fillers, nested, fun more => ?_⟩
  have read := reads more
  rw [← split] at read
  exact ⟨read, by rw [Schema.load, read, loads]⟩

/-- Where the root element ends is settled by the events up to there. -/
theorem eq_nil_of_root {front front' inner inner' rest : List Event} {tag tag' : Tag}
    {name name' : String} (fillers : ∀ event ∈ front, isFiller event)
    (fillers' : ∀ event ∈ front', isFiller event) (nested : Nested inner) (nested' : Nested inner')
    (same : front ++ .start tag :: (inner ++ [.close name]) =
      front' ++ .start tag' :: (inner' ++ .close name' :: rest)) : rest = [] := by
  have afterFront := congrArg (List.dropWhile isFiller) same
  rw [List.dropWhile_append_of_pos fillers, List.dropWhile_append_of_pos fillers',
    List.dropWhile_cons_of_neg Bool.false_ne_true,
    List.dropWhile_cons_of_neg Bool.false_ne_true] at afterFront
  have content := congrArg (skipFrom 0) (List.cons.inj afterFront).2
  rw [nested.skipFrom_append, nested'.skipFrom_append] at content
  exact (Except.ok.inj content).symm

/-- Only no characters have no events. -/
theorem eq_nil_of_eventsFrom {opened : List String} {cs : List Char}
    (h : eventsFrom opened cs = []) : cs = [] := by
  cases cs with
  | nil => rfl
  | cons c cs =>
      cases next : Lexeme.next c cs with
      | error cause =>
          rw [eventsFrom_of_next_error opened next] at h
          cases h
      | ok found =>
          cases step : found.1.step opened with
          | error cause =>
              rw [eventsFrom_of_step_error next step] at h
              cases h
          | ok after =>
              rw [eventsFrom_of_step next step] at h
              cases h

/-- A document that describes something begins with a text that ends with the root
element, describes the same whatever follows, and describes nothing when it is cut
short. -/
theorem load_settled_by_root {document : String} {schema : Schema}
    (loaded : Schema.load document = .ok schema) :
    ∃ text rest : String, document = text ++ rest ∧ EndsWithRoot text ∧
      (∀ more : String, Schema.load (text ++ more) = .ok schema) ∧
      ∀ shorter missing : String, text = shorter ++ missing → missing ≠ "" →
        ∃ cause, Schema.load shorter = .error cause := by
  obtain ⟨text, rest, rfl, front, tag, inner, fillers, nested, reads⟩ := exists_root_of_load loaded
  have whole := (reads "").1
  rw [String.append_empty, String.toList_empty, eventsFrom_nil] at whole
  refine ⟨text, rest, rfl, ⟨front, tag, inner, fillers, nested, whole⟩,
    fun more => (reads more).2, ?_⟩
  intro shorter missing split cut
  cases early : Schema.load shorter with
  | error cause => exact ⟨cause, rfl⟩
  | ok other =>
      obtain ⟨text', rest', rfl, front', tag', inner', fillers', nested', reads'⟩ :=
        exists_root_of_load early
      -- the root of the shorter text is whole too, and nothing can follow it
      have again := (reads' (rest' ++ missing)).1
      rw [← String.append_assoc, ← split, whole] at again
      have nothing := eq_nil_of_eventsFrom (eq_nil_of_root fillers fillers' nested nested' again)
      rw [String.toList_append, List.append_eq_nil_iff, String.toList_eq_nil_iff,
        String.toList_eq_nil_iff] at nothing
      exact absurd nothing.2 cut

/-- A description between a comment and characters that could not be read. -/
def trailedDocument : String :=
  "\ufeff<!-- > --><api><metadata><prefix><c>P</c></prefix></metadata><types>" ++
  "<struct name='A'/></types></api > </x><&"

def trailedSchema : Schema :=
  { ({} : Schema).addType (.struct { name := "A" }) with namePrefix := "P" }

theorem trailedDocument_settled_by_root :
    Schema.load trailedDocument = .ok trailedSchema ∧
      ∃ text rest : String, trailedDocument = text ++ rest ∧ EndsWithRoot text ∧
        (∀ more : String, Schema.load (text ++ more) = .ok trailedSchema) ∧
        ∀ shorter missing : String, text = shorter ++ missing → missing ≠ "" →
          ∃ cause, Schema.load shorter = .error cause := by
  have loaded : Schema.load trailedDocument = .ok trailedSchema := by decide +kernel
  exact ⟨loaded, load_settled_by_root loaded⟩

end ApiHeader
