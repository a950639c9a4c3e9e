/-
# Trimmed texts and their lines

Trimming keeps a text that starts and ends with characters that are not blank, and what it
leaves of any other text is empty or starts and ends in that way.

A text is taken apart at its line feeds in two ways. Reading its lines also drops a carriage
return at the end of a line, and starts no line after a last line feed; the pieces between line
feeds are kept as they are. Once blanks at their ends are dropped as well, lines and pieces are
the same, as long as the text does not end with a blank. Joining what is left of the pieces
gives a text with the same lines, which trimming keeps.
-/

import ApiHeader.Text.Blank
import ApiHeader.Text.Lines
import Mathlib.Data.List.DropRight

namespace ApiHeader.Text

variable {cs : List Char}

/-! ## Trimming -/

/-- The first character is not blank. -/
def SolidStart (cs : List Char) : Prop :=
  ∃ c, cs.head? = some c ∧ isBlank c = false

/-- The last character is not blank. -/
def SolidEnd (cs : List Char) : Prop :=
  ∃ c, cs.getLast? = some c ∧ isBlank c = false

/-- Neither the first nor the last character is blank. -/
structure Solid (cs : List Char) : Prop where
  starts : SolidStart cs
  ends : SolidEnd cs

theorem not_solidEnd_nil : ¬ SolidEnd [] := by
  rintro ⟨c, last, _⟩
  cases last

theorem trimEndChars_eq_rdropWhile (cs : List Char) : trimEndChars cs = cs.rdropWhile isBlank :=
  rfl

theorem mem_of_mem_trimEndChars {c : Char} (inside : c ∈ trimEndChars cs) : c ∈ cs :=
  (List.rdropWhile_prefix isBlank cs).subset inside

theorem solidEnd_trimEndChars (left : trimEndChars cs ≠ []) : SolidEnd (trimEndChars cs) := by
  refine ⟨_, List.getLast?_eq_some_getLast left, Bool.eq_false_iff.2 ?_⟩
  exact List.rdropWhile_last_not isBlank cs left

theorem SolidEnd.trimEndChars_eq (h : SolidEnd cs) : trimEndChars cs = cs := by
  obtain ⟨c, last, solid⟩ := h
  obtain ⟨front, rfl⟩ := List.getLast?_eq_some_iff.1 last
  exact List.rdropWhile_concat_neg isBlank front c (by simp [solid])

theorem SolidStart.trimEndChars (h : SolidStart cs) : SolidStart (trimEndChars cs) := by
  obtain ⟨c, first, solid⟩ := h
  obtain ⟨dropped, whole⟩ := List.rdropWhile_prefix isBlank cs
  refine ⟨c, ?_, solid⟩
  cases kept : Text.trimEndChars cs with
  | nil =>
      have blank := List.rdropWhile_eq_nil_iff.1 kept c (List.mem_of_head? first)
      rw [solid] at blank
      cases blank
  | cons d rest =>
      rw [trimEndChars_eq_rdropWhile] at kept
      rwa [← whole, kept] at first

theorem solid_trimChars (left : trimChars cs ≠ []) : Solid (trimChars cs) := by
  refine ⟨SolidStart.trimEndChars ?_, solidEnd_trimEndChars left⟩
  have rest : cs.dropWhile isBlank ≠ [] := by
    intro empty
    rw [trimChars, empty] at left
    exact left rfl
  exact ⟨_, List.head?_eq_some_head rest, List.head_dropWhile_not isBlank rest⟩

theorem Solid.trimChars_eq (h : Solid cs) : trimChars cs = cs := by
  obtain ⟨c, first, solid⟩ := h.starts
  obtain ⟨rest, rfl⟩ := List.head?_eq_some_iff.1 first
  rw [trimChars, List.dropWhile_cons_of_neg (by simp [solid]), h.ends.trimEndChars_eq]

theorem solid_trim {text : String} (left : trim text ≠ "") : Solid (trim text).toList := by
  rw [toList_trim]
  apply solid_trimChars
  rwa [← toList_trim, Ne, String.toList_eq_nil_iff]

theorem Solid.trim_eq {text : String} (h : Solid text.toList) : trim text = text := by
  apply String.toList_inj.1
  rw [toList_trim, h.trimChars_eq]

theorem trim_trim (text : String) : trim (trim text) = trim text := by
  by_cases blank : trim text = ""
  · rw [blank]
    rfl
  · exact (solid_trim blank).trim_eq

theorem trimEnd_trimEnd (text : String) : trimEnd (trimEnd text) = trimEnd text := by
  apply String.toList_inj.1
  rw [toList_trimEnd, toList_trimEnd]
  exact List.rdropWhile_idempotent isBlank text.toList

/-- Characters without blanks are not trimmed. -/
theorem trimChars_of_forall (solid : ∀ c ∈ cs, isBlank c = false) : trimChars cs = cs := by
  by_cases empty : cs = []
  · rw [empty]
    rfl
  · apply Solid.trimChars_eq
    exact ⟨⟨_, List.head?_eq_some_head empty, solid _ (List.head_mem empty)⟩,
      ⟨_, List.getLast?_eq_some_getLast empty, solid _ (List.getLast_mem empty)⟩⟩

theorem getLast?_trimEnd_ne (text : String) : (trimEnd text).toList.getLast? ≠ some '\r' := by
  intro last
  have left : trimEndChars text.toList ≠ [] := by
    intro empty
    rw [toList_trimEnd, empty] at last
    cases last
  obtain ⟨c, last', solid⟩ := solidEnd_trimEndChars left
  rw [toList_trimEnd, last'] at last
  cases last
  exact absurd solid (by decide)

/-! ## Lines -/

theorem linesFrom_append {collected rest : List Char} (within : '\n' ∉ cs) :
    linesFrom collected (cs ++ rest) = linesFrom (cs.reverse ++ collected) rest := by
  induction cs generalizing collected with
  | nil => rfl
  | cons c cs ih =>
      rw [List.mem_cons, not_or] at within
      obtain ⟨differs, others⟩ := within
      have continued : (c == '\n') = false := by simpa using Ne.symm differs
      simp [linesFrom, continued, ih others]

theorem linesFrom_feed (collected rest : List Char) :
    linesFrom collected ('\n' :: rest) = finishedLine collected :: linesFrom [] rest :=
  rfl

theorem linesFrom_nil_of_ne {collected : List Char} (begun : collected ≠ []) :
    linesFrom collected [] = [collected.reverse] :=
  if_neg (by simpa using begun)

theorem finishedLine_reverse (ending : cs.getLast? ≠ some '\r') :
    finishedLine cs.reverse = cs := by
  rw [finishedLine.eq_def]
  split
  · next before shape =>
    rw [← List.head?_reverse, shape] at ending
    exact absurd rfl ending
  · exact List.reverse_reverse cs

/-- The carriage return that belongs to a line's end is one of the blanks there. -/
theorem trimEndChars_finishedLine (cs : List Char) :
    trimEndChars (finishedLine cs.reverse) = trimEndChars cs := by
  by_cases ending : cs.getLast? = some '\r'
  · obtain ⟨front, rfl⟩ := List.getLast?_eq_some_iff.1 ending
    rw [List.reverse_concat', finishedLine, List.reverse_reverse, trimEndChars_eq_rdropWhile,
      trimEndChars_eq_rdropWhile, List.rdropWhile_concat_pos isBlank front '\r' (by decide)]
  · rw [finishedLine_reverse ending]

theorem notMem_of_mem_linesFrom {collected line : List Char} (h : '\n' ∉ collected)
    (inside : line ∈ linesFrom collected cs) : '\n' ∉ line := by
  induction cs generalizing collected with
  | nil =>
      rw [linesFrom] at inside
      split at inside
      · cases inside
      · obtain rfl := List.mem_singleton.1 inside
        simpa using h
  | cons c cs ih =>
      rw [linesFrom] at inside
      split at inside
      · rcases List.mem_cons.1 inside with rfl | later
        · rw [finishedLine.eq_def]
          split
          · simp_all
          · simpa using h
        · exact ih List.not_mem_nil later
      · next continued =>
        refine ih ?_ inside
        rw [List.mem_cons, not_or]
        exact ⟨fun same => continued (by simp [← same]), h⟩

/-- No line of a text holds the end of a line. -/
theorem notMem_of_mem_lines {text line : String} (inside : line ∈ lines text) :
    '\n' ∉ line.toList := by
  obtain ⟨cs, there, rfl⟩ := List.mem_map.1 inside
  simpa using notMem_of_mem_linesFrom List.not_mem_nil there

/-! ## Pieces between line feeds -/

/-- The parts of a text between its line feeds. -/
def feedParts (text : String) : List String :=
  (text.toList.splitOn '\n').map String.ofList

theorem SolidStart.append (h : SolidStart cs) (rest : List Char) : SolidStart (cs ++ rest) := by
  obtain ⟨c, first, solid⟩ := h
  exact ⟨c, by rw [List.head?_append, first, Option.some_or], solid⟩

theorem SolidStart.of_append {rest : List Char} (h : SolidStart (cs ++ rest))
    (blank : ¬ SolidStart rest) : SolidStart cs := by
  cases cs with
  | nil => exact absurd h blank
  | cons c cs => exact h

theorem SolidEnd.append_left (h : SolidEnd cs) (front : List Char) : SolidEnd (front ++ cs) := by
  obtain ⟨c, last, solid⟩ := h
  exact ⟨c, by rw [List.getLast?_append, last, Option.some_or], solid⟩

theorem SolidEnd.of_feed {front back : List Char} (h : SolidEnd (front ++ '\n' :: back)) :
    SolidEnd back := by
  obtain ⟨c, last, solid⟩ := h
  cases back with
  | nil =>
      rw [List.getLast?_concat] at last
      cases last
      exact absurd solid (by decide)
  | cons d back =>
      rw [List.getLast?_append_of_ne_nil _ (List.cons_ne_nil _ _), List.getLast?_cons_cons] at last
      exact ⟨c, last, solid⟩

section Joined

variable {parts : List (List Char)}

/-- Reading lines off joined parts gives the parts back, but for blanks at their ends. -/
theorem map_trimEndChars_linesFrom (within : ∀ part ∈ parts, '\n' ∉ part)
    (ends : SolidEnd (['\n'].intercalate parts)) :
    (linesFrom [] (['\n'].intercalate parts)).map trimEndChars = parts.map trimEndChars := by
  induction parts with
  | nil => exact absurd ends not_solidEnd_nil
  | cons part parts ih =>
      obtain ⟨own, others⟩ := List.forall_mem_cons.1 within
      cases parts with
      | nil =>
          rw [List.intercalate_singleton] at ends ⊢
          have begun : part.reverse ++ [] ≠ [] := by
            rw [List.append_nil, Ne, List.reverse_eq_nil_iff]
            rintro rfl
            exact not_solidEnd_nil ends
          rw [← List.append_nil part, linesFrom_append own, linesFrom_nil_of_ne begun]
          simp
      | cons next parts =>
          rw [List.intercalate_cons_cons, List.append_assoc, List.singleton_append] at ends ⊢
          rw [linesFrom_append own, List.append_nil, linesFrom_feed, List.map_cons,
            trimEndChars_finishedLine, ih others ends.of_feed]
          rfl

theorem exists_intercalate_cons (part : List Char) (parts : List (List Char)) :
    ∃ rest, ['\n'].intercalate (part :: parts) = part ++ rest ∧ ¬ SolidStart rest := by
  cases parts with
  | nil =>
      refine ⟨[], by simp, ?_⟩
      rintro ⟨c, first, _⟩
      cases first
  | cons next parts =>
      refine ⟨'\n' :: ['\n'].intercalate (next :: parts), by simp, ?_⟩
      rintro ⟨c, first, solid⟩
      cases first
      exact absurd solid (by decide)

/-- What joined parts start with is the start of the first one, which keeps it when blanks at
its end are dropped. -/
theorem SolidStart.intercalate (h : SolidStart (['\n'].intercalate parts)) :
    SolidStart (['\n'].intercalate (parts.map Text.trimEndChars)) := by
  cases parts with
  | nil => exact h
  | cons part parts =>
      obtain ⟨rest, shape, blank⟩ := exists_intercalate_cons part parts
      rw [shape] at h
      obtain ⟨rest', shape', _⟩ :=
        exists_intercalate_cons (Text.trimEndChars part) (parts.map Text.trimEndChars)
      rw [List.map_cons, shape']
      exact (h.of_append blank).trimEndChars.append rest'

/-- A last part that does not end with a blank is kept as it is. -/
theorem SolidEnd.intercalate (h : SolidEnd (['\n'].intercalate parts)) :
    SolidEnd (['\n'].intercalate (parts.map Text.trimEndChars)) := by
  induction parts with
  | nil => exact h
  | cons part parts ih =>
      cases parts with
      | nil =>
          rw [List.intercalate_singleton] at h
          rwa [List.map_singleton, List.intercalate_singleton, h.trimEndChars_eq]
      | cons next parts =>
          rw [List.intercalate_cons_cons, List.append_assoc, List.singleton_append] at h
          rw [List.map_cons, List.map_cons, List.intercalate_cons_cons]
          exact (ih h.of_feed).append_left _

end Joined

theorem notMem_of_mem_splitOn {part : List Char} (inside : part ∈ cs.splitOn '\n') :
    '\n' ∉ part := by
  induction cs generalizing part with
  | nil =>
      rw [List.splitOn_nil, List.mem_singleton] at inside
      rw [inside]
      exact List.not_mem_nil
  | cons c cs ih =>
      rw [List.splitOn_cons_eq_if_modifyHead] at inside
      split at inside
      · rcases List.mem_cons.1 inside with rfl | later
        · exact List.not_mem_nil
        · exact ih later
      · next differs =>
        obtain ⟨first, rest, shape⟩ := List.exists_cons_of_ne_nil (List.splitOn_ne_nil '\n' cs)
        rw [shape] at ih inside
        rcases List.mem_cons.1 inside with rfl | later
        · rw [List.mem_cons, not_or]
          exact ⟨fun same => differs (by simp [← same]), ih List.mem_cons_self⟩
        · exact ih (List.mem_cons_of_mem _ later)

theorem notMem_of_mem_feedParts {text part : String} (inside : part ∈ feedParts text) :
    '\n' ∉ part.toList := by
  obtain ⟨cs, there, rfl⟩ := List.mem_map.1 inside
  simpa using notMem_of_mem_splitOn there

/-- Lines and parts are the same but for blanks at their ends. -/
theorem map_trimEnd_lines {text : String} (ends : SolidEnd text.toList) :
    (lines text).map trimEnd = (feedParts text).map trimEnd := by
  have joined : ['\n'].intercalate (text.toList.splitOn '\n') = text.toList :=
    List.intercalate_splitOn '\n'
  have trimmed : (linesFrom [] text.toList).map trimEndChars =
      (text.toList.splitOn '\n').map trimEndChars := by
    rw [← joined] at ends
    rw [← map_trimEndChars_linesFrom (fun part => notMem_of_mem_splitOn) ends, joined]
  have spelled (css : List (List Char)) :
      (css.map String.ofList).map trimEnd = (css.map trimEndChars).map String.ofList := by
    simp [trimEnd, Function.comp_def]
  rw [lines, feedParts, spelled, spelled, trimmed]

theorem feedParts_intercalate {parts : List String} (any : parts ≠ [])
    (within : ∀ part ∈ parts, '\n' ∉ part.toList) :
    feedParts ("\n".intercalate parts) = parts := by
  have split : (['\n'].intercalate (parts.map String.toList)).splitOn '\n' =
      parts.map String.toList :=
    List.splitOn_intercalate '\n' (by simpa using within) (by simpa using any)
  rw [feedParts, String.toList_intercalate]
  exact (congrArg (List.map String.ofList) split).trans (by simp)

/-- Dropping blanks at the ends of its parts leaves a text that is solid if it was. -/
theorem Solid.intercalate_feedParts {text : String} (h : Solid text.toList) :
    Solid ("\n".intercalate ((feedParts text).map trimEnd)).toList := by
  have joined : ['\n'].intercalate (text.toList.splitOn '\n') = text.toList :=
    List.intercalate_splitOn '\n'
  have spelled : ("\n".intercalate ((feedParts text).map trimEnd)).toList =
      ['\n'].intercalate ((text.toList.splitOn '\n').map trimEndChars) := by
    rw [String.toList_intercalate, feedParts]
    simp [Function.comp_def]
  rw [← joined] at h
  rw [spelled]
  exact ⟨h.starts.intercalate, h.ends.intercalate⟩

end ApiHeader.Text
