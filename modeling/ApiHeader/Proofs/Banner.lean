/-
# The license banner

A license stays within its comment and is not altered there. Every part of the trimmed license
between line feeds becomes one line of the banner, which is a comment mark alone or a mark, a
space and the part without the blanks at its end. Taking the marks away gives these parts back,
and they are all that a banner depends on: the text that they make up has the same banner.
-/

import ApiHeader.Header.Preamble
import ApiHeader.Proofs.TextLines

namespace ApiHeader.Header

open ApiHeader.Text

variable {license : String}

/-- A line without the comment mark that it starts with. -/
def unmarked (line : String) : String :=
  match line.toList with
  | '/' :: '/' :: ' ' :: content => String.ofList content
  | '/' :: '/' :: content => String.ofList content
  | _ => line

@[simp]
theorem unmarked_comment (content : String) : unmarked (Line.comment content).text = content := by
  rw [Line.text]
  split
  · next empty =>
    rw [String.isEmpty_iff.1 empty]
    rfl
  · simp [unmarked]

/-- What a banner says, line by line. -/
def bannerContents (license : String) : List String :=
  (feedParts (trim license)).map trimEnd

theorem bannerContents_ne_nil (license : String) : bannerContents license ≠ [] := by
  simp [bannerContents, feedParts, List.splitOn_ne_nil]

theorem notMem_of_mem_bannerContents {content : String} (inside : content ∈ bannerContents license) :
    '\n' ∉ content.toList := by
  obtain ⟨part, there, rfl⟩ := List.mem_map.1 inside
  rw [toList_trimEnd]
  exact fun feed => notMem_of_mem_feedParts there (mem_of_mem_trimEndChars feed)

theorem banner_eq (present : trim license ≠ "") :
    banner license =
      (bannerContents license).map (fun content => .line (.comment content)) ++ [.blank] := by
  rw [banner, if_neg (by simpa using present), bannerContents,
    ← map_trimEnd_lines (solid_trim present).ends, List.map_map]
  rfl

/-- A banner depends on its contents only. -/
theorem banner_intercalate_bannerContents (present : trim license ≠ "") :
    banner ("\n".intercalate (bannerContents license)) = banner license := by
  have solid : Solid ("\n".intercalate (bannerContents license)).toList :=
    (solid_trim present).intercalate_feedParts
  have recovered : trim ("\n".intercalate (bannerContents license)) =
      "\n".intercalate (bannerContents license) := solid.trim_eq
  have contents : bannerContents ("\n".intercalate (bannerContents license)) =
      bannerContents license := by
    rw [bannerContents, recovered, feedParts_intercalate (bannerContents_ne_nil license)
      fun content => notMem_of_mem_bannerContents, bannerContents, List.map_map]
    exact List.map_congr_left fun part _ => trimEnd_trimEnd part
  have present' : trim ("\n".intercalate (bannerContents license)) ≠ "" := by
    intro empty
    rw [← recovered, empty] at solid
    exact not_solidEnd_nil solid.ends
  rw [banner_eq present', banner_eq present, contents]

/-- The lines of a banner but for the blank one after them. -/
def bannerLines (license : String) : List String :=
  (bannerContents license).map fun content => (Line.comment content).text

theorem renderItems_banner (present : trim license ≠ "") :
    renderItems (banner license) =
      String.join ((bannerLines license).map (· ++ "\n")) ++ "\n" := by
  have lines : (banner license).flatMap Item.lines =
      (bannerContents license).map Line.comment ++ [.blank] := by
    rw [banner_eq present, List.flatMap_append, List.flatMap_map, List.map_eq_flatMap]
    rfl
  have blank : Line.blank.text = "" := rfl
  apply String.toList_inj.1
  rw [renderItems, renderLines, lines, String.toList_ofList]
  simp [bannerLines, blank, String.toList_join, List.flatMap_map]

theorem renderItems_banner_eq_empty_iff :
    renderItems (banner license) = "" ↔ trim license = "" := by
  constructor
  · intro nothing
    by_contra present
    rw [renderItems_banner present] at nothing
    simpa using congrArg String.toList nothing
  · intro blank
    rw [banner, if_pos (by simpa using blank)]
    rfl

/-- A line of a banner is a comment that ends where the line does. -/
theorem comment_of_mem_bannerLines {line : String} (inside : line ∈ bannerLines license) :
    '\n' ∉ line.toList ∧
      (line = "//" ∨ ∃ content, line = "// " ++ content ∧ SolidEnd content.toList) := by
  obtain ⟨content, there, rfl⟩ := List.mem_map.1 inside
  have within := notMem_of_mem_bannerContents there
  obtain ⟨part, _, rfl⟩ := List.mem_map.1 there
  rw [Line.text]
  split
  · exact ⟨by decide, .inl rfl⟩
  · next left =>
    refine ⟨by simpa using within, .inr ⟨trimEnd part, rfl, ?_⟩⟩
    rw [toList_trimEnd]
    apply solidEnd_trimEndChars
    simpa [trimEnd] using left

/-- A license is the comment that its banner holds, but for blanks around it and at the ends of
its lines. -/
theorem banner_keeps_license (license : String) :
    (renderItems (banner license) = "" ↔ trim license = "") ∧
    (trim license ≠ "" → ∃ written : List String,
      renderItems (banner license) = String.join (written.map (· ++ "\n")) ++ "\n" ∧
      written.length = (feedParts (trim license)).length ∧
      (∀ line ∈ written, '\n' ∉ line.toList ∧
        (line = "//" ∨ ∃ content, line = "// " ++ content ∧ SolidEnd content.toList)) ∧
      written.map unmarked = (feedParts (trim license)).map trimEnd ∧
      renderItems (banner ("\n".intercalate (written.map unmarked))) =
        renderItems (banner license)) := by
  refine ⟨renderItems_banner_eq_empty_iff, fun present => ?_⟩
  have contents : (bannerLines license).map unmarked = bannerContents license := by
    simp [bannerLines, Function.comp_def]
  refine ⟨bannerLines license, renderItems_banner present, ?_,
    fun line => comment_of_mem_bannerLines, contents, ?_⟩
  · simp [bannerLines, bannerContents]
  · rw [contents, banner_intercalate_bannerContents present]

/-- A license with a line end of two characters, a line of one wide blank, and a carriage
return within a line. -/
def crookedLicense : String :=
  "\n  A\r\n\u2003\n\tB\rC \n"

/-- The carriage return within the last line stays where it is, and so does the blank before
it. -/
theorem crookedLicense_banner :
    trim crookedLicense ≠ "" ∧
      renderItems (banner crookedLicense) = "// A\n//\n// \tB\rC\n\n" ∧
      renderItems (banner "A\n\n\tB\rC") = renderItems (banner crookedLicense) := by
  have present : trim crookedLicense ≠ "" := by decide +kernel
  have contents : (feedParts (trim crookedLicense)).map trimEnd = ["A", "", "\tB\rC"] := by
    decide +kernel
  have joined : "\n".intercalate ["A", "", "\tB\rC"] = "A\n\n\tB\rC" := by decide +kernel
  obtain ⟨written, _, _, _, recovered, again⟩ := (banner_keeps_license crookedLicense).2 present
  rw [recovered, contents, joined] at again
  exact ⟨present, by decide +kernel, again⟩

end ApiHeader.Header
