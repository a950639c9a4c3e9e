/-
# Reading preprocessor conditions

Before a compiler sees declarations, it goes through a header line by line: a line
whose first mark is a number sign is a directive, and some directives open, divide or
close a condition. This module reads a text in this way, knowing nothing of how it was
written, and says when its conditions are nested properly. It then shows that a line
of a header is read as what it was written for, if its texts are inert.

Nothing is said about lines that a backslash joins, or about comments that run over
several lines.
-/

import ApiHeader.Proofs.InertText
import ApiHeader.Proofs.TextLines

namespace ApiHeader

open Schema Header Text

namespace Header

/-! ## Reading conditions -/

/-- Which branch of a condition is open. -/
inductive Branch
  | main
  /-- The last branch, which only the end of the condition can follow. -/
  | last
  deriving DecidableEq, Repr

/-- What a line means for conditions. -/
inductive Effect
  | opens
  /-- Another branch with a condition of its own. -/
  | retries
  | divides
  | closes
  | keeps
  deriving DecidableEq, Repr

/-- Whether a character continues the word of a directive. -/
def isWordChar (c : Char) : Bool :=
  c.isAlphanum || c == '_'

/-- The word of a directive. Blanks may stand on either side of the number sign. -/
def directiveWord? (line : String) : Option String :=
  match line.toList.dropWhile isBlank with
  | '#' :: rest => some (String.ofList ((rest.dropWhile isBlank).takeWhile isWordChar))
  | _ => none

/-- What a line means for conditions, by its word. -/
def effectOf (line : String) : Effect :=
  match directiveWord? line with
  | some "if" => .opens
  | some "ifdef" => .opens
  | some "ifndef" => .opens
  | some "elif" => .retries
  | some "else" => .divides
  | some "endif" => .closes
  | _ => .keeps

/-- The open branches after a line, innermost first, given those before it. A line
that divides or closes needs a condition that it can belong to. -/
def Effect.apply (branches : List Branch) : Effect → Option (List Branch)
  | opens => some (.main :: branches)
  | retries =>
    match branches with
    | .main :: rest => some (.main :: rest)
    | _ => none
  | divides =>
    match branches with
    | .main :: rest => some (.last :: rest)
    | _ => none
  | closes =>
    match branches with
    | _ :: rest => some rest
    | [] => none
  | keeps => some branches

/-- The open branches after some lines of a text. -/
def conditionsAfter (lines : List String) : Option (List Branch) :=
  (lines.map effectOf).foldlM Effect.apply []

/-! ## Balanced lines -/

/-- Lines that close every condition they open, and divide or close no other. -/
inductive Balanced : List Effect → Prop
  | nil : Balanced []
  | keeps {rest : List Effect} : Balanced rest → Balanced (.keeps :: rest)
  | block {body rest : List Effect} :
      Balanced body → Balanced rest → Balanced (.opens :: (body ++ .closes :: rest))
  | divided {body other rest : List Effect} :
      Balanced body → Balanced other → Balanced rest →
      Balanced (.opens :: (body ++ .divides :: (other ++ .closes :: rest)))

theorem Balanced.append {first second : List Effect} (h : Balanced first)
    (h' : Balanced second) : Balanced (first ++ second) := by
  induction h with
  | nil => exact h'
  | keeps _ ih => exact .keeps ih
  | block body _ _ ih => simpa using Balanced.block body ih
  | divided body other _ _ _ ih => simpa using Balanced.divided body other ih

theorem balanced_of_keeps {effects : List Effect} (h : ∀ effect ∈ effects, effect = .keeps) :
    Balanced effects := by
  induction effects with
  | nil => exact .nil
  | cons effect rest ih =>
      rw [h effect List.mem_cons_self]
      exact .keeps (ih fun other inside => h other (List.mem_cons_of_mem _ inside))

/-- Balanced lines leave the conditions around them as they were. -/
theorem Balanced.foldlM_apply {effects : List Effect} (h : Balanced effects)
    (branches : List Branch) : effects.foldlM Effect.apply branches = some branches := by
  induction h generalizing branches with
  | nil => rfl
  | keeps _ ih => exact ih branches
  | block _ _ body rest => simp [Effect.apply, body, rest]
  | divided _ _ _ body other rest => simp [Effect.apply, body, other, rest]

/-- The start of joined lists ends in the first one or runs on into the second. -/
theorem within_or_beyond {α : Type} {part first second : List α} (h : part <+: first ++ second) :
    part <+: first ∨ ∃ more, part = first ++ more ∧ more <+: second := by
  obtain ⟨rest, joined⟩ := h
  rcases List.append_eq_append_iff.1 joined with ⟨left, split, _⟩ | ⟨more, split, left⟩
  · exact .inl ⟨left, split.symm⟩
  · exact .inr ⟨more, split, rest, left.symm⟩

/-- However far effects are carried out, the given branches stay open. -/
def Keeps (branches : List Branch) (effects : List Effect) (before : List Branch) : Prop :=
  ∀ part, part <+: effects → ∃ inner, part.foldlM Effect.apply before = some (inner ++ branches)

theorem keeps_cons {branches before after : List Branch} {effect : Effect} {rest : List Effect}
    (step : effect.apply before = some after) (now : ∃ inner, before = inner ++ branches)
    (h : Keeps branches rest after) : Keeps branches (effect :: rest) before := by
  intro part start
  rcases List.prefix_cons_iff.1 start with rfl | ⟨more, rfl, tail⟩
  · obtain ⟨inner, rfl⟩ := now
    exact ⟨inner, rfl⟩
  · obtain ⟨inner, run⟩ := h more tail
    exact ⟨inner, by simpa [step] using run⟩

theorem keeps_append {branches before : List Branch} {body rest : List Effect}
    (balanced : Balanced body) (inside : Keeps before body before)
    (now : ∃ inner, before = inner ++ branches) (h : Keeps branches rest before) :
    Keeps branches (body ++ rest) before := by
  intro part start
  rcases within_or_beyond start with within | ⟨more, rfl, tail⟩
  · obtain ⟨inner, run⟩ := inside part within
    obtain ⟨outer, rfl⟩ := now
    exact ⟨inner ++ outer, by simpa using run⟩
  · obtain ⟨inner, run⟩ := h more tail
    exact ⟨inner, by simpa [balanced.foldlM_apply] using run⟩

/-- Within balanced lines the conditions around them stay open. -/
theorem Balanced.keeps_around {effects : List Effect} (h : Balanced effects)
    (branches : List Branch) : Keeps branches effects branches := by
  induction h generalizing branches with
  | nil =>
      intro part start
      rw [List.prefix_nil.1 start]
      exact ⟨[], rfl⟩
  | keeps _ ih => exact keeps_cons rfl ⟨[], rfl⟩ (ih branches)
  | block balanced _ body rest =>
      refine keeps_cons rfl ⟨[], rfl⟩ (keeps_append balanced (body _) ⟨[.main], rfl⟩ ?_)
      exact keeps_cons rfl ⟨[.main], rfl⟩ (rest branches)
  | divided balanced balanced' _ body other rest =>
      refine keeps_cons rfl ⟨[], rfl⟩ (keeps_append balanced (body _) ⟨[.main], rfl⟩ ?_)
      refine keeps_cons rfl ⟨[.main], rfl⟩ (keeps_append balanced' (other _) ⟨[.last], rfl⟩ ?_)
      exact keeps_cons rfl ⟨[.last], rfl⟩ (rest branches)

/-- Lines of which one opens a condition that the last one closes: the condition is
open from the one to the other, and nothing is open before it. -/
theorem conditionsAfter_guarded {lead body part : List String} {first last : String}
    (plain : ∀ line ∈ lead, effectOf line = .keeps) (opening : effectOf first = .opens)
    (balanced : Balanced (body.map effectOf)) (closing : effectOf last = .closes)
    (start : part <+: lead ++ first :: (body ++ [last])) :
    ∃ branches, conditionsAfter part = some branches ∧
      (branches = [] ↔ part <+: lead ∨ part = lead ++ first :: (body ++ [last])) := by
  have level {lines : List String} (h : ∀ line ∈ lines, effectOf line = .keeps) :
      conditionsAfter lines = some [] :=
    (balanced_of_keeps (List.forall_mem_map.2 h)).foldlM_apply []
  have opened (lines : List String) : conditionsAfter (lead ++ first :: lines) =
      (lines.map effectOf).foldlM Effect.apply [.main] := by
    have leading := level plain
    rw [conditionsAfter] at leading ⊢
    simp [leading, opening, Effect.apply]
  -- the part ends before the condition, right at its end, or inside of it
  rcases within_or_beyond start with early | ⟨more, rfl, beyond⟩
  · exact ⟨[], level fun line inside => plain line (early.subset inside), by simp [early]⟩
  rcases List.prefix_cons_iff.1 beyond with rfl | ⟨rest, rfl, within⟩
  · exact ⟨[], by simpa using level plain, by simp⟩
  rcases List.prefix_concat_iff.1 within with rfl | inside
  · refine ⟨[], ?_, by simp⟩
    rw [opened, List.map_append, List.foldlM_append, balanced.foldlM_apply]
    simp [closing, Effect.apply]
  · obtain ⟨inner, run⟩ := balanced.keeps_around [.main] _ (inside.map effectOf)
    refine ⟨inner ++ [.main], (opened rest).trans run, iff_of_false (by simp) ?_⟩
    have shorter := inside.length_le
    rintro (short | whole)
    · have lengths := short.length_le
      simp only [List.length_append, List.length_cons] at lengths
      omega
    · have lengths := congrArg List.length whole
      simp only [List.length_append, List.length_cons, List.length_nil] at lengths
      omega

/-! ## Reading lines back -/

/-- What a line of a header is taken for. -/
def Directive.effect : Directive → Effect
  | whenDefined _ | whenUndefined _ | ifDefined _ | ifNotDefined _ => .opens
  | otherwise _ => .divides
  | endif _ => .closes
  | define .. | includes _ => .keeps

def Line.effect : Line → Effect
  | directive _ content => content.effect
  | _ => .keeps

/-- The text of a line is one line, and it is read as what it was written for. -/
structure Line.Legible (line : Line) : Prop where
  within : '\n' ∉ line.text.toList
  ending : line.text.toList.getLast? ≠ some '\r'
  read : effectOf line.text = line.effect

/-- Legible lines are read back. -/
theorem lines_renderLines {written : List Line} (h : ∀ line ∈ written, line.Legible) :
    lines (renderLines written) = written.map Line.text := by
  induction written with
  | nil => rfl
  | cons line rest ih =>
      have legible := h line List.mem_cons_self
      have others := ih fun other inside => h other (List.mem_cons_of_mem _ inside)
      rw [lines, renderLines, String.toList_ofList] at others
      rw [lines, renderLines, String.toList_ofList, List.flatMap_cons, List.append_assoc,
        List.singleton_append, linesFrom_append legible.within, List.append_nil, linesFrom_feed,
        finishedLine_reverse legible.ending, List.map_cons, others, List.map_cons,
        String.ofList_toList]

theorem directiveWord?_eq_none {line : String}
    (h : (line.toList.dropWhile isBlank).head? ≠ some '#') : directiveWord? line = none := by
  rw [directiveWord?]
  split
  · next rest shape =>
    rw [shape] at h
    exact absurd rfl h
  · rfl

theorem effectOf_of_directiveWord? {line : String} (h : directiveWord? line = none) :
    effectOf line = .keeps := by
  rw [effectOf, h]

theorem Line.legible_blank : Line.blank.Legible where
  within := by decide
  ending := by decide
  read := by decide

theorem Line.toList_comment (text : String) :
    (Line.comment text).text.toList =
      '/' :: '/' :: if text.isEmpty then [] else ' ' :: text.toList := by
  rw [Line.text]
  split
  · rfl
  · simp

theorem Line.directiveWord?_comment (text : String) :
    directiveWord? (Line.comment text).text = none := by
  refine directiveWord?_eq_none ?_
  rw [Line.toList_comment, List.dropWhile_cons_of_neg (by decide)]
  simp

theorem Line.legible_comment {text : String} (within : '\n' ∉ text.toList)
    (ending : text.toList.getLast? ≠ some '\r') : (Line.comment text).Legible := by
  have shape := Line.toList_comment text
  constructor
  · rw [shape]
    split <;> simp [within]
  · rw [shape]
    split
    · simp
    · cases last : text.toList.getLast? with
      | none => simp [List.getLast?_cons, last]
      | some c => simpa [List.getLast?_cons, last] using ending
  · exact effectOf_of_directiveWord? (Line.directiveWord?_comment text)

theorem notMem_of_inert {text : String} (h : Inert text) :
    '#' ∉ text.toList ∧ '\n' ∉ text.toList ∧ '\r' ∉ text.toList := by
  refine ⟨?_, ?_, ?_⟩
  all_goals
    intro inside
    have := h _ inside
    exact absurd this (by decide)

theorem inert_spaces (count : Nat) : Inert (spaces count) := by
  rw [spaces, inert_ofList]
  intro c inside
  rw [List.eq_of_mem_replicate inside]
  decide

theorem Line.legible_code {indent : Nat} {text : String} (h : Inert text) :
    (Line.code indent text).Legible := by
  have whole : Inert (Line.code indent text).text := inert_append.2 ⟨inert_spaces indent, h⟩
  obtain ⟨noMark, noFeed, noReturn⟩ := notMem_of_inert whole
  refine ⟨noFeed, fun last => noReturn (List.mem_of_getLast? last), ?_⟩
  refine effectOf_of_directiveWord? (directiveWord?_eq_none fun mark => noMark ?_)
  exact (List.dropWhile_sublist isBlank).subset (List.mem_of_head? mark)

/-- What follows the word of a directive does not run into it. -/
@[simp]
def Directive.Parted : Directive → Prop
  | otherwise note | endif note => note.toList.head?.all fun c => !isWordChar c
  | whenDefined _ | whenUndefined _ | ifDefined _ | ifNotDefined _ | define .. | includes _ => True

/-- The word that a directive starts with. -/
def Directive.word : Directive → String
  | whenDefined _ => "ifdef"
  | whenUndefined _ => "ifndef"
  | ifDefined _ | ifNotDefined _ => "if"
  | otherwise _ => "else"
  | endif _ => "endif"
  | define .. => "define"
  | includes _ => "include"

/-- The text of a directive starts with its word, which ends there. -/
theorem Directive.exists_text (content : Directive) (parted : content.Parted) :
    ∃ rest, content.text.toList = content.word.toList ++ rest ∧
      rest.head?.all fun c => !isWordChar c := by
  have space (note : String) : (" " ++ note).toList.head?.all fun c => !isWordChar c := by
    simp +decide
  cases content with
  | whenDefined name => exact ⟨_, by simp [text, word], space name⟩
  | whenUndefined name => exact ⟨_, by simp [text, word], space name⟩
  | ifDefined name => exact ⟨_, by simp [text, word], space ("defined(" ++ name ++ ")")⟩
  | ifNotDefined name => exact ⟨_, by simp [text, word], space ("!defined(" ++ name ++ ")")⟩
  | otherwise note => exact ⟨note.toList, by simp [text, word], parted⟩
  | endif note => exact ⟨note.toList, by simp [text, word], parted⟩
  | define name body =>
      exact ⟨_, by simp [text, word], space (name ++ if body.isEmpty then "" else " " ++ body)⟩
  | includes file => exact ⟨_, by simp [text, word], space ("<" ++ file ++ ">")⟩

/-- A directive is read by its word, however far it is indented. -/
theorem directiveWord?_directive {indent : Nat} {content : Directive} (parted : content.Parted) :
    directiveWord? (Line.directive indent content).text = some content.word := by
  obtain ⟨rest, spelled, ends⟩ := content.exists_text parted
  have shape : (Line.directive indent content).text.toList =
      '#' :: (List.replicate indent ' ' ++ (content.word.toList ++ rest)) := by
    simp [Line.text, spaces, spelled]
  have blank : ∀ c ∈ List.replicate indent ' ', isBlank c := by
    intro c inside
    rw [List.eq_of_mem_replicate inside]
    decide
  have spelt : content.word.toList.all fun c => isWordChar c && !isBlank c := by
    cases content <;> (simp only [Directive.word]; decide)
  have letters : ∀ c ∈ content.word.toList, isWordChar c ∧ isBlank c = false := by
    simpa using spelt
  have started : (content.word.toList ++ rest).dropWhile isBlank =
      content.word.toList ++ rest := by
    cases first : content.word.toList with
    | nil => cases content <;> simp [Directive.word] at first
    | cons c cs =>
        have letter := (letters c (by simp [first])).2
        exact List.dropWhile_cons_of_neg (by simp [letter])
  have ended : rest.takeWhile isWordChar = [] := by
    cases rest with
    | nil => rfl
    | cons c cs => exact List.takeWhile_cons_of_neg (by simpa using ends)
  rw [directiveWord?, shape, List.dropWhile_cons_of_neg (by decide)]
  simp only [List.dropWhile_append_of_pos blank, started]
  rw [List.takeWhile_append_of_pos fun c inside => (letters c inside).1, ended, List.append_nil,
    String.ofList_toList]

/-- The word of a directive says what it does to conditions. -/
theorem effectOf_directive {indent : Nat} {content : Directive} (parted : content.Parted) :
    effectOf (Line.directive indent content).text = content.effect := by
  rw [effectOf, directiveWord?_directive parted]
  cases content <;> rfl

/-- The texts that a directive puts together. -/
@[simp]
def Directive.texts : Directive → List String
  | whenDefined name | whenUndefined name | ifDefined name | ifNotDefined name => [name]
  | otherwise note | endif note => [note]
  | define name body => [name, body]
  | includes file => [file]

theorem Directive.inert_text {content : Directive} (h : AllInert content.texts) :
    Inert content.text := by
  cases content with
  | define name body =>
      simp only [texts, AllInert, List.forall_mem_cons] at h
      rw [text]
      split <;> simp +decide [h]
  | _ =>
      simp only [texts, AllInert, List.forall_mem_cons] at h
      simp +decide [text, h]

theorem Line.legible_directive {indent : Nat} {content : Directive} (h : AllInert content.texts)
    (parted : content.Parted) : (Line.directive indent content).Legible := by
  have shape : (Line.directive indent content).text.toList =
      '#' :: (spaces indent ++ content.text).toList := by
    simp [Line.text]
  obtain ⟨_, noFeed, noReturn⟩ := notMem_of_inert
    (inert_append.2 ⟨inert_spaces indent, Directive.inert_text h⟩)
  refine ⟨?_, fun last => noReturn ?_, effectOf_directive parted⟩
  · rw [shape, List.mem_cons, not_or]
    exact ⟨by decide, noFeed⟩
  · have inside := List.mem_of_getLast? last
    rw [shape, List.mem_cons] at inside
    exact inside.resolve_left (by decide)

end Header

end ApiHeader
