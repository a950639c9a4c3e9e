/-
# The license and the prefix

Two elements of a description are read for their text: the license, and the prefix inside
the metadata. However that text is written, it reaches the schema without the blanks around
it, and nothing else about the schema depends on it. For the license all other children of
the root keep it, the definitions of types among them, which carry the whole schema along.
The prefix is three elements deep, and each of the readers on the way keeps a prefix that it
finds no successor for.
-/

import ApiHeader.Proofs.AttributeFaults
import ApiHeader.Proofs.Declared
import ApiHeader.Proofs.Exchange
import ApiHeader.Proofs.TextContent

namespace ApiHeader.Description

open ApiHeader.Markup ApiHeader.Text

variable {α σ : Type}

/-! ## Readers that keep the license or the prefix -/

/-- A schema with another license. -/
def withLicense (license : String) (schema : Schema) : Schema :=
  { schema with license }

/-- A schema with another prefix. -/
def withPrefix (namePrefix : String) (schema : Schema) : Schema :=
  { schema with namePrefix }

/-- What was read so far, with another license. -/
def Draft.withLicense (license : String) (draft : Draft) : Draft :=
  { draft with schema := Description.withLicense license draft.schema }

/-- What was read so far, with another prefix. -/
def Draft.withPrefix (namePrefix : String) (draft : Draft) : Draft :=
  { draft with namePrefix := some namePrefix }

/-- The names that lead from the root to the prefix. -/
def prefixPath : List String := ["c", "prefix", "metadata"]

/-- The definitions of types leave the license alone. -/
theorem framed_readTypes (license : String) (schema : Schema) (target path : List String) :
    Framed (withLicense license) target path (readTypes schema)
      (readTypes (withLicense license schema)) := by
  refine framed_children (withLicense license) ?_ ?_ schema
  · intro schema tag reader visited
    exact exact_of_visitType visited
  · intro schema tag _
    rw [visitType, visitType]
    split
    · exact .reads (framed_leaf _ fun _ => rfl)
    · exact .reads ((framed_refl _).map fun _ => rfl)
    · exact .reads ((framed_refl _).map fun _ => rfl)
    · exact .reads ((framed_refl _).map fun _ => rfl)
    · exact .passes

/-- Without a prefix of its own an element keeps the prefix that was found before. -/
theorem framed_readPrefix (found : Option String) (namePrefix : String) :
    Framed (fun _ => some namePrefix) prefixPath ["prefix", "metadata"] (readPrefix found)
      (readPrefix (some namePrefix)) := by
  refine framed_children (fun _ => some namePrefix)
    (exact_of_named fun _ _ => exact_trimmedText.map some) ?_ found
  intro state tag other
  split
  · next named => exact absurd (by rw [named]; rfl) other
  · exact .passes

theorem framed_readMetadata (found : Option String) (namePrefix : String) :
    Framed (fun _ => some namePrefix) prefixPath ["metadata"] (readMetadata found)
      (readMetadata (some namePrefix)) := by
  refine framed_children (fun _ => some namePrefix)
    (exact_of_named fun state _ => exact_readPrefix state) ?_ found
  intro state tag _
  split
  · next named =>
    rw [named]
    exact .reads (framed_readPrefix state namePrefix)
  · exact .passes

/-- What the children of the root element do to the two texts. -/
structure RootVisitor (visit : Visitor Draft) : Prop where
  exactly : ∀ draft tag reader, visit draft tag = some reader → Exact reader
  license : ∀ draft tag, tag.name = "license" → visit draft tag =
    some fun selfClosing => (trimmedText selfClosing).map draft.withLicense
  metadata : ∀ draft tag, tag.name = "metadata" → visit draft tag =
    some fun selfClosing => (readMetadata draft.namePrefix selfClosing).map fun namePrefix =>
      { draft with namePrefix }
  keepsLicense : ∀ license draft tag, tag.name ≠ "license" →
    FramedChild (Draft.withLicense license) ["license"] [tag.name] (visit draft tag)
      (visit (draft.withLicense license) tag)
  keepsPrefix : ∀ namePrefix draft tag,
    FramedChild (Draft.withPrefix namePrefix) prefixPath [tag.name] (visit draft tag)
      (visit (draft.withPrefix namePrefix) tag)

theorem exists_rootVisitor :
    ∃ visit, RootVisitor visit ∧ readRoot = children visit {} false := by
  refine ⟨visitSection, ⟨?_, ?_, ?_, ?_, ?_⟩, rfl⟩
  · intro draft tag reader visited
    exact exact_of_visitSection visited
  · intro draft tag named
    rw [visitSection, named]
    rfl
  · intro draft tag named
    rw [visitSection, named]
    rfl
  · intro license draft tag other
    dsimp only [visitSection]
    split
    · next named => exact absurd named other
    · exact .reads ((framed_refl _).map fun _ => rfl)
    · exact .reads ((framed_refl _).map fun _ => rfl)
    · exact .reads ((framed_readTypes _ _ _ _).map fun _ => rfl)
    · exact .reads ((framed_refl _).map fun _ => rfl)
    · exact .reads ((framed_refl _).map fun _ => rfl)
    · exact .reads ((framed_refl _).map fun _ => rfl)
    · exact .passes
  · intro namePrefix draft tag
    dsimp only [visitSection]
    split
    · exact .reads ((framed_refl _).map fun _ => rfl)
    · next named =>
      rw [named]
      exact .reads ((framed_readMetadata _ _).map fun _ => rfl)
    · exact .reads ((framed_refl _).map fun _ => rfl)
    · exact .reads ((framed_refl _).map fun _ => rfl)
    · exact .reads ((framed_refl _).map fun _ => rfl)
    · exact .reads ((framed_refl _).map fun _ => rfl)
    · exact .reads ((framed_refl _).map fun _ => rfl)
    · exact .passes

/-! ## The text of an element -/

/-- An exchange of the text is one of the prefix. -/
theorem exchanges_readPrefix {text : String} {inner : List Event} (nested : Nested inner)
    {tag : Tag} (named : tag.name = "c") {first second : List Event}
    (child : Exchanges (fun _ => text)
      (fun rest => begins prefixPath ["prefix", "metadata"] rest = false) (trimmedText false) first
      second) (found : Option String) :
    Exchanges (fun _ => some text) (fun rest => begins prefixPath ["metadata"] rest = false)
      (readPrefix found false) (inner ++ .start tag :: first) (inner ++ .start tag :: second) := by
  have whole := exchanges_children (exact_of_named fun _ _ => exact_trimmedText.map some)
    (fun found => framed_readPrefix found text) nested tag
    (fun _ => by
      rw [readChild_of_some (if_pos named)]
      exact child.map fun _ => rfl) found
  intro value rest h
  obtain ⟨read, left⟩ := whole value rest h
  exact ⟨read, left _ _ rfl⟩

theorem exchanges_readMetadata {text : String} {inner : List Event} (nested : Nested inner)
    {tag : Tag} (named : tag.name = "prefix") {first second : List Event}
    (child : ∀ found, Exchanges (fun _ => some text)
      (fun rest => begins prefixPath ["metadata"] rest = false) (readPrefix found false) first
      second) (found : Option String) :
    Exchanges (fun _ => some text) (fun rest => begins prefixPath [] rest = false)
      (readMetadata found false) (inner ++ .start tag :: first)
      (inner ++ .start tag :: second) := by
  have whole := exchanges_children (exact_of_named fun found _ => exact_readPrefix found)
    (fun found => framed_readMetadata found text) nested tag
    (fun found => by
      rw [readChild_of_some (if_pos named)]
      exact child found) found
  intro value rest h
  obtain ⟨read, left⟩ := whole value rest h
  exact ⟨read, left _ _ rfl⟩

/-- A text that is written between the tags of an element is read up to the end tag. -/
theorem run_trimmedText_writes {written text stop : List Char} {name : String}
    (writes : Writes written text) (isStop : eventsFrom [name] stop = [.close name])
    (opened : List String) (after : List Char) :
    (trimmedText false).run (eventsFrom (name :: opened) (written ++ (stop ++ after))) =
      .ok (trim (String.ofList text), eventsFrom opened after) := by
  have closes : openAfter [name] [.close name] = some [] := by simp [openAfter]
  have stopRead : eventsFrom (name :: opened) (stop ++ after) =
      .close name :: eventsFrom opened after := eventsFrom_of_single isStop closes rfl opened after
  rw [trimmedText, run_map, run_textContent_false, writes.textFrom_append, stopRead]
  simp [textFrom, inFrontOf, Except.map, bind, Except.bind]

/-! ## Documents with a place for a text -/

theorem openAfter_fillers {lead : List Event} (fillers : ∀ event ∈ lead, isFiller event)
    (opened : List String) (rest : List Event) :
    openAfter opened (lead ++ rest) = openAfter opened rest := by
  induction lead with
  | nil => rfl
  | cons event lead ih =>
      obtain ⟨own, others⟩ := List.forall_mem_cons.1 fillers
      rw [List.cons_append, openAfter_filler own, ih others]

/-- A run of text and markup after it are read apart. -/
theorem eventsFrom_run_append {run more : List Char} (text : ∀ c ∈ run, continuesText c)
    (markup : ∀ c ∈ more.head?, continuesText c = false) (opened : List String) :
    eventsFrom opened (run ++ more) = eventsFrom opened run ++ eventsFrom opened more := by
  have ends : more.takeWhile continuesText = [] ∧ more.dropWhile continuesText = more := by
    cases more with
    | nil => exact ⟨rfl, rfl⟩
    | cons c more => simp [markup c rfl]
  cases run with
  | nil => rw [List.nil_append, eventsFrom_nil, List.nil_append]
  | cons c run =>
      obtain ⟨own, others⟩ := List.forall_mem_cons.1 text
      rw [List.cons_append, eventsFrom_of_step (Lexeme.next_of_continuesText own _) rfl,
        eventsFrom_of_step (Lexeme.next_of_continuesText own _) rfl,
        List.takeWhile_append_of_pos others, List.dropWhile_append_of_pos others, ends.1, ends.2,
        List.takeWhile_eq_self_iff.2 others, List.dropWhile_eq_nil_iff.2 others, eventsFrom_nil,
        List.append_nil]
      rfl

theorem events_append {before : String} {left : List String}
    (position : openAfter [] (events before) = some left) (nonempty : before ≠ "") {more : String}
    (markup : ∀ c ∈ more.toList.head?, continuesText c = false) :
    events (before ++ more) = events before ++ eventsFrom left more.toList := by
  obtain ⟨cs, alone, joined⟩ := exists_events_append nonempty
  rw [alone] at position
  obtain ⟨found, run, scan⟩ := exists_scan position
  have whole := scan.eventsFrom_append []
  rw [List.append_nil, List.append_nil] at whole
  rw [joined, alone, whole, scan.eventsFrom_append,
    eventsFrom_run_append scan.continuesText_run markup, List.append_assoc]

theorem continuesText_of_start {start : List Char} {tag : Tag}
    (isStart : eventsFrom [] start = [.start tag]) :
    ∃ c cs, start = c :: cs ∧ continuesText c = false := by
  cases start with
  | nil =>
      rw [eventsFrom_nil] at isStart
      cases isStart
  | cons c cs =>
      refine ⟨c, cs, rfl, ?_⟩
      by_contra goesOn
      rw [Bool.not_eq_false] at goesOn
      rw [eventsFrom_of_step (Lexeme.next_of_continuesText goesOn cs) rfl] at isStart
      cases isStart

/-- A document with a gap for the content of one element. The element has the given name and
stands inside the root, in elements that have the other names, the innermost first. -/
structure Slot (name : String) (outer : List String) where
  /-- The characters up to the element. -/
  before : String
  /-- What leads the root. -/
  lead : List Event
  root : Tag
  /-- What the root holds before the element. -/
  inner : List Event
  isBefore : events before = lead ++ .start root :: inner
  fillers : ∀ event ∈ lead, isFiller event
  position : openAfter [] inner = some outer
  start : String
  tag : Tag
  isStart : eventsFrom [] start.toList = [.start tag]
  named : tag.name = name
  stop : String
  isStop : eventsFrom [name] stop.toList = [.close name]
  after : String
  /-- No later element takes the place of this one. -/
  last : begins (name :: outer) outer (eventsFrom (outer ++ [root.name]) after.toList) = false

namespace Slot

variable {name : String} {outer : List String} (slot : Slot name outer)

/-- The document with the given content. -/
def fill (content : List Char) : String :=
  slot.before ++ (slot.start ++ (String.ofList content ++ (slot.stop ++ slot.after)))

/-- The events of the content and of all that follows. -/
def tail (content : List Char) : List Event :=
  eventsFrom (name :: (outer ++ [slot.root.name]))
    (content ++ (slot.stop.toList ++ slot.after.toList))

theorem events_fill (content : List Char) :
    events (slot.fill content) =
      slot.lead ++ .start slot.root :: (slot.inner ++ .start slot.tag :: slot.tail content) := by
  have position : openAfter [] (events slot.before) = some (outer ++ [slot.root.name]) := by
    rw [slot.isBefore, openAfter_fillers slot.fillers]
    exact openAfter_outer slot.position [slot.root.name]
  have nonempty : slot.before ≠ "" := by
    intro empty
    have none := slot.isBefore
    rw [empty] at none
    simp [events] at none
  obtain ⟨c, cs, shape, markup⟩ := continuesText_of_start slot.isStart
  have startRead : eventsFrom (outer ++ [slot.root.name])
      (slot.start.toList ++ (content ++ (slot.stop.toList ++ slot.after.toList))) =
        .start slot.tag :: eventsFrom (slot.tag.name :: (outer ++ [slot.root.name]))
          (content ++ (slot.stop.toList ++ slot.after.toList)) :=
    eventsFrom_of_single slot.isStart rfl rfl _ _
  rw [fill, events_append position nonempty (by simp [shape, markup]), slot.isBefore]
  simp only [String.toList_append, String.toList_ofList]
  rw [startRead, slot.named, tail]
  simp

theorem exchanges_text {first second text text' : List Char} (writes : Writes first text)
    (writes' : Writes second text') :
    Exchanges (fun _ => trim (String.ofList text'))
      (fun rest => begins (name :: outer) outer rest = false) (trimmedText false)
      (slot.tail first) (slot.tail second) := by
  intro value rest h
  rw [tail, run_trimmedText_writes writes slot.isStop] at h
  rw [tail, run_trimmedText_writes writes' slot.isStop]
  obtain ⟨-, rfl⟩ := Prod.mk.inj (Except.ok.inj h)
  exact ⟨rfl, slot.last⟩

/-- If an exchange of the content changes the draft, and so the schema, then this is how the
two documents differ. -/
theorem load_fill_of_exchanges {first second : List Char} {change : Draft → Draft}
    {left : List Event → Prop} {result : Schema → Schema}
    (exchanges : Exchanges change left readRoot (slot.inner ++ .start slot.tag :: slot.tail first)
      (slot.inner ++ .start slot.tag :: slot.tail second))
    (finishes : ∀ draft schema, draft.finish = .ok schema →
      (change draft).finish = .ok (result schema))
    {schema : Schema} (loaded : Schema.load (slot.fill first) = .ok schema) :
    Schema.load (slot.fill second) = .ok (result schema) := by
  have leads : ∀ event ∈ slot.lead, leadsRoot event := by
    intro event inside
    have filler := slot.fillers event inside
    cases event <;> first | rfl | cases filler
  rw [Schema.load, events_fill, loadEvents_append leads, loadEvents_start] at loaded ⊢
  obtain ⟨⟨draft, rest⟩, read, finished⟩ := bind_eq_ok_iff.1 loaded
  rw [(exchanges draft rest read).1]
  exact finishes draft schema finished

end Slot

theorem Draft.finish_withLicense {draft : Draft} {schema : Schema}
    (finished : draft.finish = .ok schema) (license : String) :
    (draft.withLicense license).finish = .ok (Description.withLicense license schema) := by
  rw [finish] at finished ⊢
  simp only [withLicense]
  split at finished
  · split at finished <;> cases finished
    next nonempty =>
    simp [nonempty, Description.withLicense]
  · cases finished

theorem Draft.finish_withPrefix {draft : Draft} {schema : Schema}
    (finished : draft.finish = .ok schema) {namePrefix : String} (nonempty : namePrefix ≠ "") :
    (draft.withPrefix namePrefix).finish = .ok (Description.withPrefix namePrefix schema) := by
  obtain ⟨found, rfl⟩ := finish_eq_ok finished
  simp [finish, withPrefix, nonempty, Description.withPrefix]

section Exchange

variable {first second text text' : List Char} (writes : Writes first text)
  (writes' : Writes second text')

include writes writes'

/-- Whatever the license says, only the license of the schema depends on it. -/
theorem load_fill_license (slot : Slot "license" []) {schema : Schema}
    (loaded : Schema.load (slot.fill first) = .ok schema) :
    Schema.load (slot.fill second) = .ok (withLicense (trim (String.ofList text')) schema) := by
  obtain ⟨visit, root, same⟩ := exists_rootVisitor
  cases leads_of_openAfter slot.position with
  | inside nested =>
      have framed := framed_children (Draft.withLicense (trim (String.ofList text'))) root.exactly
        fun draft tag other => root.keepsLicense _ draft tag fun named => other (named ▸ rfl)
      have child (draft : Draft) : Exchanges (Draft.withLicense (trim (String.ofList text')))
          (fun rest => begins ["license"] [] rest = false) (readChild visit draft slot.tag false)
          (slot.tail first) (slot.tail second) := by
        rw [readChild_of_some (root.license draft slot.tag slot.named)]
        exact (slot.exchanges_text writes writes').map fun _ => rfl
      have exchanges := exchanges_children root.exactly framed nested slot.tag child {}
      rw [← same] at exchanges
      apply slot.load_fill_of_exchanges exchanges _ loaded
      intro draft schema finished
      exact Draft.finish_withLicense finished _

/-- Whatever the prefix is, only the prefix of the schema depends on it, as long as it is one. -/
theorem load_fill_prefix (slot : Slot "c" ["prefix", "metadata"])
    (nonempty : trim (String.ofList text') ≠ "") {schema : Schema}
    (loaded : Schema.load (slot.fill first) = .ok schema) :
    Schema.load (slot.fill second) = .ok (withPrefix (trim (String.ofList text')) schema) := by
  obtain ⟨visit, root, same⟩ := exists_rootVisitor
  obtain ⟨prefixTag, front, inmost, prefixNamed, shape, leads, nestedInmost⟩ :=
    (leads_of_openAfter slot.position).exists_enter
  obtain ⟨metadataTag, outmost, middle, metadataNamed, rfl, leads, nestedMiddle⟩ :=
    leads.exists_enter
  cases leads with
  | inside nestedOutmost =>
      have framed := framed_children (Draft.withPrefix (trim (String.ofList text'))) root.exactly
        fun draft tag _ => root.keepsPrefix _ draft tag
      have inPrefix :=
        exchanges_readPrefix nestedInmost slot.named (slot.exchanges_text writes writes')
      have inMetadata := exchanges_readMetadata nestedMiddle prefixNamed inPrefix
      have child (draft : Draft) : Exchanges (Draft.withPrefix (trim (String.ofList text')))
          (fun rest => begins prefixPath [] rest = false) (readChild visit draft metadataTag false)
          (middle ++ .start prefixTag :: (inmost ++ .start slot.tag :: slot.tail first))
          (middle ++ .start prefixTag :: (inmost ++ .start slot.tag :: slot.tail second)) := by
        rw [readChild_of_some (root.metadata draft metadataTag metadataNamed)]
        exact (inMetadata draft.namePrefix).map fun _ => rfl
      have exchanges := exchanges_children root.exactly framed nestedOutmost metadataTag child {}
      rw [← same] at exchanges
      apply slot.load_fill_of_exchanges (by rw [shape]; simpa using exchanges) _ loaded
      intro draft schema finished
      exact Draft.finish_withPrefix finished nonempty

end Exchange

/-- Two outcomes of which each one answers the other. -/
theorem toOption_eq_map {first second : Except LoadError α} {f : α → α}
    (forth : ∀ value, first = .ok value → second = .ok (f value))
    (back : ∀ value, second = .ok value → ∃ value', first = .ok value') :
    second.toOption = first.toOption.map f := by
  cases found : first with
  | ok value => rw [forth value found]; rfl
  | error cause =>
      cases found' : second with
      | error cause => rfl
      | ok value =>
          obtain ⟨value', same⟩ := back value found'
          rw [found] at same
          cases same

/-- However a text is written between the tags of the license, the license of the schema is the
text without the blanks around it. The same is true of the prefix, if there is anything else to
the text. Nothing more depends on the text: the document is loaded just if it is loaded with any
other one, and the rest of the schema is the same. -/
theorem load_written_text {written text sample other : List Char} (writes : Writes written text)
    (sampled : Writes sample other) :
    (∀ slot : Slot "license" [], (Schema.load (slot.fill written)).toOption =
      (Schema.load (slot.fill sample)).toOption.map (withLicense (trim (String.ofList text)))) ∧
    (trim (String.ofList text) ≠ "" → trim (String.ofList other) ≠ "" →
      ∀ slot : Slot "c" ["prefix", "metadata"],
        (Schema.load (slot.fill written)).toOption =
          (Schema.load (slot.fill sample)).toOption.map
            (withPrefix (trim (String.ofList text)))) := by
  constructor
  · intro slot
    apply toOption_eq_map
    · exact fun schema loaded => load_fill_license sampled writes slot loaded
    · exact fun schema loaded => ⟨_, load_fill_license writes sampled slot loaded⟩
  · intro nonempty nonemptyOther slot
    apply toOption_eq_map
    · exact fun schema loaded => load_fill_prefix sampled writes slot nonempty loaded
    · exact fun schema loaded => ⟨_, load_fill_prefix writes sampled slot nonemptyOther loaded⟩

/-- A text between two blanks, written in every way there is. -/
def noticeWritten : List Char :=
  "&#160;A<![CDATA[ <]]]]><!-- > --><?note ?><b of='>'>&lt;<i/></b>&#x2003;".toList

def noticeText : List Char :=
  "\u00a0A <]]<\u2003".toList

theorem writes_notice : Writes noticeWritten noticeText := by
  have wide : Refers "#160".toList '\u00a0' :=
    .decimal ⟨by decide, [1, 6, 0], .cons (by decide) (.cons (by decide) (.cons (by decide) .nil)),
      by decide⟩ (by decide)
  have em : Refers "#x2003".toList '\u2003' :=
    .hexadecimal ⟨by decide, [2, 0, 0, 3], .cons (by decide) (.cons (by decide)
      (.cons (by decide) (.cons (by decide) .nil))), by decide⟩ (by decide)
  have isSingle : eventsFrom [] "<i/>".toList = [.empty (Tag.ofContent "i".toList)] := by
    decide +kernel
  have isStart : eventsFrom [] "<b of='>'>".toList =
      [.start (Tag.ofContent "b of='>'".toList)] := by decide +kernel
  have isStop : eventsFrom [(Tag.ofContent "b of='>'".toList).name] "</b>".toList =
      [.close (Tag.ofContent "b of='>'".toList).name] := by decide +kernel
  have inside : Writes ('&' :: ("lt".toList ++ ';' :: ("<i/>".toList ++ []))) ['<'] :=
    .reference (.entity rfl) (.empty isSingle .nil)
  have tagged := Writes.element isStart isStop inside (.reference em .nil)
  have note : ¬ ['?', '>'] <:+: '?' :: "note ".toList := by decide
  have comment : ¬ ['-', '-', '>'] <:+: " > ".toList := by decide
  have literal : ¬ [']', ']', '>'] <:+: " <]]".toList := by decide
  have plain : IsPlainText ['A'] := by simp [IsPlainText]
  have whole := Writes.reference wide
    (.plain plain (.cdata (by decide) literal (.comment comment (.instruction note tagged))))
  convert whole using 1 <;> decide +kernel

/-- A document with a place for the license. -/
def licenseSlot : Slot "license" [] where
  before := "<?xml version='1.0'?><api>"
  lead := [.aside]
  root := Tag.ofContent "api".toList
  inner := []
  isBefore := by decide +kernel
  fillers := List.forall_mem_singleton.2 rfl
  position := rfl
  start := "<license of='all'>"
  tag := Tag.ofContent "license of='all'".toList
  isStart := by decide +kernel
  named := by decide +kernel
  stop := "</license >"
  isStop := by decide +kernel
  after := "<metadata><prefix><c>P</c></prefix><license/></metadata></api>"
  last := by decide +kernel

/-- A document with a place for the prefix, after a license and an earlier prefix. -/
def prefixSlot : Slot "c" ["prefix", "metadata"] where
  before := "<api><license>L</license><metadata> <prefix><c>Q</c>"
  lead := []
  root := Tag.ofContent "api".toList
  inner := [.start (Tag.ofContent "license".toList), .text "L", .close "license",
    .start (Tag.ofContent "metadata".toList), .text " ", .start (Tag.ofContent "prefix".toList),
    .start (Tag.ofContent "c".toList), .text "Q", .close "c"]
  isBefore := by decide +kernel
  fillers := List.forall_mem_nil _
  position := by decide +kernel
  start := "<c>"
  tag := Tag.ofContent "c".toList
  isStart := by decide +kernel
  named := by decide +kernel
  stop := "</c>"
  isStop := by decide +kernel
  after := "</prefix><c>R</c></metadata></api>"
  last := by decide +kernel

theorem notice_load_written_text :
    Writes noticeWritten noticeText ∧ Writes ['P'] ['P'] ∧
    (Schema.load (licenseSlot.fill noticeWritten)).toOption =
      some { license := "A <]]<", namePrefix := "P" } ∧
    (Schema.load (prefixSlot.fill noticeWritten)).toOption =
      some { license := "L", namePrefix := "A <]]<" } := by
  have plain : IsPlainText ['P'] := by simp [IsPlainText]
  have sampled : Writes ['P'] ['P'] := .plain plain .nil
  have trimmed : trim (String.ofList noticeText) = "A <]]<" := by decide +kernel
  obtain ⟨license, namePrefix⟩ := load_written_text writes_notice sampled
  refine ⟨writes_notice, sampled, ?_, ?_⟩
  · rw [license licenseSlot, trimmed]
    decide +kernel
  · rw [namePrefix (by rw [trimmed]; decide) (by decide +kernel) prefixSlot, trimmed]
    decide +kernel

end ApiHeader.Description
