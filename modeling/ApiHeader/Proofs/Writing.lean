/-
# Writing documents

Elements are written without blanks between them: an element without children as
one tag, text with the five known entities in place of the characters that markup
gives a meaning, and attribute values between double quotes in the same way. A
written element is read as its own events wherever it stands, so what a document
means can be said about the events of its elements and nothing else. How line ends
are unified is not undone by any escape, and no law here hides it.
-/

import ApiHeader.Proofs.Lexing
import ApiHeader.Proofs.Reading
import Mathlib.Data.List.Nodup

namespace ApiHeader.Markup

open ApiHeader.Text

/-! ## Escaping -/

/-- The name of the entity that a character is written as. -/
def entityName? : Char → Option (List Char)
  | '<' => some ['l', 't']
  | '>' => some ['g', 't']
  | '&' => some ['a', 'm', 'p']
  | '\x27' => some ['a', 'p', 'o', 's']
  | '\x22' => some ['q', 'u', 'o', 't']
  | _ => none

/-- A character as it is written in text and between quotes. -/
def escapeChar (c : Char) : List Char :=
  match entityName? c with
  | some name => '&' :: name ++ [';']
  | none => [c]

/-- Characters as they are written in text and between quotes. -/
def escape (cs : List Char) : List Char :=
  cs.flatMap escapeChar

/-- Whether a character may stand in the names of elements and attributes. -/
def isNameChar (c : Char) : Bool :=
  c.isAlphanum || c == '_'

/-- Whether a text may name an element or an attribute. -/
def isPlainName (name : String) : Bool :=
  !name.toList.isEmpty && name.toList.all isNameChar

theorem entityName?_eq_none {c : Char} (plain : entityName? c = none) :
    c ≠ '<' ∧ c ≠ '>' ∧ c ≠ '&' ∧ c ≠ '\x27' ∧ c ≠ '\x22' := by
  refine ⟨?_, ?_, ?_, ?_, ?_⟩ <;>
    · intro same
      rw [same] at plain
      cases plain

/-- An entity's name stands for its character and holds no mark of markup. -/
theorem entityName?_eq_some {c : Char} {name : List Char} (known : entityName? c = some name) :
    entity? name = some c ∧ name.all isNameChar ∧ c ≠ '\r' ∧ c ≠ '\n' := by
  unfold entityName? at known
  split at known <;> cases known <;> exact ⟨rfl, rfl, by decide, by decide⟩

/-- A character of a name is none of the marks that end or separate the parts of a
tag or of a reference. -/
theorem not_mark_of_isNameChar {c : Char} (plain : isNameChar c) :
    c ∉ [' ', '\t', '\r', '\n', '=', '/', '<', '>', '&', ';', '#', '!', '?', '\x27', '\x22'] := by
  intro mark
  simp only [List.mem_cons, List.not_mem_nil, or_false] at mark
  rcases mark with h | h | h | h | h | h | h | h | h | h | h | h | h | h | h <;>
    · rw [h] at plain
      cases plain

theorem resolveName_entityName {c : Char} {name : List Char} (known : entityName? c = some name)
    (start : Nat) : resolveName start name = .ok c := by
  unfold entityName? at known
  split at known <;> cases known <;> rfl

/-- A reference by name is read up to its semicolon. -/
theorem span_entityName {p : Char → Bool} {c : Char} {name : List Char}
    (known : entityName? c = some name) (rest : List Char) (continues : ∀ c, isNameChar c → p c)
    (ends : p ';' = false) :
    (name ++ ';' :: rest).takeWhile p = name ∧ (name ++ ';' :: rest).dropWhile p = ';' :: rest := by
  have inside : ∀ c ∈ name, p c := fun c member =>
    continues c (List.all_eq_true.1 (entityName?_eq_some known).2.1 c member)
  rw [List.takeWhile_append_of_pos inside, List.dropWhile_append_of_pos inside]
  simp [ends]

theorem continuesName_of_isNameChar (c : Char) (plain : isNameChar c) : continuesName c := by
  have := not_mark_of_isNameChar plain
  simp_all [continuesName]

theorem unescapeFrom_escape (size : Nat) (cs : List Char) :
    unescapeFrom size (escape cs) = .ok cs := by
  induction cs with
  | nil => rw [escape, List.flatMap_nil, unescapeFrom]
  | cons c cs ih =>
      rw [escape, List.flatMap_cons, escapeChar]
      change unescapeFrom size (_ ++ escape cs) = _
      cases known : entityName? c with
      | none =>
          obtain ⟨_, _, notReference, _⟩ := entityName?_eq_none known
          simp only [List.singleton_append]
          rw [unescapeFrom, if_neg (by simpa using notReference), ih]
          rfl
      | some name =>
          obtain ⟨taken, left⟩ :=
            span_entityName known (escape cs) continuesName_of_isNameChar (by decide)
          simp only [List.cons_append, List.append_assoc, List.nil_append]
          rw [unescapeFrom]
          simp only [beq_self_eq_true, if_true]
          split
          · next after shape =>
              rw [left] at shape
              cases shape
              rw [taken, resolveName_entityName known, ih]
              rfl
          · next other =>
              exact absurd left (other (escape cs))

/-- An attribute value is what was written, with every reference resolved. -/
theorem unescape_escape (value : String) :
    unescape (String.ofList (escape value.toList)) = .ok value := by
  rw [unescape, String.toList_ofList, unescapeFrom_escape]
  simp [Except.map]

/-- Nothing that ends a tag or a quoted value is left in escaped characters. -/
theorem not_mem_escape (cs : List Char) :
    '<' ∉ escape cs ∧ '>' ∉ escape cs ∧ '\x22' ∉ escape cs := by
  have each (c : Char) : '<' ∉ escapeChar c ∧ '>' ∉ escapeChar c ∧ '\x22' ∉ escapeChar c := by
    rw [escapeChar]
    cases known : entityName? c with
    | none =>
        obtain ⟨lt, gt, _, _, quot⟩ := entityName?_eq_none known
        simp [lt.symm, gt.symm, quot.symm]
    | some name =>
        unfold entityName? at known
        split at known <;> cases known <;> decide
  simp only [escape, List.mem_flatMap]
  refine ⟨?_, ?_, ?_⟩
  · rintro ⟨c, _, inside⟩
    exact (each c).1 inside
  · rintro ⟨c, _, inside⟩
    exact (each c).2.1 inside
  · rintro ⟨c, _, inside⟩
    exact (each c).2.2 inside

/-! ## Tags -/

/-- What a written tag says: a name, and slots for attributes of which those
without a value are left out. -/
structure Head where
  name : String
  slots : List (String × Option String) := []
  namePlain : isPlainName name := by decide
  keysPlain : ∀ slot ∈ slots, isPlainName slot.1 := by simp +decide
  distinct : (slots.map Prod.fst).Nodup := by simp

/-- An attribute as it stands in a tag. -/
def Attribute.write (item : Attribute) : List Char :=
  ' ' :: item.key.toList ++ '=' :: '\x22' :: item.value.toList ++ ['\x22']

/-- The attribute that fills a slot. -/
def filledSlot (slot : String × Option String) : Option Attribute :=
  slot.2.map fun value => ⟨slot.1, String.ofList (escape value.toList)⟩

/-- The attributes that are written, their values escaped. -/
def Head.attributes (head : Head) : List Attribute :=
  head.slots.filterMap filledSlot

/-- What stands between the brackets of the tag. -/
def Head.content (head : Head) : List Char :=
  head.name.toList ++ head.attributes.flatMap Attribute.write

/-- The tag that is read. -/
def Head.tag (head : Head) : Tag :=
  ⟨head.name, head.attributes.map .ok⟩

theorem isNameChar_of_isPlainName {name : String} (plain : isPlainName name) :
    ∀ c ∈ name.toList, isNameChar c := by
  simp only [isPlainName, Bool.and_eq_true, List.all_eq_true] at plain
  exact plain.2

/-- A name has a first character. -/
theorem exists_cons_of_isPlainName {name : String} (plain : isPlainName name) :
    ∃ first more, name.toList = first :: more ∧ isNameChar first := by
  have each := isNameChar_of_isPlainName plain
  cases shape : name.toList with
  | nil => simp [isPlainName, shape] at plain
  | cons first more => exact ⟨first, more, rfl, each first (by simp [shape])⟩

/-- A written attribute has a plain key, and no quote or bracket in its value. -/
theorem Head.attribute_wellFormed {head : Head} {item : Attribute}
    (member : item ∈ head.attributes) :
    isPlainName item.key ∧ '>' ∉ item.value.toList ∧ '\x22' ∉ item.value.toList := by
  obtain ⟨slot, inside, filled⟩ := List.mem_filterMap.1 member
  obtain ⟨value, _, rfl⟩ := Option.map_eq_some_iff.1 filled
  have plain := head.keysPlain slot inside
  have marks := not_mem_escape value.toList
  simpa using ⟨plain, marks.2⟩

theorem Head.nodup_keys (head : Head) : (head.attributes.map Attribute.key).Nodup := by
  have keys (slots : List (String × Option String)) :
      ((slots.filterMap filledSlot).map Attribute.key).Sublist (slots.map Prod.fst) := by
    induction slots with
    | nil => exact List.Sublist.refl _
    | cons slot slots ih =>
        obtain ⟨key, value⟩ := slot
        cases value with
        | none => exact ih.cons _
        | some value => exact ih.cons_cons _
  exact head.distinct.sublist (keys head.slots)

/-! ### Cutting a written tag -/

/-- Characters without a closing bracket are passed over, and only the quotes among
them count. -/
theorem cutTag_append {before : List Char} (unclosed : '>' ∉ before) (quote : Option Char)
    (rest : List Char) :
    cutTag quote (before ++ rest) =
      (cutTag (before.foldl quoteAfter quote) rest).map fun cut => (before ++ cut.1, cut.2) := by
  induction before generalizing quote with
  | nil => cases h : cutTag quote rest <;> simp [h, Except.map]
  | cons c before ih =>
      have here : c ≠ '>' := fun same => unclosed (by simp [same])
      rw [List.cons_append, cutTag, if_neg (by simp [here]),
        ih fun later => unclosed (by simp [later])]
      simp only [List.foldl_cons]
      cases cutTag (before.foldl quoteAfter (quoteAfter quote c)) rest <;> rfl

theorem foldl_quoteAfter_name {name : List Char} (plain : ∀ c ∈ name, isNameChar c) :
    name.foldl quoteAfter none = none := by
  induction name with
  | nil => rfl
  | cons c name ih =>
      have marks := not_mark_of_isNameChar (plain c List.mem_cons_self)
      have step : quoteAfter none c = none := by simp_all [quoteAfter, isQuote]
      rw [List.foldl_cons, step]
      exact ih fun c member => plain c (List.mem_cons_of_mem _ member)

theorem foldl_quoteAfter_value {value : List Char} (quote : Char) (inside : quote ∉ value) :
    value.foldl quoteAfter (some quote) = some quote := by
  induction value with
  | nil => rfl
  | cons c value ih =>
      have here : c ≠ quote := fun same => inside (by simp [same])
      have step : quoteAfter (some quote) c = some quote := by simp [quoteAfter, here]
      rw [List.foldl_cons, step]
      exact ih fun later => inside (List.mem_cons_of_mem _ later)

/-- What the characters of a tag have in common: none of them ends the tag, and
every quote is closed. -/
def Closed (cs : List Char) : Prop :=
  '>' ∉ cs ∧ cs.foldl quoteAfter none = none

theorem Closed.append {first second : List Char} (left : Closed first) (right : Closed second) :
    Closed (first ++ second) := by
  refine ⟨?_, ?_⟩
  · simpa using ⟨left.1, right.1⟩
  · rw [List.foldl_append, left.2, right.2]

theorem closed_of_isPlainName {name : String} (plain : isPlainName name) : Closed name.toList := by
  have each := isNameChar_of_isPlainName plain
  refine ⟨fun inside => ?_, foldl_quoteAfter_name each⟩
  exact not_mark_of_isNameChar (each '>' inside) (by decide)

theorem Head.closed_write {head : Head} {item : Attribute} (member : item ∈ head.attributes) :
    Closed item.write := by
  obtain ⟨plain, bracket, quote⟩ := attribute_wellFormed member
  have key := closed_of_isPlainName plain
  refine ⟨?_, ?_⟩
  · simp [Attribute.write, key.1, bracket]
  · have space : quoteAfter none ' ' = none := by decide
    have equals : quoteAfter none '=' = none := by decide
    have opening : quoteAfter none '\x22' = some '\x22' := by decide
    have closing : quoteAfter (some '\x22') '\x22' = none := by decide
    simp only [Attribute.write, List.cons_append, List.append_assoc, List.foldl_cons,
      List.foldl_append, List.foldl_nil, space, key.2, equals, opening,
      foldl_quoteAfter_value _ quote, closing]

theorem closed_flatMap {items : List Attribute} (each : ∀ item ∈ items, Closed item.write) :
    Closed (items.flatMap Attribute.write) := by
  induction items with
  | nil => exact ⟨by simp, rfl⟩
  | cons item items ih =>
      rw [List.flatMap_cons]
      exact (each item List.mem_cons_self).append
        (ih fun other inside => each other (List.mem_cons_of_mem _ inside))

theorem Head.closed_content (head : Head) : Closed head.content :=
  (closed_of_isPlainName head.namePlain).append (closed_flatMap fun _ => closed_write)

theorem cutTag_of_closed {content : List Char} (closed : Closed content) (rest : List Char) :
    cutTag none (content ++ '>' :: rest) = .ok (content, rest) := by
  rw [cutTag_append closed.1, closed.2]
  simp [cutTag, Except.map]

/-! ### Reading a written tag -/

theorem cutAt_singleton {mark : Char} {before : List Char} (absent : mark ∉ before)
    (rest : List Char) : cutAt [mark] (before ++ mark :: rest) = some (before, rest) := by
  induction before with
  | nil =>
      have leads : [mark].isPrefixOf? (mark :: rest) = some rest :=
        isPrefixOf?_eq_some_iff.2 rfl
      rw [List.nil_append, cutAt, leads]
  | cons c before ih =>
      have here : (mark == c) ≠ true := fun same => absent (by simp [eq_of_beq same])
      have later : [mark].isPrefixOf? (c :: (before ++ mark :: rest)) = none := if_neg here
      rw [List.cons_append, cutAt, later, ih fun inside => absent (List.mem_cons_of_mem _ inside)]
      rfl

/-- The next attribute is the one that was written first. -/
theorem nextAttribute_write {item : Attribute} (plain : isPlainName item.key)
    (quote : '\x22' ∉ item.value.toList) {seen : List (List Char × Nat)}
    (fresh : item.key.toList ∉ seen.map Prod.fst) (size : Nat) (rest : List Char) :
    nextAttribute size seen (item.write ++ rest) =
      .found item.key.toList item.value.toList
        (size - byteLength (item.write.tail ++ rest)) rest := by
  obtain ⟨first, more, shape, firstPlain⟩ := exists_cons_of_isPlainName plain
  have each := isNameChar_of_isPlainName plain
  have notSpace : isSpace first = false := by
    have := not_mark_of_isNameChar firstPlain
    simp_all [isSpace]
  have continues : ∀ c ∈ more, continuesKey c := by
    intro c member
    have := not_mark_of_isNameChar (each c (by simp [shape, member]))
    simp_all [continuesKey, isSpace]
  have unseen : seen.lookup item.key.toList = none :=
    Description.lookup_eq_none_of_not_mem fresh
  have blank : isSpace ' ' := by decide
  have equals : continuesKey '=' = false := by decide
  have equalsSpace : isSpace '=' = false := by decide
  have quoteSpace : isSpace '\x22' = false := by decide
  rw [shape] at unseen
  simp only [Attribute.write, List.tail_cons, shape, List.cons_append, List.append_assoc,
    List.nil_append,
    nextAttribute, List.dropWhile_cons, blank, notSpace, if_true, Bool.false_eq_true, if_false,
    List.dropWhile_append_of_pos continues, List.takeWhile_append_of_pos continues,
    List.takeWhile_cons, equals, equalsSpace, List.append_nil, unseen]
  simp only [readValue, List.dropWhile_cons, quoteSpace, Bool.false_eq_true, if_false, isQuote,
    beq_self_eq_true, Bool.true_or, if_true, cutAt_singleton quote]

/-- The attributes that are read are those that were written. -/
theorem attributesFrom_write {items : List Attribute}
    (wellFormed : ∀ item ∈ items, isPlainName item.key ∧ '\x22' ∉ item.value.toList)
    (distinct : (items.map Attribute.key).Nodup) (size : Nat) {seen : List (List Char × Nat)}
    (fresh : ∀ item ∈ items, item.key.toList ∉ seen.map Prod.fst) :
    attributesFrom size seen (items.flatMap Attribute.write) = items.map .ok := by
  induction items generalizing seen with
  | nil =>
      rw [List.flatMap_nil, attributesFrom]
      simp [nextAttribute]
  | cons item items ih =>
      obtain ⟨plain, quote⟩ := wellFormed item List.mem_cons_self
      have next := nextAttribute_write plain quote (fresh item List.mem_cons_self) size
        (items.flatMap Attribute.write)
      obtain ⟨notLater, others⟩ := List.nodup_cons.1 distinct
      rw [List.flatMap_cons, attributesFrom]
      split
      · next done => rw [next] at done; cases done
      · next failed => rw [next] at failed; cases failed
      · next found =>
          rw [next] at found
          cases found
          rw [ih (fun other inside => wellFormed other (List.mem_cons_of_mem _ inside)) others]
          · simp
          · intro other inside
            simp only [List.map_cons, List.mem_cons, not_or]
            refine ⟨fun same => notLater ?_, fresh other (List.mem_cons_of_mem _ inside)⟩
            exact List.mem_map.2 ⟨other, inside, String.toList_inj.1 same⟩

theorem Head.ofContent_content (head : Head) : Tag.ofContent head.content = head.tag := by
  have continues : ∀ c ∈ head.name.toList, !isSpace c := by
    intro c member
    have := not_mark_of_isNameChar (isNameChar_of_isPlainName head.namePlain c member)
    simp_all [isSpace]
  -- the first attribute starts with a blank, so the name ends before it
  have ends : (head.attributes.flatMap Attribute.write).takeWhile (fun c => !isSpace c) = [] ∧
      (head.attributes.flatMap Attribute.write).dropWhile (fun c => !isSpace c) =
        head.attributes.flatMap Attribute.write := by
    have blank : isSpace ' ' := by decide
    cases head.attributes <;> simp [Attribute.write, blank]
  have read : attributesFrom (byteLength head.content) []
      (head.attributes.flatMap Attribute.write) = head.attributes.map .ok :=
    attributesFrom_write
      (fun item inside => ⟨(attribute_wellFormed inside).1, (attribute_wellFormed inside).2.2⟩)
      head.nodup_keys _ (by simp)
  rw [Tag.ofContent, tag]
  congr 1
  · rw [content, List.takeWhile_append_of_pos continues, ends.1]
    simp
  · rw [← read, content, List.dropWhile_append_of_pos continues, ends.2]

theorem Head.content_eq_cons (head : Head) :
    ∃ first more, head.content = first :: more ∧ isNameChar first := by
  obtain ⟨first, more, shape, plain⟩ := exists_cons_of_isPlainName head.namePlain
  exact ⟨first, more ++ head.attributes.flatMap Attribute.write, by simp [content, shape], plain⟩

/-- A written tag is not taken for one without content. -/
theorem Head.getLast?_content_ne (head : Head) : head.content.getLast? ≠ some '/' := by
  rw [content, List.getLast?_append]
  cases shape : head.attributes.reverse with
  | nil =>
      rw [List.reverse_eq_nil_iff] at shape
      simp only [shape, List.flatMap_nil, List.getLast?_nil, Option.none_or, ne_eq]
      intro last
      have plain := isNameChar_of_isPlainName head.namePlain _ (List.mem_of_getLast? last)
      cases plain
  | cons item items =>
      rw [List.reverse_eq_cons_iff] at shape
      have last : item.write.getLast? = some '\x22' := List.getLast?_concat
      simp [shape, last]

theorem readMarkup_of_isNameChar {c : Char} (plain : isNameChar c) (cs : List Char) :
    readMarkup (c :: cs) = readTag (c :: cs) := by
  have marks := not_mark_of_isNameChar plain
  apply readMarkup_of_ne
  · exact fun same => marks (by simp [same])
  · exact fun same => marks (by simp [same])

theorem Lexeme.next_opening (head : Head) (rest : List Char) :
    Lexeme.next '<' (head.content ++ '>' :: rest) = .ok (.opening head.tag false, rest) := by
  obtain ⟨first, more, shape, plain⟩ := head.content_eq_cons
  have cut := cutTag_of_closed head.closed_content rest
  have notLast := head.getLast?_content_ne
  have tag := head.ofContent_content
  have notClosing : first ≠ '/' := fun same => not_mark_of_isNameChar plain (by simp [same])
  rw [shape] at cut notLast tag ⊢
  rw [List.cons_append] at cut ⊢
  rw [next, if_pos (by decide), readMarkup_of_isNameChar plain, readTag, cut]
  simp [notClosing, notLast, tag]

theorem Lexeme.next_empty (head : Head) (rest : List Char) :
    Lexeme.next '<' (head.content ++ '/' :: '>' :: rest) = .ok (.opening head.tag true, rest) := by
  obtain ⟨first, more, shape, plain⟩ := head.content_eq_cons
  have closed : Closed (head.content ++ ['/']) := head.closed_content.append ⟨by decide, by decide⟩
  have cut := cutTag_of_closed closed rest
  have tag := head.ofContent_content
  have notClosing : first ≠ '/' := fun same => not_mark_of_isNameChar plain (by simp [same])
  rw [shape] at cut tag ⊢
  simp only [List.cons_append, List.append_assoc, List.nil_append] at cut ⊢
  rw [next, if_pos (by decide), readMarkup_of_isNameChar plain, readTag, cut]
  have last : (first :: (more ++ ['/'])).getLast? = some '/' :=
    @List.getLast?_concat _ (first :: more) '/'
  have others : (first :: (more ++ ['/'])).dropLast = first :: more :=
    @List.dropLast_concat _ (first :: more) '/'
  simp [notClosing, last, others, tag]

theorem closingName_of_isPlainName {name : String} (plain : isPlainName name) :
    closingName name.toList = name.toList := by
  rw [closingName]
  cases shape : name.toList.reverse with
  | nil => rw [List.dropWhile_nil]
  | cons last others =>
      have member : last ∈ name.toList := by
        rw [← List.mem_reverse, shape]
        exact List.mem_cons_self
      have notSpace : isSpace last = false := by
        have := not_mark_of_isNameChar (isNameChar_of_isPlainName plain last member)
        simp_all [isSpace]
      rw [List.dropWhile_cons, notSpace]
      exact (List.reverse_eq_iff.1 shape).symm

theorem Lexeme.next_closing {name : String} (plain : isPlainName name) (rest : List Char) :
    Lexeme.next '<' ('/' :: name.toList ++ '>' :: rest) = .ok (.closing name, rest) := by
  have slash : Closed ['/'] := ⟨by decide, by decide⟩
  have closed : Closed ('/' :: name.toList) := slash.append (closed_of_isPlainName plain)
  have cut := cutTag_of_closed closed rest
  rw [List.cons_append] at cut ⊢
  change readTag ('/' :: (name.toList ++ '>' :: rest)) = _
  simp only [readTag, cut, closingName_of_isPlainName plain, String.ofList_toList]

/-! ## Text -/

/-- The event of a run of characters, if there are any. -/
def runEvents (run : List Char) : List Event :=
  if run.isEmpty then [] else [.text (String.ofList run)]

/-- The events of escaped text, given the characters since the last reference. -/
def textEvents (run : List Char) : List Char → List Event
  | [] => runEvents run
  | c :: cs =>
    match entityName? c with
    | some name => runEvents run ++ .reference (String.ofList name) :: textEvents [] cs
    | none => textEvents (run ++ [c]) cs

/-- A run of text ends where markup or a reference begins. -/
theorem eventsFrom_run {run : List Char} (plain : ∀ c ∈ run, entityName? c = none)
    (opened : List String) {mark : Char} (ends : continuesText mark = false) (rest : List Char) :
    eventsFrom opened (run ++ mark :: rest) =
      runEvents run ++ eventsFrom opened (mark :: rest) := by
  have continues : ∀ c ∈ run, continuesText c := by
    intro c member
    obtain ⟨lt, _, amp, _⟩ := entityName?_eq_none (plain c member)
    simp [continuesText, lt, amp]
  cases run with
  | nil => rfl
  | cons c cs =>
      have first := continues c List.mem_cons_self
      have others : ∀ c ∈ cs, continuesText c := fun c member =>
        continues c (List.mem_cons_of_mem _ member)
      have next : Lexeme.next c (cs ++ mark :: rest) =
          .ok (.text (String.ofList (c :: cs)), mark :: rest) := by
        rw [Lexeme.next_of_continuesText first, List.takeWhile_append_of_pos others,
          List.dropWhile_append_of_pos others]
        simp [ends]
      exact eventsFrom_of_step next rfl

theorem eventsFrom_reference {c : Char} {name : List Char} (known : entityName? c = some name)
    (opened : List String) (rest : List Char) :
    eventsFrom opened ('&' :: name ++ ';' :: rest) =
      .reference (String.ofList name) :: eventsFrom opened rest := by
  have continues : ∀ c, isNameChar c → (c != ';' && continuesText c) := by
    intro c plain
    have := not_mark_of_isNameChar plain
    simp_all [continuesText]
  obtain ⟨taken, left⟩ := span_entityName known rest continues (by decide)
  have next : Lexeme.next '&' (name ++ ';' :: rest) =
      .ok (.reference (String.ofList name), rest) := by
    rw [Lexeme.next, if_neg (by decide), if_pos (by decide), readReference]
    simp only [taken, left]
  exact eventsFrom_of_step next rfl

/-- Escaped text is read as its runs and references. -/
theorem eventsFrom_escape (cs : List Char) {run : List Char}
    (plain : ∀ c ∈ run, entityName? c = none) (opened : List String) (rest : List Char) :
    eventsFrom opened (run ++ escape cs ++ '<' :: rest) =
      textEvents run cs ++ eventsFrom opened ('<' :: rest) := by
  induction cs generalizing run with
  | nil =>
      rw [escape, List.flatMap_nil, List.append_nil]
      exact eventsFrom_run plain opened (by decide) rest
  | cons c cs ih =>
      rw [textEvents, escape, List.flatMap_cons, escapeChar]
      change eventsFrom opened (run ++ (_ ++ escape cs) ++ '<' :: rest) = _
      cases known : entityName? c with
      | some name =>
          have tail := @ih [] (by simp)
          simp only [List.cons_append, List.append_assoc, List.nil_append] at tail ⊢
          rw [eventsFrom_run plain opened (by decide), ← List.cons_append,
            eventsFrom_reference known, tail]
      | none =>
          have longer : ∀ other ∈ run ++ [c], entityName? other = none := by
            intro other member
            rcases List.mem_append.1 member with inside | new
            · exact plain other inside
            · rw [List.mem_singleton.1 new, known]
          have tail := ih longer
          simp only [List.append_assoc] at tail ⊢
          exact tail

/-! ## Elements -/

/-- An element with children, or one that holds text. -/
inductive Element
  | parent (head : Head) (children : List Element)
  | textual (head : Head) (content : String)

namespace Element

/-- What the element's tag says. -/
def head : Element → Head
  | parent head _ => head
  | textual head _ => head

/-- The end tag of an element. -/
def writeEnd (head : Head) : List Char :=
  '<' :: '/' :: head.name.toList ++ ['>']

mutual

/-- The characters of an element. -/
def write : Element → List Char
  | parent head children =>
    if children.isEmpty then '<' :: head.content ++ ['/', '>']
    else '<' :: head.content ++ '>' :: writeAll children ++ writeEnd head
  | textual head content =>
    '<' :: head.content ++ '>' :: escape content.toList ++ writeEnd head

/-- The characters of elements that follow each other. -/
def writeAll : List Element → List Char
  | [] => []
  | element :: elements => element.write ++ writeAll elements

end

/-- Whether the element is written as one tag. -/
def isEmpty : Element → Bool
  | parent _ children => children.isEmpty
  | textual _ _ => false

/-- The event of a written tag. -/
def opening (element : Element) : Event :=
  if element.isEmpty then .empty element.head.tag else .start element.head.tag

mutual

/-- The events of what stands between the tags of an element, and of its end tag. -/
def contentEvents : Element → List Event
  | parent head children =>
    if children.isEmpty then [] else eventsAll children ++ [.close head.name]
  | textual head content => textEvents [] content.toList ++ [.close head.name]

/-- The events of elements that follow each other. -/
def eventsAll : List Element → List Event
  | [] => []
  | element :: elements => element.opening :: element.contentEvents ++ eventsAll elements

end

theorem eventsAll_append (first second : List Element) :
    eventsAll (first ++ second) = eventsAll first ++ eventsAll second := by
  induction first with
  | nil => rfl
  | cons element first ih => simp [eventsAll, ih]

theorem eventsFrom_writeEnd (head : Head) (opened : List String) (rest : List Char) :
    eventsFrom (head.name :: opened) (writeEnd head ++ rest) =
      .close head.name :: eventsFrom opened rest := by
  have next := Lexeme.next_closing head.namePlain rest
  rw [writeEnd, List.append_assoc]
  exact eventsFrom_of_step next (by simp [Lexeme.step])

mutual

/-- A written element is read as its own events, wherever it stands. -/
theorem eventsFrom_write (element : Element) (opened : List String) (rest : List Char) :
    eventsFrom opened (element.write ++ rest) =
      element.opening :: element.contentEvents ++ eventsFrom opened rest := by
  cases element with
  | parent head children =>
      have inner := eventsFrom_writeAll children (head.name :: opened) (writeEnd head ++ rest)
      cases empty : children.isEmpty with
      | true =>
          have step : eventsFrom opened _ = _ :=
            eventsFrom_of_step (Lexeme.next_empty head rest) rfl
          simpa [write, opening, isEmpty, empty, contentEvents, Element.head] using step
      | false =>
          have step : eventsFrom opened _ = _ := eventsFrom_of_step
            (Lexeme.next_opening head (writeAll children ++ (writeEnd head ++ rest))) rfl
          simp only [Head.tag, inner, eventsFrom_writeEnd] at step
          simpa [write, opening, isEmpty, empty, contentEvents, Element.head, Head.tag] using step
  | textual head content =>
      have inner : eventsFrom (head.name :: opened) (escape content.toList ++ _) = _ :=
        eventsFrom_escape content.toList (List.forall_mem_nil _) (head.name :: opened)
          ('/' :: head.name.toList ++ '>' :: rest)
      have ending := eventsFrom_writeEnd head opened rest
      have step : eventsFrom opened _ = _ := eventsFrom_of_step
        (Lexeme.next_opening head (escape content.toList ++ (writeEnd head ++ rest))) rfl
      simp only [writeEnd, List.cons_append, List.append_assoc, List.nil_append]
        at inner ending step
      simp only [Head.tag, inner, ending] at step
      simpa [write, opening, isEmpty, contentEvents, Element.head, Head.tag, writeEnd] using step

theorem eventsFrom_writeAll (elements : List Element) (opened : List String) (rest : List Char) :
    eventsFrom opened (writeAll elements ++ rest) =
      eventsAll elements ++ eventsFrom opened rest := by
  cases elements with
  | nil => rfl
  | cons element elements =>
      rw [writeAll, List.append_assoc, eventsFrom_write element, eventsFrom_writeAll elements,
        eventsAll, List.append_assoc]

end

end Element

end ApiHeader.Markup
