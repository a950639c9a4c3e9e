/-
# Ways to write a text

The text of an element can be written in many ways: as it is, in sections of literal text, by
references to entities and to code points, and with comments, instructions and elements
between its parts or around them. A relation says what is written and which text it stands
for. Reading follows the relation one part at a time: each part puts its own characters in
front of the text of whatever comes next, at any depth and whatever that is. Nothing but a
run of plain characters can grow together with what follows it, and there no character is
lost either.
-/

import ApiHeader.Proofs.Consumption
import ApiHeader.Proofs.Insertion
import ApiHeader.Proofs.Numerals
import ApiHeader.Proofs.RoundTrip

namespace ApiHeader.Description

open ApiHeader.Markup ApiHeader.Text

/-! ## Writings -/

/-- Characters that are written as they are. -/
def IsPlainText (cs : List Char) : Prop :=
  ∀ c ∈ cs, c ≠ '\r' ∧ c ≠ '<' ∧ c ≠ '&'

/-- The name in a reference and the character that it stands for: one of the entities that are
known everywhere, or a code point. -/
inductive Refers : List Char → Char → Prop
  | entity {c : Char} {name : List Char} (known : entityName? c = some name) : Refers name c
  | decimal {c : Char} {digits : List Char} (point : Numeral 10 digits c.toNat)
      (notNull : c.toNat ≠ 0) : Refers ('#' :: digits) c
  | hexadecimal {c : Char} {digits : List Char} (point : Numeral 16 digits c.toNat)
      (notNull : c.toNat ≠ 0) : Refers ('#' :: 'x' :: digits) c

/-- The content of an element and the text that it stands for. Tags are given by how they are
read, so they may hold blanks and attributes of any kind. -/
inductive Writes : List Char → List Char → Prop
  | nil : Writes [] []
  | plain {cs written text : List Char} (plain : IsPlainText cs) (others : Writes written text) :
      Writes (cs ++ written) (cs ++ text)
  | cdata {cs written text : List Char} (unbroken : '\r' ∉ cs)
      (unclosed : ¬ [']', ']', '>'] <:+: cs) (others : Writes written text) :
      Writes ("<![CDATA[".toList ++ (cs ++ ([']', ']', '>'] ++ written))) (cs ++ text)
  | reference {c : Char} {name written text : List Char} (refers : Refers name c)
      (others : Writes written text) : Writes ('&' :: (name ++ ';' :: written)) (c :: text)
  | comment {cs written text : List Char} (unclosed : ¬ ['-', '-', '>'] <:+: cs)
      (others : Writes written text) :
      Writes ("<!--".toList ++ (cs ++ (['-', '-', '>'] ++ written))) text
  | instruction {cs written text : List Char} (unclosed : ¬ ['?', '>'] <:+: '?' :: cs)
      (others : Writes written text) : Writes ("<?".toList ++ (cs ++ (['?', '>'] ++ written))) text
  | empty {single written text : List Char} {tag : Tag}
      (isSingle : eventsFrom [] single = [.empty tag]) (others : Writes written text) :
      Writes (single ++ written) text
  | element {start inner stop written innerText text : List Char} {tag : Tag}
      (isStart : eventsFrom [] start = [.start tag])
      (isStop : eventsFrom [tag.name] stop = [.close tag.name]) (content : Writes inner innerText)
      (others : Writes written text) :
      Writes (start ++ (inner ++ (stop ++ written))) (innerText ++ text)

/-! ## Reading one part -/

/-- A mark whose last character stands nowhere else in it does not begin before itself. -/
theorem not_leads {init cs rest left : List Char} {last : Char} (single : last ∉ init)
    (absent : ¬ init ++ [last] <:+: cs) (nonempty : cs ≠ []) :
    init ++ [last] ++ left ≠ cs ++ (init ++ [last] ++ rest) := by
  intro same
  rw [List.append_assoc] at same
  rcases List.append_eq_append_iff.1 same with ⟨more, rfl, shape⟩ | ⟨more, rfl, shape⟩
  · -- the mark ends within the characters, or right behind them with the mark's first one
    cases more with
    | nil =>
        cases init with
        | nil => simp at nonempty
        | cons c init =>
            have first : last = c := (List.cons.inj shape).1
            exact single (first ▸ List.mem_cons_self)
    | cons c more =>
        obtain ⟨rfl, _⟩ := List.cons.inj shape
        exact absent ⟨[], more, by simp⟩
  · -- it ends within itself, so its last character is among the others
    have bound : more.length < (cs ++ more).length := by
      have := List.length_pos_iff.2 nonempty
      simp only [List.length_append]
      omega
    have here := congrArg (fun list => list[more.length]?) shape
    simp only [List.append_assoc (cs ++ more), List.getElem?_append_left bound] at here
    rw [List.getElem?_append_right (Nat.le_refl _), Nat.sub_self] at here
    exact single (List.mem_of_getElem? here)

/-- A mark is found behind characters that do not hold it, if its last character stands nowhere
else in it. -/
theorem cutAt_of_not_infix (init : List Char) {cs : List Char} {last : Char} (single : last ∉ init)
    (absent : ¬ init ++ [last] <:+: cs) (rest : List Char) :
    cutAt (init ++ [last]) (cs ++ (init ++ [last] ++ rest)) = some (cs, rest) := by
  induction cs with
  | nil =>
      have found : (init ++ [last]).isPrefixOf? (init ++ [last] ++ rest) = some rest :=
        isPrefixOf?_eq_some_iff.2 rfl
      rw [List.nil_append, cutAt.eq_def, found]
  | cons c cs ih =>
      have later : (init ++ [last]).isPrefixOf? (c :: (cs ++ (init ++ [last] ++ rest))) = none := by
        cases found : (init ++ [last]).isPrefixOf? (c :: (cs ++ (init ++ [last] ++ rest))) with
        | none => rfl
        | some left =>
            rw [isPrefixOf?_eq_some_iff, ← List.cons_append] at found
            exact absurd found.symm (not_leads single absent (List.cons_ne_nil c cs))
      have tail : ¬ init ++ [last] <:+: cs := fun inside => absent (List.infix_cons inside)
      rw [List.cons_append, cutAt, later, ih tail]
      rfl

theorem readPoint_of_numeral {radix : Nat} {c : Char} {digits : List Char} (positive : 0 < radix)
    (small : radix ≤ 16) (point : Numeral radix digits c.toNat) :
    readPoint radix digits = .ok c.toNat := by
  have below : c.toNat < UInt32.size := c.val.toNat_lt
  have read := (readNumeral_eq_ok_iff positive small (by decide)).2 ⟨point, below⟩
  have figures := point.isSome_digitValue? small
  unfold readPoint
  split
  · exact absurd (figures '+' List.mem_cons_self) nofun
  · exact absurd (figures '-' List.mem_cons_self) nofun
  · rw [read]
    rfl

/-- The number of a character is read as the character. -/
theorem readPoint_scalar {radix : Nat} {c : Char} {digits : List Char} (positive : 0 < radix)
    (small : radix ≤ 16) (point : Numeral radix digits c.toNat) (notNull : c.toNat ≠ 0) :
    (readPoint radix digits >>= fun number =>
      if number = 0 then .error .null
      else if h : number.isValidChar then .ok (Char.ofNatAux number h)
      else .error (.notScalar number)) = Except.ok c := by
  have valid : c.toNat.isValidChar := c.valid
  rw [readPoint_of_numeral positive small point]
  change (if c.toNat = 0 then _ else _) = _
  rw [if_neg notNull, dif_pos valid]
  rfl

/-- A reference stands for its character. -/
theorem Refers.resolveInText {name : List Char} {c : Char} (refers : Refers name c) :
    resolveInText (String.ofList name) = .ok c := by
  have numbered {cs : List Char} (known : readCharacter cs = .ok c) :
      Description.resolveInText (String.ofList ('#' :: cs)) = .ok c := by
    rw [Description.resolveInText, String.toList_ofList]
    simp only [known]
    rfl
  cases refers with
  | entity known =>
      unfold entityName? at known
      split at known <;> cases known <;> rfl
  | decimal point notNull =>
      apply numbered
      have known := readPoint_scalar (by decide) (by decide) point notNull
      unfold readCharacter
      -- Both ways to read the digits go on alike, and only the digits are to be split.
      extract_lets next
      split
      · exact absurd (point.isSome_digitValue? (by decide) 'x' List.mem_cons_self) (by decide)
      · exact known
  | hexadecimal point notNull =>
      apply numbered
      exact readPoint_scalar (by decide) (by decide) point notNull

/-- The name in a reference does not end it. -/
theorem Refers.continues {name : List Char} {c : Char} (refers : Refers name c) :
    ∀ c ∈ name, c != ';' && continuesText c := by
  have digit {radix number : Nat} {digits : List Char} (small : radix ≤ 16)
      (numeral : Numeral radix digits number) : ∀ c ∈ digits, c != ';' && continuesText c := by
    intro c inside
    have figure := numeral.isSome_digitValue? small c inside
    have other : c ≠ ';' ∧ c ≠ '<' ∧ c ≠ '&' := by
      refine ⟨?_, ?_, ?_⟩
      all_goals
        rintro rfl
        exact absurd figure nofun
    simp [continuesText, other]
  cases refers with
  | entity known =>
      unfold entityName? at known
      split at known <;> cases known <;> exact List.all_eq_true.1 rfl
  | decimal point => exact List.forall_mem_cons.2 ⟨rfl, digit (by decide) point⟩
  | hexadecimal point =>
      exact List.forall_mem_cons.2 ⟨rfl, List.forall_mem_cons.2 ⟨rfl, digit (by decide) point⟩⟩

theorem Refers.textFrom_append {name : List Char} {c : Char} (refers : Refers name c)
    (depth : Nat) (opened : List String) (rest : List Char) :
    textFrom depth (eventsFrom opened ('&' :: (name ++ ';' :: rest))) =
      inFrontOf (.ok [c]) (textFrom depth (eventsFrom opened rest)) := by
  have next : Lexeme.next '&' (name ++ ';' :: rest) =
      .ok (.reference (String.ofList name), rest) := by
    rw [Lexeme.next, if_neg (by decide), if_pos (by decide), readReference]
    simp [List.takeWhile_append_of_pos refers.continues,
      List.dropWhile_append_of_pos refers.continues]
  rw [eventsFrom_of_step next rfl, textFrom, refers.resolveInText]
  cases textFrom depth (eventsFrom opened rest) <;> rfl

theorem textFrom_cdata (content : String) (depth : Nat) (rest : List Event) :
    textFrom depth (.cdata content :: rest) =
      inFrontOf (.ok (unifyLineEnds content.toList)) (textFrom depth rest) := by
  rw [textFrom]
  cases textFrom depth rest <;> rfl

/-! ## Reading runs -/

theorem unifyLineEnds_cons {c : Char} (notReturn : c ≠ '\r') (cs : List Char) :
    unifyLineEnds (c :: cs) = c :: unifyLineEnds cs := by
  rw [unifyLineEnds]
  · exact fun _ same _ => notReturn same
  · exact notReturn

/-- A plain character comes before the text of what follows, also where the two are read as
one run. -/
theorem textFrom_plain {c : Char} (notReturn : c ≠ '\r') (goesOn : continuesText c)
    (depth : Nat) (opened : List String) (rest : List Char) :
    textFrom depth (eventsFrom opened (c :: rest)) =
      inFrontOf (.ok [c]) (textFrom depth (eventsFrom opened rest)) := by
  rw [eventsFrom_of_step (Lexeme.next_of_continuesText goesOn rest) rfl, textFrom,
    String.toList_ofList, unifyLineEnds_cons notReturn]
  cases rest with
  | nil =>
      rw [List.takeWhile_nil, List.dropWhile_nil, eventsFrom_nil]
      rfl
  | cons d rest =>
      by_cases continued : continuesText d
      · rw [eventsFrom_of_step (Lexeme.next_of_continuesText continued rest) rfl, textFrom,
          String.toList_ofList, List.takeWhile_cons_of_pos continued,
          List.dropWhile_cons_of_pos continued]
        cases textFrom depth (eventsFrom opened (rest.dropWhile continuesText)) <;> rfl
      · rw [List.takeWhile_cons_of_neg continued, List.dropWhile_cons_of_neg continued]
        cases textFrom depth (eventsFrom opened (d :: rest)) <;> rfl

theorem textFrom_run {cs : List Char} (plain : IsPlainText cs) (depth : Nat)
    (opened : List String) (rest : List Char) :
    textFrom depth (eventsFrom opened (cs ++ rest)) =
      inFrontOf (.ok cs) (textFrom depth (eventsFrom opened rest)) := by
  induction cs with
  | nil => rw [List.nil_append, inFrontOf_nil]
  | cons c cs ih =>
      obtain ⟨⟨notReturn, notMarkup, notReference⟩, others⟩ := List.forall_mem_cons.1 plain
      have goesOn : continuesText c := by simp [continuesText, notMarkup, notReference]
      rw [List.cons_append, textFrom_plain notReturn goesOn, ih others, inFrontOf_inFrontOf]
      rfl

/-! ## Reading sections, comments and instructions -/

theorem eventsFrom_cdata {cs : List Char} (unclosed : ¬ [']', ']', '>'] <:+: cs)
    (opened : List String) (rest : List Char) :
    eventsFrom opened ("<![CDATA[".toList ++ (cs ++ ([']', ']', '>'] ++ rest))) =
      .cdata (String.ofList cs) :: eventsFrom opened rest := by
  have cut : cutAt [']', ']', '>'] (cs ++ ([']', ']', '>'] ++ rest)) = some (cs, rest) :=
    cutAt_of_not_infix [']', ']'] (by decide) unclosed rest
  have next : Lexeme.next '<' ("![CDATA[".toList ++ (cs ++ ([']', ']', '>'] ++ rest))) =
      .ok (.cdata (String.ofList cs), rest) := by
    change readCdata ("[CDATA[".toList ++ (cs ++ ([']', ']', '>'] ++ rest))) = _
    have mark : "]]>".toList = [']', ']', '>'] := rfl
    rw [readCdata, isPrefixOf?_eq_some_iff.2 rfl, Option.bind_some, mark, cut]
  exact eventsFrom_of_step next rfl

theorem eventsFrom_comment {cs : List Char} (unclosed : ¬ ['-', '-', '>'] <:+: cs)
    (opened : List String) (rest : List Char) :
    eventsFrom opened ("<!--".toList ++ (cs ++ (['-', '-', '>'] ++ rest))) =
      .aside :: eventsFrom opened rest := by
  have cut : cutAt ['-', '-', '>'] (cs ++ (['-', '-', '>'] ++ rest)) = some (cs, rest) :=
    cutAt_of_not_infix ['-', '-'] (by decide) unclosed rest
  have next : Lexeme.next '<' ("!--".toList ++ (cs ++ (['-', '-', '>'] ++ rest))) =
      .ok (.aside, rest) := by
    change readComment (['-', '-'] ++ (cs ++ (['-', '-', '>'] ++ rest))) = _
    rw [readComment, isPrefixOf?_eq_some_iff.2 rfl, Option.bind_some, cut]
  exact eventsFrom_of_step next rfl

theorem eventsFrom_instruction {cs : List Char} (unclosed : ¬ ['?', '>'] <:+: '?' :: cs)
    (opened : List String) (rest : List Char) :
    eventsFrom opened ("<?".toList ++ (cs ++ (['?', '>'] ++ rest))) =
      .aside :: eventsFrom opened rest := by
  have cut : cutAt ['?', '>'] ('?' :: (cs ++ (['?', '>'] ++ rest))) = some ('?' :: cs, rest) :=
    cutAt_of_not_infix ['?'] (by decide) unclosed rest
  have next : Lexeme.next '<' ('?' :: (cs ++ (['?', '>'] ++ rest))) = .ok (.aside, rest) := by
    change readInstruction _ = _
    rw [readInstruction, cut]
  exact eventsFrom_of_step next rfl

/-! ## Reading a writing -/

/-- A writing puts its text in front of the text of what follows it. -/
theorem Writes.textFrom_append {written text : List Char} (writes : Writes written text)
    (depth : Nat) (opened : List String) (more : List Char) :
    textFrom depth (eventsFrom opened (written ++ more)) =
      inFrontOf (.ok text) (textFrom depth (eventsFrom opened more)) := by
  induction writes generalizing depth opened more with
  | nil => rw [List.nil_append, inFrontOf_nil]
  | plain plain others ih =>
      rw [List.append_assoc, textFrom_run plain, ih, inFrontOf_inFrontOf]
      rfl
  | cdata unbroken unclosed others ih =>
      simp only [List.append_assoc]
      rw [eventsFrom_cdata unclosed, textFrom_cdata, String.toList_ofList,
        unifyLineEnds_of_not_mem unbroken, ih, inFrontOf_inFrontOf]
      rfl
  | reference refers others ih =>
      rw [List.cons_append, List.append_assoc, List.cons_append, refers.textFrom_append, ih,
        inFrontOf_inFrontOf]
      rfl
  | comment unclosed others ih =>
      simp only [List.append_assoc]
      rw [eventsFrom_comment unclosed]
      exact ih depth opened more
  | instruction unclosed others ih =>
      simp only [List.append_assoc]
      rw [eventsFrom_instruction unclosed]
      exact ih depth opened more
  | @empty single written text tag isSingle others ih =>
      have read : eventsFrom opened (single ++ (written ++ more)) =
          .empty tag :: eventsFrom opened (written ++ more) :=
        eventsFrom_of_single isSingle rfl rfl opened _
      rw [List.append_assoc, read]
      exact ih depth opened more
  | @element start inner stop written innerText text tag isStart isStop content others ihContent
      ihOthers =>
      have startRead : eventsFrom opened (start ++ (inner ++ (stop ++ (written ++ more)))) =
          .start tag :: eventsFrom (tag.name :: opened) (inner ++ (stop ++ (written ++ more))) :=
        eventsFrom_of_single isStart rfl rfl opened _
      have closes : openAfter [tag.name] [.close tag.name] = some [] := by simp [openAfter]
      have stopRead : eventsFrom (tag.name :: opened) (stop ++ (written ++ more)) =
          .close tag.name :: eventsFrom opened (written ++ more) :=
        eventsFrom_of_single isStop closes rfl opened _
      simp only [List.append_assoc]
      rw [startRead, textFrom, ihContent, stopRead, textFrom, ihOthers, inFrontOf_inFrontOf]
      rfl

end ApiHeader.Description
