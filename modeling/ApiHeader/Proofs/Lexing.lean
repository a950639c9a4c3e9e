/-
# Lexing one step at a time

A document is read lexeme by lexeme, and all that a lexeme depends on besides its
own characters is the list of open elements. Where a lexeme ends is decided by its
own characters: what follows it does not change it. Text is the one exception, for
it goes on until markup or a reference begins; a text at the end of the input may
still grow. So characters that are read without a fault are a list of events and a
run of text that has not ended, whatever comes next.
-/

import ApiHeader.Markup.Event
import Mathlib.Data.List.TakeWhile

namespace ApiHeader.Markup

/-! ## One step -/

/-- The event of a lexeme and the elements that are open after it. -/
def Lexeme.step (opened : List String) : Lexeme → Except Fault (Event × List String)
  | .text content => .ok (.text content, opened)
  | .cdata content => .ok (.cdata content, opened)
  | .reference name => .ok (.reference name, opened)
  | .aside => .ok (.aside, opened)
  | .opening tag true => .ok (.empty tag, opened)
  | .opening tag false => .ok (.start tag, tag.name :: opened)
  | .closing found =>
    match opened with
    | [] => .error (.unmatchedEnd found)
    | expected :: outer =>
      if expected = found then .ok (.close found, outer)
      else .error (.mismatchedEnd expected found)

theorem eventsFrom_nil (opened : List String) : eventsFrom opened [] = [] := by
  rw [eventsFrom]

/-- Reading goes on after a lexeme that suits the open elements. -/
theorem eventsFrom_of_step {opened opened' : List String} {c : Char} {cs rest : List Char}
    {lexeme : Lexeme} {event : Event} (next : Lexeme.next c cs = .ok (lexeme, rest))
    (step : lexeme.step opened = .ok (event, opened')) :
    eventsFrom opened (c :: cs) = event :: eventsFrom opened' rest := by
  rw [eventsFrom]
  split
  · next failed => rw [next] at failed; cases failed
  · next found =>
      rw [next] at found
      cases found
      cases lexeme with
      | closing name =>
          cases opened with
          | nil => cases step
          | cons expected outer =>
              by_cases same : expected = name
              · simp only [Lexeme.step, same, if_true] at step
                cases step
                simp only [same, if_true]
              · simp [Lexeme.step, same] at step
      | opening tag selfClosing => cases selfClosing <;> cases step <;> rfl
      | text content => cases step; rfl
      | cdata content => cases step; rfl
      | reference name => cases step; rfl
      | aside => cases step; rfl

/-- Reading ends with a fault at a lexeme that does not suit the open elements. -/
theorem eventsFrom_of_step_error {opened : List String} {c : Char} {cs rest : List Char}
    {lexeme : Lexeme} {cause : Fault} (next : Lexeme.next c cs = .ok (lexeme, rest))
    (step : lexeme.step opened = .error cause) : eventsFrom opened (c :: cs) = [.fault cause] := by
  rw [eventsFrom]
  split
  · next failed => rw [next] at failed; cases failed
  · next found =>
      rw [next] at found
      cases found
      cases lexeme with
      | closing name =>
          cases opened with
          | nil => cases step; rfl
          | cons expected outer =>
              by_cases same : expected = name
              · simp [Lexeme.step, same] at step
              · simp only [Lexeme.step, same, if_false] at step
                cases step
                simp only [same, if_false]
      | opening tag selfClosing => cases selfClosing <;> cases step
      | text content => cases step
      | cdata content => cases step
      | reference name => cases step
      | aside => cases step

theorem eventsFrom_of_next_error (opened : List String) {c : Char} {cs : List Char} {cause : Fault}
    (next : Lexeme.next c cs = .error cause) : eventsFrom opened (c :: cs) = [.fault cause] := by
  rw [eventsFrom]
  split
  · next failed => rw [next] at failed; cases failed; rfl
  · next found => rw [next] at found; cases found

/-- Elements further out do not matter to a lexeme that suits the inner ones. -/
theorem Lexeme.step_append {opened inner : List String} {lexeme : Lexeme} {event : Event}
    (step : lexeme.step opened = .ok (event, inner)) (outer : List String) :
    lexeme.step (opened ++ outer) = .ok (event, inner ++ outer) := by
  cases lexeme with
  | closing name =>
      cases opened with
      | nil => cases step
      | cons expected rest =>
          by_cases same : expected = name
          · simp only [Lexeme.step, same, if_true, Except.ok.injEq, Prod.mk.injEq] at step
            simp [Lexeme.step, same, step]
          · simp [Lexeme.step, same] at step
  | opening tag selfClosing => cases selfClosing <;> cases step <;> rfl
  | text content => cases step; rfl
  | cdata content => cases step; rfl
  | reference name => cases step; rfl
  | aside => cases step; rfl

/-- The mark that may lead a document belongs to its beginning. -/
theorem exists_events_append {before : String} (nonempty : before ≠ "") :
    ∃ cs, events before = eventsFrom [] cs ∧
      ∀ more : String, events (before ++ more) = eventsFrom [] (cs ++ more.toList) := by
  cases shape : before.toList with
  | nil => exact absurd (String.toList_eq_nil_iff.1 shape) nonempty
  | cons c cs =>
      by_cases mark : c == byteOrderMark
      · refine ⟨cs, ?_, fun more => ?_⟩ <;>
          simp [events, String.toList_append, shape, mark]
      · refine ⟨c :: cs, ?_, fun more => ?_⟩ <;>
          simp [events, String.toList_append, shape, mark]

/-! ## What follows does not matter -/

section More

variable {mark cs rest : List Char}

theorem isPrefixOf?_eq_some_iff : mark.isPrefixOf? cs = some rest ↔ cs = mark ++ rest := by
  refine ⟨eq_append_of_isPrefixOf?, fun shape => ?_⟩
  subst shape
  induction mark with
  | nil => rfl
  | cons m mark ih => exact (if_pos (beq_self_eq_true m)).trans ih

/-- Whether a mark leads the characters is settled by so many of them, or by one of
them that the mark does not hold. -/
def Settled (mark cs : List Char) : Prop :=
  mark.length ≤ cs.length ∨ ∃ c ∈ cs, c ∉ mark

theorem Settled.prefix_iff (settled : Settled mark cs) (more : List Char) :
    mark <+: cs ++ more ↔ mark <+: cs := by
  refine ⟨fun leads => ?_, fun leads => leads.trans (List.prefix_append cs more)⟩
  by_cases long : mark.length ≤ cs.length
  · exact List.prefix_of_prefix_length_le leads (List.prefix_append cs more) long
  · obtain ⟨c, inside, outside⟩ := settled.resolve_left long
    have short : cs <+: mark :=
      List.prefix_of_prefix_length_le (List.prefix_append cs more) leads (by omega)
    exact absurd (short.subset inside) outside

theorem Settled.isPrefixOf?_append (settled : Settled mark cs) (more : List Char) :
    mark.isPrefixOf? (cs ++ more) = (mark.isPrefixOf? cs).map (· ++ more) := by
  cases found : mark.isPrefixOf? cs with
  | some rest =>
      rw [isPrefixOf?_eq_some_iff] at found
      rw [Option.map_some, isPrefixOf?_eq_some_iff, found, List.append_assoc]
  | none =>
      cases later : mark.isPrefixOf? (cs ++ more) with
      | none => rfl
      | some rest =>
          rw [isPrefixOf?_eq_some_iff] at later
          obtain ⟨tail, shape⟩ := (settled.prefix_iff more).1 ⟨rest, later.symm⟩
          rw [isPrefixOf?_eq_some_iff.2 shape.symm] at found
          cases found

theorem Settled.isPrefixOf_append (settled : Settled mark cs) (more : List Char) :
    mark.isPrefixOf (cs ++ more) = mark.isPrefixOf cs := by
  rw [Bool.eq_iff_iff, List.isPrefixOf_iff_prefix, List.isPrefixOf_iff_prefix]
  exact settled.prefix_iff more

theorem isPrefixOf?_append_of_some (h : mark.isPrefixOf? cs = some rest) (more : List Char) :
    mark.isPrefixOf? (cs ++ more) = some (rest ++ more) := by
  rw [isPrefixOf?_eq_some_iff] at h ⊢
  rw [h, List.append_assoc]

theorem cutAt_append_of_some {before : List Char} (h : cutAt mark cs = some (before, rest))
    (more : List Char) : cutAt mark (cs ++ more) = some (before, rest ++ more) := by
  induction cs generalizing before with
  | nil =>
      have empty := eq_append_of_cutAt h
      simp only [List.nil_eq, List.append_eq_nil_iff] at empty
      obtain ⟨⟨rfl, rfl⟩, rfl⟩ := empty
      cases more <;> rfl
  | cons c cs ih =>
      have long := length_of_cutAt h
      have settled : Settled mark (c :: cs) := .inl (by omega)
      rw [cutAt] at h
      rw [List.cons_append, cutAt, ← List.cons_append, settled.isPrefixOf?_append more]
      cases found : mark.isPrefixOf? (c :: cs) with
      | some tail =>
          rw [found] at h
          cases h
          rfl
      | none =>
          rw [found] at h
          obtain ⟨cut, later, same⟩ := Option.map_eq_some_iff.1 h
          cases same
          simp only [Option.map_none]
          rw [ih later]
          rfl

theorem cutTag_append_of_ok {quote : Option Char} {content : List Char}
    (h : cutTag quote cs = .ok (content, rest)) (more : List Char) :
    cutTag quote (cs ++ more) = .ok (content, rest ++ more) := by
  induction cs generalizing quote content with
  | nil => cases h
  | cons c cs ih =>
      rw [cutTag] at h
      rw [List.cons_append, cutTag]
      split at h
      · next closes =>
          cases h
          rw [if_pos closes]
      · next goesOn =>
          rw [if_neg goesOn]
          cases later : cutTag (quoteAfter quote c) cs with
          | error left => rw [later] at h; cases h
          | ok cut =>
              rw [later] at h
              cases h
              rw [ih later]
              rfl

theorem after?_append_of_some (h : after? mark cs = some rest) (more : List Char) :
    after? mark (cs ++ more) = some (rest ++ more) := by
  obtain ⟨⟨before, tail⟩, found, rfl⟩ := Option.map_eq_some_iff.1 h
  rw [after?, cutAt_append_of_some found]
  rfl

theorem mem_of_after? (h : after? mark cs = some rest) {c : Char} (inside : c ∈ mark) : c ∈ cs := by
  obtain ⟨⟨before, tail⟩, found, _⟩ := Option.map_eq_some_iff.1 h
  rw [eq_append_of_cutAt found]
  simp [inside]

/-- A declaration ends with a bracket. -/
theorem mem_of_afterDeclaration? (h : afterDeclaration? cs = some rest) : '>' ∈ cs := by
  rw [afterDeclaration?] at h
  split at h
  · next body shape =>
      rw [eq_append_of_isPrefixOf? shape]
      exact List.mem_append_right _ (mem_of_after? h (by decide))
  · split at h
    · next body shape =>
        rw [eq_append_of_isPrefixOf? shape]
        exact List.mem_append_right _ (mem_of_after? h (by decide))
    · split at h
      · cases found : cutTag none cs with
        | error left => rw [found] at h; cases h
        | ok cut =>
            rw [eq_append_of_cutTag found]
            simp
      · exact mem_of_after? h (by decide)

theorem afterDeclaration?_append_of_some (h : afterDeclaration? cs = some rest)
    (more : List Char) : afterDeclaration? (cs ++ more) = some (rest ++ more) := by
  have bracket := mem_of_afterDeclaration? h
  have settled {mark : List Char} (free : '>' ∉ mark) : Settled mark cs := .inr ⟨'>', bracket, free⟩
  rw [afterDeclaration?] at h ⊢
  rw [(settled (by decide)).isPrefixOf?_append, (settled (by decide)).isPrefixOf?_append,
    (settled (by decide)).isPrefixOf_append, (settled (by decide)).isPrefixOf_append,
    (settled (by decide)).isPrefixOf_append]
  split at h
  · next body shape =>
      rw [shape]
      exact after?_append_of_some h more
  · next noComment =>
      split at h
      · next body shape =>
          rw [Option.eq_none_iff_forall_ne_some.2 noComment, shape]
          exact after?_append_of_some h more
      · next noInstruction =>
          rw [Option.eq_none_iff_forall_ne_some.2 noComment,
            Option.eq_none_iff_forall_ne_some.2 noInstruction]
          split at h
          · next quoting =>
              cases found : cutTag none cs with
              | error left => rw [found] at h; cases h
              | ok cut =>
                  rw [found] at h
                  cases h
                  simp only [Option.map_none, if_pos quoting, cutTag_append_of_ok found]
                  rfl
          · next plain =>
              simp only [Option.map_none, if_neg plain]
              exact after?_append_of_some h more

theorem afterSubset?_append_of_some (h : afterSubset? cs = some rest) (more : List Char) :
    afterSubset? (cs ++ more) = some (rest ++ more) := by
  fun_induction afterSubset? cs with
  | case1 => cases h
  | case2 c cs closes =>
      cases h
      rw [List.cons_append, afterSubset?, if_pos closes]
  | case3 c cs closes opens inner found ih =>
      rw [List.cons_append, afterSubset?, if_neg closes, if_pos opens]
      split
      · next later =>
          rw [afterDeclaration?_append_of_some found] at later
          cases later
          exact ih h
      · next later =>
          rw [afterDeclaration?_append_of_some found] at later
          cases later
  | case4 => cases h
  | case5 c cs closes opens ih =>
      rw [List.cons_append, afterSubset?, if_neg closes, if_neg opens]
      exact ih h

theorem afterDoctype?_append_of_some {quote : Option Char} (h : afterDoctype? quote cs = some rest)
    (more : List Char) : afterDoctype? quote (cs ++ more) = some (rest ++ more) := by
  induction cs generalizing quote with
  | nil => cases h
  | cons c cs ih =>
      rw [afterDoctype?] at h
      rw [List.cons_append, afterDoctype?]
      split at h
      · next closes =>
          cases h
          rw [if_pos closes]
      · next goesOn =>
          rw [if_neg goesOn]
          split at h
          · next opens =>
              obtain ⟨inner, subset, closing⟩ := Option.bind_eq_some_iff.1 h
              rw [if_pos opens, afterSubset?_append_of_some subset]
              exact after?_append_of_some closing more
          · next plain =>
              rw [if_neg plain]
              exact ih h

/-! ### Lexemes -/

variable {lexeme : Lexeme}

/-- Where a run stops at a character, it stops there whatever follows. -/
theorem span_append_of_cons {p : Char → Bool} {stop : Char} (h : cs.dropWhile p = stop :: rest)
    (more : List Char) :
    (cs ++ more).dropWhile p = stop :: (rest ++ more) ∧
      (cs ++ more).takeWhile p = cs.takeWhile p := by
  refine ⟨?_, ?_⟩
  · rw [List.dropWhile_append, h]
    rfl
  · rw [List.takeWhile_append, if_neg]
    intro whole
    have length := congrArg List.length (List.takeWhile_append_dropWhile (p := p) (l := cs))
    rw [h, List.length_append, whole] at length
    simp at length

theorem readReference_append_of_ok (h : readReference cs = .ok (lexeme, rest)) (more : List Char) :
    readReference (cs ++ more) = .ok (lexeme, rest ++ more) := by
  simp only [readReference] at h ⊢
  split at h
  · next tail shape =>
      cases h
      obtain ⟨left, taken⟩ := span_append_of_cons shape more
      simp only [left, taken]
  · cases h

/-- A construct between two marks is the same whatever follows. -/
theorem enclosed_append_of_some {start mark before : List Char}
    (h : (start.isPrefixOf? cs).bind (cutAt mark) = some (before, rest)) (more : List Char) :
    (start.isPrefixOf? (cs ++ more)).bind (cutAt mark) = some (before, rest ++ more) := by
  obtain ⟨body, shape, cut⟩ := Option.bind_eq_some_iff.1 h
  rw [isPrefixOf?_append_of_some shape, Option.bind_some, cutAt_append_of_some cut]

theorem readCdata_append_of_ok (h : readCdata cs = .ok (lexeme, rest)) (more : List Char) :
    readCdata (cs ++ more) = .ok (lexeme, rest ++ more) := by
  rw [readCdata] at h ⊢
  split at h
  · next content tail found =>
      cases h
      rw [enclosed_append_of_some found]
  · cases h

theorem readComment_append_of_ok (h : readComment cs = .ok (lexeme, rest)) (more : List Char) :
    readComment (cs ++ more) = .ok (lexeme, rest ++ more) := by
  rw [readComment] at h ⊢
  split at h
  · next content tail found =>
      cases h
      rw [enclosed_append_of_some found]
  · cases h

theorem readInstruction_append_of_ok (h : readInstruction cs = .ok (lexeme, rest))
    (more : List Char) : readInstruction (cs ++ more) = .ok (lexeme, rest ++ more) := by
  rw [readInstruction] at h ⊢
  split at h
  · cases h
  · next first before tail found =>
      cases h
      rw [← List.cons_append, cutAt_append_of_some found]
  · cases h

/-- What a tag is taken for depends on what stands between its brackets. -/
theorem exists_readTag (content : List Char) : ∃ lexeme, ∀ cs rest,
    cutTag none cs = .ok (content, rest) → readTag cs = .ok (lexeme, rest) := by
  by_cases closing : ∃ name, content = '/' :: name
  · obtain ⟨name, rfl⟩ := closing
    refine ⟨.closing (String.ofList (closingName name)), fun cs rest cut => ?_⟩
    simp only [readTag, cut]
  · by_cases selfClosing : content.getLast? == some '/'
    · refine ⟨.opening (Tag.ofContent content.dropLast) true, fun cs rest cut => ?_⟩
      simp only [readTag, cut]
      split
      · exact absurd ⟨_, rfl⟩ closing
      · rw [if_pos selfClosing]
    · refine ⟨.opening (Tag.ofContent content) false, fun cs rest cut => ?_⟩
      simp only [readTag, cut]
      split
      · exact absurd ⟨_, rfl⟩ closing
      · rw [if_neg selfClosing]

theorem readTag_append_of_ok (h : readTag cs = .ok (lexeme, rest)) (more : List Char) :
    readTag (cs ++ more) = .ok (lexeme, rest ++ more) := by
  cases cut : cutTag none cs with
  | error left =>
      rw [readTag, cut] at h
      cases left <;> cases h
  | ok found =>
      obtain ⟨content, tail⟩ := found
      obtain ⟨taken, reads⟩ := exists_readTag content
      rw [reads cs tail cut] at h
      cases h
      exact reads _ _ (cutTag_append_of_ok cut more)

/-- A document type does not end among blanks. -/
theorem exists_not_isSpace_of_afterDoctype? {quote : Option Char}
    (h : afterDoctype? quote cs = some rest) : ∃ c ∈ cs, isSpace c = false := by
  induction cs generalizing quote with
  | nil => cases h
  | cons c cs ih =>
      rw [afterDoctype?] at h
      by_cases space : isSpace c
      · have notClosing : c ≠ '>' := by
          intro same
          rw [same] at space
          cases space
        have notOpening : c ≠ '[' := by
          intro same
          rw [same] at space
          cases space
        rw [if_neg (by simp [notClosing]), if_neg (by simp [notOpening])] at h
        obtain ⟨d, inside, notSpace⟩ := ih h
        exact ⟨d, List.mem_cons_of_mem _ inside, notSpace⟩
      · exact ⟨c, List.mem_cons_self, by simpa using space⟩

theorem readDoctype_append_of_ok (h : readDoctype cs = .ok (lexeme, rest)) (more : List Char) :
    readDoctype (cs ++ more) = .ok (lexeme, rest ++ more) := by
  rw [readDoctype] at h ⊢
  split at h
  · next keyword =>
      have length : 7 ≤ cs.length := by
        have same := congrArg List.length (eq_of_beq keyword)
        simp at same
        omega
      rw [List.take_append_of_le_length length, if_pos keyword,
        List.drop_append_of_le_length length]
      dsimp only at h ⊢
      split at h
      · cases h
      · next named =>
          split at h
          · next tail found =>
              cases h
              rw [afterDoctype?_append_of_some found]
              split
              · next others shape =>
                  cases blanks : (cs.drop 7).dropWhile isSpace with
                  | nil =>
                      obtain ⟨c, inside, notSpace⟩ := exists_not_isSpace_of_afterDoctype? found
                      have space := List.dropWhile_eq_nil_iff.1 blanks c inside
                      rw [notSpace] at space
                      cases space
                  | cons first others =>
                      rw [(span_append_of_cons blanks more).1] at shape
                      cases shape
                      exact absurd blanks (named _)
              · rfl
          · cases h
  · cases h

/-- Markup is a tag unless its first character says otherwise. -/
theorem readMarkup_of_ne {c : Char} (notDeclaration : c ≠ '!') (notInstruction : c ≠ '?')
    (cs : List Char) : readMarkup (c :: cs) = readTag (c :: cs) := by
  unfold readMarkup
  split
  · next shape => cases shape; exact absurd rfl notDeclaration
  · next shape => cases shape; exact absurd rfl notInstruction
  · rfl

theorem readMarkup_append_of_ok (h : readMarkup cs = .ok (lexeme, rest)) (more : List Char) :
    readMarkup (cs ++ more) = .ok (lexeme, rest ++ more) := by
  unfold readMarkup at h
  split at h
  · split at h
    · exact readCdata_append_of_ok h more
    · exact readComment_append_of_ok h more
    · exact readDoctype_append_of_ok h more
    · exact readDoctype_append_of_ok h more
    · cases h
  · exact readInstruction_append_of_ok h more
  · next notDeclaration notInstruction =>
      have read := readTag_append_of_ok h more
      cases cs with
      | nil => cases h
      | cons c cs =>
          rw [List.cons_append] at read ⊢
          rw [readMarkup_of_ne (fun same => notDeclaration cs (by rw [same]))
            (fun same => notInstruction cs (by rw [same])), read]

theorem Lexeme.next_of_continuesText {c : Char} (text : continuesText c) (cs : List Char) :
    Lexeme.next c cs = .ok
      (.text (String.ofList (c :: cs.takeWhile continuesText)), cs.dropWhile continuesText) := by
  simp only [continuesText, Bool.and_eq_true, bne_iff_ne] at text
  rw [Lexeme.next, if_neg (by simpa using text.1), if_neg (by simpa using text.2)]

/-- A lexeme does not depend on what follows it, except that a text at the end of the
input might go on. -/
theorem Lexeme.next_append_of_ok {c : Char} (h : Lexeme.next c cs = .ok (lexeme, rest))
    (ended : rest ≠ [] ∨ continuesText c = false) (more : List Char) :
    Lexeme.next c (cs ++ more) = .ok (lexeme, rest ++ more) := by
  rw [Lexeme.next] at h ⊢
  split at h
  · next markup =>
      rw [if_pos markup]
      exact readMarkup_append_of_ok h more
  · next notMarkup =>
      rw [if_neg notMarkup]
      split at h
      · next reference =>
          rw [if_pos reference]
          exact readReference_append_of_ok h more
      · next notReference =>
          rw [if_neg notReference]
          cases h
          cases shape : cs.dropWhile continuesText with
          | nil =>
              rw [shape] at ended
              simp_all [continuesText]
          | cons stop others =>
              obtain ⟨left, taken⟩ := span_append_of_cons shape more
              rw [left, taken, List.cons_append]

end More

/-! ## Characters that are read without a fault -/

/-- The elements that are open after some events, if the events are free of faults and
every end tag names the innermost open element. -/
def openAfter (opened : List String) : List Event → Option (List String)
  | [] => some opened
  | .fault _ :: _ => none
  | .start tag :: rest => openAfter (tag.name :: opened) rest
  | .close name :: rest =>
    match opened with
    | [] => none
    | innermost :: outer => if innermost = name then openAfter outer rest else none
  | _ :: rest => openAfter opened rest

theorem openAfter_step {opened inner : List String} {lexeme : Lexeme} {event : Event}
    (step : lexeme.step opened = .ok (event, inner)) (rest : List Event) :
    openAfter opened (event :: rest) = openAfter inner rest := by
  cases lexeme with
  | closing name =>
      cases opened with
      | nil => cases step
      | cons expected outer =>
          by_cases same : expected = name
          · simp only [Lexeme.step, same, if_true] at step
            cases step
            simp [openAfter, same]
          · simp [Lexeme.step, same] at step
  | opening tag selfClosing => cases selfClosing <;> cases step <;> rfl
  | text content => cases step; rfl
  | cdata content => cases step; rfl
  | reference name => cases step; rfl
  | aside => cases step; rfl

/-- Characters that are read as events and leave elements open, up to a run of text
that has not ended. -/
inductive Scan : List String → List Char → List Event → List String → List Char → Prop
  | run {opened : List String} {run : List Char} (text : ∀ c ∈ run, continuesText c) :
      Scan opened run [] opened run
  | step {opened inner left : List String} {c : Char} {cs rest run : List Char} {lexeme : Lexeme}
      {event : Event} {events : List Event} (next : Lexeme.next c cs = .ok (lexeme, rest))
      (ended : rest ≠ [] ∨ continuesText c = false)
      (step : lexeme.step opened = .ok (event, inner)) (others : Scan inner rest events left run) :
      Scan opened (c :: cs) (event :: events) left run

namespace Scan

variable {opened left : List String} {cs run : List Char} {events : List Event}

/-- What follows is read after the events, beginning with the run of text. -/
theorem eventsFrom_append (scan : Scan opened cs events left run) (more : List Char) :
    eventsFrom opened (cs ++ more) = events ++ eventsFrom left (run ++ more) := by
  induction scan with
  | run text => rfl
  | step next ended step others ih =>
      have longer := Lexeme.next_append_of_ok next ended more
      rw [List.cons_append, eventsFrom_of_step longer step, ih]
      rfl

/-- Elements further out do not matter. -/
theorem extend (scan : Scan opened cs events left run) (outer : List String) :
    Scan (opened ++ outer) cs events (left ++ outer) run := by
  induction scan with
  | run text => exact .run text
  | step next ended step others ih => exact .step next ended (Lexeme.step_append step outer) ih

theorem openAfter_events (scan : Scan opened cs events left run) :
    openAfter opened events = some left := by
  induction scan with
  | run text => rfl
  | step next ended step others ih => rw [openAfter_step step, ih]

/-- The run of text has not ended. -/
theorem continuesText_run (scan : Scan opened cs events left run) : ∀ c ∈ run, continuesText c := by
  induction scan with
  | run text => exact text
  | step next ended step others ih => exact ih

end Scan

/-- What is read without a fault can be scanned. -/
theorem exists_scan {opened left : List String} {cs : List Char}
    (h : openAfter opened (eventsFrom opened cs) = some left) :
    ∃ events run, Scan opened cs events left run := by
  induction size : cs.length using Nat.strongRecOn generalizing opened cs with
  | ind length ih =>
      cases cs with
      | nil =>
          rw [eventsFrom_nil] at h
          cases h
          exact ⟨[], [], .run (List.forall_mem_nil _)⟩
      | cons c cs =>
          cases next : Lexeme.next c cs with
          | error cause =>
              rw [eventsFrom_of_next_error opened next] at h
              cases h
          | ok found =>
              obtain ⟨lexeme, rest⟩ := found
              cases step : lexeme.step opened with
              | error cause =>
                  rw [eventsFrom_of_step_error next step] at h
                  cases h
              | ok after =>
                  obtain ⟨event, inner⟩ := after
                  rw [eventsFrom_of_step next step, openAfter_step step] at h
                  by_cases ended : rest ≠ [] ∨ continuesText c = false
                  · have fewer := Lexeme.length_of_next next
                    obtain ⟨events, run, others⟩ :=
                      ih rest.length (by simp only [List.length_cons] at size; omega) h rfl
                    exact ⟨event :: events, run, .step next ended step others⟩
                  · -- the input ends in text, which is left as a run
                    rw [not_or, not_not, Bool.not_eq_false] at ended
                    obtain ⟨rfl, goesOn⟩ := ended
                    rw [Lexeme.next_of_continuesText goesOn] at next
                    obtain ⟨rfl, blank⟩ := Prod.mk.inj (Except.ok.inj next)
                    rw [eventsFrom_nil] at h
                    cases step
                    cases h
                    refine ⟨[], c :: cs, .run ?_⟩
                    intro d inside
                    rcases List.mem_cons.1 inside with rfl | later
                    · exact goesOn
                    · exact List.dropWhile_eq_nil_iff.1 blank d later

end ApiHeader.Markup
