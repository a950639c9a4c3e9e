/-
# How far a lexeme reaches

A lexeme is recognised from its own characters: each construct brings the mark that
ends it, so whoever has read its last character knows all of it, and what stands
after it could be exchanged for anything else. Text is the exception once more. It
has no mark of its own and ends where something else begins.

`Lexing` adds characters at the end of an input that was read. Here the characters
after a construct are taken away first. This is what makes it possible to cut a
document after one of its events and to say what the part before the cut reads as.
-/

import ApiHeader.Proofs.Lexing

namespace ApiHeader.Markup

section Taken

variable {mark cs rest : List Char}

/-! ## Searches -/

/-- A mark that stands somewhere is found. -/
theorem isSome_cutAt (mark before more : List Char) :
    (cutAt mark (before ++ mark ++ more)).isSome := by
  induction before with
  | nil =>
      have leads : mark.isPrefixOf? ([] ++ mark ++ more) = some more :=
        isPrefixOf?_eq_some_iff.2 rfl
      unfold cutAt
      rw [leads]
      rfl
  | cons c before ih =>
      rw [List.cons_append, List.cons_append, cutAt]
      split
      · rfl
      · rw [Option.isSome_map]
        exact ih

theorem cutAt_of_some {before : List Char} (h : cutAt mark cs = some (before, rest))
    (more : List Char) : cutAt mark (before ++ mark ++ more) = some (before, more) := by
  obtain ⟨⟨first, left⟩, found⟩ := Option.isSome_iff_exists.1 (isSome_cutAt mark before [])
  rw [List.append_nil] at found
  -- what is found with nothing behind the mark is what was found in the whole input
  have whole := cutAt_append_of_some found rest
  rw [← eq_append_of_cutAt h, h] at whole
  obtain ⟨rfl, left⟩ := Prod.mk.inj (Option.some.inj whole)
  rw [List.self_eq_append_left] at left
  subst left
  exact cutAt_append_of_some found more

theorem cutTag_of_ok {quote : Option Char} {content : List Char}
    (h : cutTag quote cs = .ok (content, rest)) (more : List Char) :
    cutTag quote (content ++ '>' :: more) = .ok (content, more) := by
  induction cs generalizing quote content with
  | nil => cases h
  | cons c cs ih =>
      rw [cutTag] at h
      split at h
      · next closes =>
          cases h
          simp only [Bool.and_eq_true] at closes
          rw [List.nil_append, cutTag, closes.1]
          rfl
      · next goesOn =>
          cases later : cutTag (quoteAfter quote c) cs with
          | error left => rw [later] at h; cases h
          | ok cut =>
              rw [later] at h
              cases h
              rw [List.cons_append, cutTag, if_neg goesOn, ih later]
              rfl

theorem exists_taken_of_after? (h : after? mark cs = some rest) :
    ∃ taken, cs = taken ++ rest ∧ ∀ more, after? mark (taken ++ more) = some more := by
  obtain ⟨⟨before, left⟩, found, rfl⟩ := Option.map_eq_some_iff.1 h
  refine ⟨before ++ mark, eq_append_of_cutAt found, fun more => ?_⟩
  rw [after?, cutAt_of_some found more]
  rfl

/-! ## Document types -/

/-- What leads a declaration is settled once its bracket has been read. -/
theorem afterDeclaration?_of_bracket {before : List Char}
    (noComment : ['!', '-', '-'].isPrefixOf? (before ++ '>' :: rest) = none)
    (noInstruction : ['?'].isPrefixOf? (before ++ '>' :: rest) = none) (more : List Char) :
    afterDeclaration? (before ++ '>' :: more) =
      if "!ENTITY".toList.isPrefixOf (before ++ '>' :: rest) ||
          "!ATTLIST".toList.isPrefixOf (before ++ '>' :: rest) ||
          "!NOTATION".toList.isPrefixOf (before ++ '>' :: rest) then
        (cutTag none (before ++ '>' :: more)).toOption.map Prod.snd
      else after? ['>'] (before ++ '>' :: more) := by
  have split (tail : List Char) : before ++ '>' :: tail = (before ++ ['>']) ++ tail := by simp
  have settled {mark : List Char} (free : '>' ∉ mark) : Settled mark (before ++ ['>']) :=
    .inr ⟨'>', by simp, free⟩
  rw [split, (settled (by decide)).isPrefixOf?_append, Option.map_eq_none_iff] at noComment
  rw [split, (settled (by decide)).isPrefixOf?_append, Option.map_eq_none_iff] at noInstruction
  rw [split rest, split more, afterDeclaration?]
  simp only [(settled (by decide : '>' ∉ ['!', '-', '-'])).isPrefixOf?_append,
    (settled (by decide : '>' ∉ ['?'])).isPrefixOf?_append,
    (settled (by decide : '>' ∉ "!ENTITY".toList)).isPrefixOf_append,
    (settled (by decide : '>' ∉ "!ATTLIST".toList)).isPrefixOf_append,
    (settled (by decide : '>' ∉ "!NOTATION".toList)).isPrefixOf_append,
    noComment, noInstruction, Option.map_none]

theorem exists_taken_of_afterDeclaration? (h : afterDeclaration? cs = some rest) :
    ∃ taken, cs = taken ++ rest ∧ ∀ more, afterDeclaration? (taken ++ more) = some more := by
  rw [afterDeclaration?] at h
  split at h
  · next body shape =>
      obtain ⟨taken, rfl, reads⟩ := exists_taken_of_after? h
      rw [isPrefixOf?_eq_some_iff] at shape
      exact ⟨'!' :: '-' :: '-' :: taken, shape, reads⟩
  · next noComment =>
      split at h
      · next body shape =>
          obtain ⟨taken, rfl, reads⟩ := exists_taken_of_after? h
          rw [isPrefixOf?_eq_some_iff] at shape
          exact ⟨'?' :: taken, shape, reads⟩
      · next noInstruction =>
          have noComment := Option.eq_none_iff_forall_ne_some.2 noComment
          have noInstruction := Option.eq_none_iff_forall_ne_some.2 noInstruction
          split at h
          · next quoting =>
              cases found : cutTag none cs with
              | error left => rw [found] at h; cases h
              | ok cut =>
                  obtain ⟨content, left⟩ := cut
                  rw [found] at h
                  cases h
                  obtain rfl := eq_append_of_cutTag found
                  refine ⟨content ++ ['>'], by simp, fun more => ?_⟩
                  rw [List.append_assoc, List.singleton_append,
                    afterDeclaration?_of_bracket noComment noInstruction, if_pos quoting,
                    cutTag_of_ok found]
                  rfl
          · next plain =>
              obtain ⟨⟨before, left⟩, found, rfl⟩ := Option.map_eq_some_iff.1 h
              have shape := eq_append_of_cutAt found
              rw [List.append_assoc, List.singleton_append] at shape
              subst shape
              refine ⟨before ++ ['>'], by simp, fun more => ?_⟩
              rw [List.append_assoc, List.singleton_append,
                afterDeclaration?_of_bracket noComment noInstruction, if_neg plain, after?,
                List.append_cons, cutAt_of_some found]
              rfl

theorem exists_taken_of_afterSubset? (h : afterSubset? cs = some rest) :
    ∃ taken, cs = taken ++ rest ∧ ∀ more, afterSubset? (taken ++ more) = some more := by
  fun_induction afterSubset? cs with
  | case1 => cases h
  | case2 c cs closes =>
      cases h
      refine ⟨[c], rfl, fun more => ?_⟩
      rw [List.singleton_append, afterSubset?, if_pos closes]
  | case3 c cs closes opens inner found ih =>
      obtain ⟨declaration, rfl, readsDeclaration⟩ := exists_taken_of_afterDeclaration? found
      obtain ⟨taken, rfl, reads⟩ := ih h
      refine ⟨c :: (declaration ++ taken), by simp, fun more => ?_⟩
      rw [List.cons_append, List.append_assoc, afterSubset?, if_neg closes, if_pos opens]
      split
      · next later =>
          rw [readsDeclaration] at later
          cases later
          exact reads more
      · next later =>
          rw [readsDeclaration] at later
          cases later
  | case4 => cases h
  | case5 c cs closes opens ih =>
      obtain ⟨taken, rfl, reads⟩ := ih h
      refine ⟨c :: taken, rfl, fun more => ?_⟩
      rw [List.cons_append, afterSubset?, if_neg closes, if_neg opens]
      exact reads more

theorem exists_taken_of_afterDoctype? {quote : Option Char}
    (h : afterDoctype? quote cs = some rest) :
    ∃ taken, cs = taken ++ rest ∧ ∀ more, afterDoctype? quote (taken ++ more) = some more := by
  induction cs generalizing quote with
  | nil => cases h
  | cons c cs ih =>
      rw [afterDoctype?] at h
      split at h
      · next closes =>
          cases h
          refine ⟨[c], rfl, fun more => ?_⟩
          rw [List.singleton_append, afterDoctype?, if_pos closes]
      · next goesOn =>
          split at h
          · next opens =>
              obtain ⟨inner, subset, closing⟩ := Option.bind_eq_some_iff.1 h
              obtain ⟨takenSubset, rfl, readsSubset⟩ := exists_taken_of_afterSubset? subset
              obtain ⟨taken, rfl, reads⟩ := exists_taken_of_after? closing
              refine ⟨c :: (takenSubset ++ taken), by simp, fun more => ?_⟩
              rw [List.cons_append, List.append_assoc, afterDoctype?, if_neg goesOn, if_pos opens,
                readsSubset, Option.bind_some, reads]
          · next plain =>
              obtain ⟨taken, rfl, reads⟩ := ih h
              refine ⟨c :: taken, rfl, fun more => ?_⟩
              rw [List.cons_append, afterDoctype?, if_neg goesOn, if_neg plain, reads]

/-! ## Lexemes -/

variable {lexeme : Lexeme}

/-- A reader takes a lexeme from the front of some characters, and would take it from
the front of any others. -/
def Takes (read : List Char → Except Fault (Lexeme × List Char)) (lexeme : Lexeme)
    (cs rest : List Char) : Prop :=
  ∃ taken, cs = taken ++ rest ∧ ∀ more, read (taken ++ more) = .ok (lexeme, more)

/-- A reader that finds nothing in no characters takes the first one. -/
theorem Takes.exists_cons {read : List Char → Except Fault (Lexeme × List Char)} {c : Char}
    (takes : Takes read lexeme (c :: cs) rest) (fails : ∀ found, read [] ≠ .ok found) :
    ∃ taken, cs = taken ++ rest ∧ ∀ more, read (c :: (taken ++ more)) = .ok (lexeme, more) := by
  obtain ⟨taken, shape, reads⟩ := takes
  cases taken with
  | nil => exact absurd (reads []) (fails _)
  | cons first taken =>
      obtain ⟨rfl, rfl⟩ := List.cons.inj shape
      exact ⟨taken, rfl, reads⟩

/-- A run ends where a character does not continue it. -/
theorem span_takeWhile_append {p : Char → Bool} (cs more : List Char)
    (ends : ∀ d ∈ more.head?, p d = false) :
    (cs.takeWhile p ++ more).takeWhile p = cs.takeWhile p ∧
      (cs.takeWhile p ++ more).dropWhile p = more := by
  have all : ∀ c ∈ cs.takeWhile p, p c = true := fun c inside => List.mem_takeWhile_imp inside
  rw [List.takeWhile_append_of_pos all, List.dropWhile_append_of_pos all]
  cases more with
  | nil => simp
  | cons d more => simp [ends d rfl]

theorem head?_dropWhile_eq_false {p : Char → Bool} (cs : List Char) :
    ∀ d ∈ (cs.dropWhile p).head?, p d = false := by
  intro d first
  have stops := List.head?_dropWhile_not p cs
  rw [first] at stops
  exact stops

theorem takes_readReference (h : readReference cs = .ok (lexeme, rest)) :
    Takes readReference lexeme cs rest := by
  simp only [readReference] at h
  split at h
  · next tail shape =>
      cases h
      have stops := head?_dropWhile_eq_false (p := fun c => c != ';' && continuesText c) cs
      rw [shape] at stops
      refine ⟨cs.takeWhile (fun c => c != ';' && continuesText c) ++ [';'], ?_, fun more => ?_⟩
      · rw [List.append_assoc, List.singleton_append, ← shape, List.takeWhile_append_dropWhile]
      · obtain ⟨name, left⟩ := span_takeWhile_append cs (';' :: more) stops
        simp only [readReference, List.append_assoc, List.singleton_append, name, left]
  · cases h

/-- What stands between two marks is found whatever follows. -/
theorem enclosed_of_some {start before : List Char}
    (h : (start.isPrefixOf? cs).bind (cutAt mark) = some (before, rest)) :
    ∃ taken, cs = taken ++ rest ∧
      ∀ more, (start.isPrefixOf? (taken ++ more)).bind (cutAt mark) = some (before, more) := by
  obtain ⟨body, shape, cut⟩ := Option.bind_eq_some_iff.1 h
  refine ⟨start ++ (before ++ mark), ?_, fun more => ?_⟩
  · rw [eq_append_of_isPrefixOf? shape, eq_append_of_cutAt cut, ← List.append_assoc]
  · rw [List.append_assoc, isPrefixOf?_eq_some_iff.2 rfl, Option.bind_some, cutAt_of_some cut]

theorem takes_readCdata (h : readCdata cs = .ok (lexeme, rest)) :
    Takes readCdata lexeme cs rest := by
  rw [readCdata] at h
  split at h
  · next content tail found =>
      cases h
      obtain ⟨taken, shape, reads⟩ := enclosed_of_some found
      refine ⟨taken, shape, fun more => ?_⟩
      rw [readCdata, reads]
  · cases h

theorem takes_readComment (h : readComment cs = .ok (lexeme, rest)) :
    Takes readComment lexeme cs rest := by
  rw [readComment] at h
  split at h
  · next content tail found =>
      cases h
      obtain ⟨taken, shape, reads⟩ := enclosed_of_some found
      refine ⟨taken, shape, fun more => ?_⟩
      rw [readComment, reads]
  · cases h

theorem takes_readInstruction (h : readInstruction cs = .ok (lexeme, rest)) :
    Takes readInstruction lexeme cs rest := by
  rw [readInstruction] at h
  split at h
  · cases h
  · next first before tail found =>
      cases h
      obtain ⟨rfl, shape⟩ := List.cons.inj (eq_append_of_cutAt found)
      refine ⟨before ++ ['?', '>'], shape, fun more => ?_⟩
      rw [readInstruction, ← List.cons_append, ← List.cons_append, cutAt_of_some found]
  · cases h

theorem takes_readTag (h : readTag cs = .ok (lexeme, rest)) : Takes readTag lexeme cs rest := by
  cases cut : cutTag none cs with
  | error left =>
      rw [readTag, cut] at h
      cases left <;> cases h
  | ok found =>
      obtain ⟨content, tail⟩ := found
      obtain ⟨taken, reads⟩ := exists_readTag content
      rw [reads cs tail cut] at h
      cases h
      refine ⟨content ++ ['>'], ?_, fun more => reads _ _ ?_⟩
      · rw [eq_append_of_cutTag cut, List.append_assoc, List.singleton_append]
      · rw [List.append_assoc, List.singleton_append, cutTag_of_ok cut]

theorem takes_readDoctype (h : readDoctype cs = .ok (lexeme, rest)) :
    Takes readDoctype lexeme cs rest := by
  rw [readDoctype] at h
  split at h
  · next keyword =>
      have length : (cs.take 7).length = 7 := by
        have same := congrArg List.length (eq_of_beq keyword)
        simpa using same
      dsimp only at h
      split at h
      · cases h
      · next named =>
          split at h
          · next tail found =>
              cases h
              obtain ⟨taken, shape, reads⟩ := exists_taken_of_afterDoctype? found
              refine ⟨cs.take 7 ++ taken, ?_, fun more => ?_⟩
              · rw [List.append_assoc, ← shape, List.take_append_drop]
              · rw [readDoctype, List.append_assoc, List.take_left' length, List.drop_left' length,
                  if_pos keyword]
                dsimp only
                rw [reads]
                cases leads : taken.dropWhile isSpace with
                | nil =>
                    obtain ⟨c, inside, notSpace⟩ := exists_not_isSpace_of_afterDoctype? (reads [])
                    rw [List.append_nil] at inside
                    have space := List.dropWhile_eq_nil_iff.1 leads c inside
                    rw [notSpace] at space
                    cases space
                | cons first others =>
                    rw [shape, (span_append_of_cons leads rest).1] at named
                    rw [(span_append_of_cons leads more).1]
                    split
                    · next same => cases same; exact absurd rfl (named _)
                    · rfl
          · cases h
  · cases h

theorem takes_readMarkup (h : readMarkup cs = .ok (lexeme, rest)) :
    Takes readMarkup lexeme cs rest := by
  unfold readMarkup at h
  split at h
  · split at h
    · obtain ⟨taken, rfl, reads⟩ := (takes_readCdata h).exists_cons nofun
      exact ⟨'!' :: '[' :: taken, rfl, reads⟩
    · obtain ⟨taken, rfl, reads⟩ := (takes_readComment h).exists_cons nofun
      exact ⟨'!' :: '-' :: taken, rfl, reads⟩
    · obtain ⟨taken, rfl, reads⟩ := (takes_readDoctype h).exists_cons nofun
      exact ⟨'!' :: 'D' :: taken, rfl, reads⟩
    · obtain ⟨taken, rfl, reads⟩ := (takes_readDoctype h).exists_cons nofun
      exact ⟨'!' :: 'd' :: taken, rfl, reads⟩
    · cases h
  · obtain ⟨taken, rfl, reads⟩ := takes_readInstruction h
    exact ⟨'?' :: taken, rfl, reads⟩
  · next notDeclaration notInstruction =>
      cases cs with
      | nil => cases h
      | cons c cs =>
          obtain ⟨taken, rfl, reads⟩ := (takes_readTag h).exists_cons nofun
          refine ⟨c :: taken, rfl, fun more => ?_⟩
          rw [List.cons_append, readMarkup_of_ne (fun same => notDeclaration _ (by rw [same]))
            (fun same => notInstruction _ (by rw [same])), reads]

/-- A lexeme is the same before any characters that do not continue its text. -/
theorem Lexeme.exists_taken {c : Char} (h : Lexeme.next c cs = .ok (lexeme, rest)) :
    ∃ taken, cs = taken ++ rest ∧
      ∀ more, (continuesText c → ∀ d ∈ more.head?, continuesText d = false) →
        Lexeme.next c (taken ++ more) = .ok (lexeme, more) := by
  by_cases text : continuesText c
  · rw [Lexeme.next_of_continuesText text] at h
    cases h
    refine ⟨cs.takeWhile continuesText, List.takeWhile_append_dropWhile.symm, fun more ends => ?_⟩
    obtain ⟨run, left⟩ := span_takeWhile_append cs more (ends text)
    rw [Lexeme.next_of_continuesText text, run, left]
  · rw [Lexeme.next] at h
    split at h
    · next markup =>
        obtain ⟨taken, shape, reads⟩ := takes_readMarkup h
        refine ⟨taken, shape, fun more _ => ?_⟩
        rw [Lexeme.next, if_pos markup, reads]
    · next notMarkup =>
        split at h
        · next reference =>
            obtain ⟨taken, shape, reads⟩ := takes_readReference h
            refine ⟨taken, shape, fun more _ => ?_⟩
            rw [Lexeme.next, if_neg notMarkup, if_pos reference, reads]
        · next notReference =>
            simp_all [continuesText]

/-- Text ends where something else begins. -/
theorem Lexeme.head?_of_continuesText {c : Char} (text : continuesText c)
    (h : Lexeme.next c cs = .ok (lexeme, rest)) : ∀ d ∈ rest.head?, continuesText d = false := by
  rw [Lexeme.next_of_continuesText text] at h
  cases h
  exact head?_dropWhile_eq_false cs

end Taken

/-! ## Cutting a document after an event -/

/-- Whether an event is a text, which has no end of its own. -/
def Event.isText : Event → Bool
  | .text _ => true
  | _ => false

theorem Lexeme.isText_of_step {opened inner : List String} {c : Char} {cs rest : List Char}
    {lexeme : Lexeme} {event : Event} (text : continuesText c)
    (next : Lexeme.next c cs = .ok (lexeme, rest))
    (step : lexeme.step opened = .ok (event, inner)) : event.isText := by
  rw [Lexeme.next_of_continuesText text] at next
  cases next
  cases step
  rfl

/-- An event that is no fault comes from a lexeme. -/
theorem exists_step_of_eventsFrom {opened : List String} {cs : List Char} {event : Event}
    {rest : List Event} (h : eventsFrom opened cs = event :: rest)
    (sound : ∀ cause, event ≠ .fault cause) :
    ∃ c front after lexeme inner, cs = c :: front ∧ Lexeme.next c front = .ok (lexeme, after) ∧
      lexeme.step opened = .ok (event, inner) ∧ eventsFrom inner after = rest := by
  cases cs with
  | nil => rw [eventsFrom_nil] at h; cases h
  | cons c front =>
      cases next : Lexeme.next c front with
      | error cause =>
          rw [eventsFrom_of_next_error opened next] at h
          exact absurd (List.cons.inj h).1.symm (sound cause)
      | ok found =>
          obtain ⟨lexeme, after⟩ := found
          cases step : lexeme.step opened with
          | error cause =>
              rw [eventsFrom_of_step_error next step] at h
              exact absurd (List.cons.inj h).1.symm (sound cause)
          | ok stepped =>
              obtain ⟨first, inner⟩ := stepped
              rw [eventsFrom_of_step next step] at h
              obtain ⟨rfl, later⟩ := List.cons.inj h
              exact ⟨c, front, after, lexeme, inner, rfl, next, step, later⟩

theorem eq_nil_of_taken_nil {opened left : List String} {read : List Event}
    (reads : ∀ more, eventsFrom opened ([] ++ more) = read ++ eventsFrom left more) :
    read = [] := by
  have none := reads []
  rw [List.append_nil, eventsFrom_nil] at none
  exact (List.append_eq_nil_iff.1 none.symm).1

/-- Events that were read and do not end in a text are those of some first characters,
whatever follows these. -/
theorem exists_taken_of_eventsFrom {opened : List String} {cs : List Char} {read rest : List Event}
    (shape : eventsFrom opened cs = read ++ rest) (sound : ∀ cause, .fault cause ∉ read)
    (ended : ∀ event ∈ read.getLast?, event.isText = false) :
    ∃ taken later left, cs = taken ++ later ∧ openAfter opened read = some left ∧
      ∀ more, eventsFrom opened (taken ++ more) = read ++ eventsFrom left more := by
  induction read generalizing opened cs with
  | nil => exact ⟨[], cs, opened, rfl, rfl, fun more => rfl⟩
  | cons event read ih =>
      obtain ⟨c, front, after, lexeme, inner, rfl, next, step, others⟩ :=
        exists_step_of_eventsFrom shape fun cause same => sound cause (same ▸ List.mem_cons_self)
      obtain ⟨taken, later, left, rfl, opens, reads⟩ := ih others
        (fun cause inside => sound cause (List.mem_cons_of_mem _ inside))
        (fun last isLast => ended last (by simp [List.getLast?_cons, Option.mem_def.1 isLast]))
      obtain ⟨own, rfl, takes⟩ := Lexeme.exists_taken next
      refine ⟨c :: (own ++ taken), later, left, by simp, ?_, fun more => ?_⟩
      · rw [openAfter_step step, opens]
      · have ends : continuesText c → ∀ d ∈ (taken ++ more).head?, continuesText d = false := by
          intro text
          cases taken with
          | nil =>
              -- then this event is the last one, and it may not be a text
              obtain rfl := eq_nil_of_taken_nil reads
              have isText := Lexeme.isText_of_step text next step
              rw [ended event rfl] at isText
              cases isText
          | cons d taken =>
              intro first leads
              exact Lexeme.head?_of_continuesText text next first leads
        rw [List.cons_append, List.append_assoc, eventsFrom_of_step (takes _ ends) step, reads]
        rfl

/-- The same of a whole document, whose first character may be a mark that is not part
of it. -/
theorem exists_taken_of_events {document : String} {read rest : List Event}
    (shape : events document = read ++ rest) (nonempty : read ≠ [])
    (sound : ∀ cause, .fault cause ∉ read) (ended : ∀ event ∈ read.getLast?, event.isText = false) :
    ∃ text later left, document = text ++ later ∧ openAfter [] read = some left ∧
      ∀ more : String, events (text ++ more) = read ++ eventsFrom left more.toList := by
  cases characters : document.toList with
  | nil =>
      rw [events, characters] at shape
      exact absurd (List.append_eq_nil_iff.1 shape.symm).1 nonempty
  | cons c cs =>
      obtain ⟨taken, later, left, rfl, opens, reads⟩ : ∃ taken later left, cs = taken ++ later ∧
          openAfter [] read = some left ∧ ∀ more,
            (if c == byteOrderMark then eventsFrom [] (taken ++ more)
              else eventsFrom [] (c :: (taken ++ more))) = read ++ eventsFrom left more := by
        rw [events, characters] at shape
        dsimp only at shape
        split at shape
        · next mark => simpa only [if_pos mark] using exists_taken_of_eventsFrom shape sound ended
        · next mark =>
            obtain ⟨taken, later, left, split, opens, reads⟩ :=
              exists_taken_of_eventsFrom shape sound ended
            cases taken with
            | nil => exact absurd (eq_nil_of_taken_nil reads) nonempty
            | cons d taken =>
                obtain ⟨rfl, rfl⟩ := List.cons.inj split
                simp only [if_neg mark]
                exact ⟨taken, later, left, rfl, opens, reads⟩
      refine ⟨String.ofList (c :: taken), String.ofList later, left, ?_, opens, fun more => ?_⟩
      · rw [← String.toList_inj, characters]
        simp
      · rw [← reads]
        simp [events]

end ApiHeader.Markup
