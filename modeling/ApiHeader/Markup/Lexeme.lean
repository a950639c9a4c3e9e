/-
# Lexemes of a document

What begins at a place of a document is decided by its first characters alone.
`Lexeme.next` reads one lexeme and returns the characters after it, which are
always fewer, so a document has finitely many lexemes.
-/

import ApiHeader.Markup.Attribute
import ApiHeader.Markup.Doctype
import ApiHeader.Markup.Fault

namespace ApiHeader.Markup

/-- One construct of a document. -/
inductive Lexeme
  /-- Characters outside markup, as written. -/
  | text (content : String)
  /-- Literal text, as written. -/
  | cdata (content : String)
  | reference (name : String)
  /-- A comment, an instruction, a declaration or a document type: nothing that
  readers of a document look at. -/
  | aside
  /-- A tag that opens an element, or stands for an empty one. -/
  | opening (tag : Tag) (selfClosing : Bool)
  | closing (name : String)

/-- Whether a character outside markup continues the text that it follows. -/
def continuesText (c : Char) : Bool :=
  c != '<' && c != '&'

/-- The name in an end tag: the blanks at its end do not count, unless there is
nothing else. -/
def closingName (content : List Char) : List Char :=
  match content.reverse.dropWhile isSpace with
  | [] => content
  | kept => kept.reverse

/-- A reference, given the characters after its `&`. -/
def readReference (cs : List Char) : Except Fault (Lexeme × List Char) :=
  let continues := fun c => c != ';' && continuesText c
  match cs.dropWhile continues with
  | ';' :: rest => .ok (.reference (String.ofList (cs.takeWhile continues)), rest)
  | _ => .error .referenceNotClosed

/-- Literal text, given the characters after its `<!`. -/
def readCdata (cs : List Char) : Except Fault (Lexeme × List Char) :=
  match ("[CDATA[".toList.isPrefixOf? cs).bind (cutAt "]]>".toList) with
  | some (content, rest) => .ok (.cdata (String.ofList content), rest)
  | none => .error .cdataNotClosed

/-- A comment, given the characters after its `<!`. -/
def readComment (cs : List Char) : Except Fault (Lexeme × List Char) :=
  match (['-', '-'].isPrefixOf? cs).bind (cutAt ['-', '-', '>']) with
  | some (_, rest) => .ok (.aside, rest)
  | none => .error .commentNotClosed

/-- A document type, given the characters after its `<!`. Its keyword is read in
any case. -/
def readDoctype (cs : List Char) : Except Fault (Lexeme × List Char) :=
  if (cs.take 7).map Char.toUpper == "DOCTYPE".toList then
    let body := cs.drop 7
    match body.dropWhile isSpace with
    | '>' :: _ => .error .doctypeUnnamed
    | _ =>
      match afterDoctype? none body with
      | some rest => .ok (.aside, rest)
      | none => .error .doctypeNotClosed
  else .error .doctypeNotClosed

/-- Whether an instruction without an end is the document's declaration, given the
characters after its `<?`. -/
def isDeclaration (cs : List Char) : Bool :=
  match ['x', 'm', 'l'].isPrefixOf? cs with
  | some [] => true
  | some (c :: _) => isSpace c || c == '?'
  | none => false

/-- An instruction or the document's declaration, given the characters after its
`<?`. The mark that ends it may not share the question mark that opens it. -/
def readInstruction (cs : List Char) : Except Fault (Lexeme × List Char) :=
  match cutAt ['?', '>'] ('?' :: cs) with
  | some ([], _) => .error .instructionNotClosed
  | some (_ :: _, rest) => .ok (.aside, rest)
  | none => .error (if isDeclaration cs then .declarationNotClosed else .instructionNotClosed)

/-- A tag, given the characters after its `<`. -/
def readTag (cs : List Char) : Except Fault (Lexeme × List Char) :=
  match cutTag none cs with
  | .error none => .error .tagNotClosed
  | .error (some quote) => .error (.quoteNotClosed quote)
  | .ok (content, rest) =>
    match content with
    | '/' :: name => .ok (.closing (String.ofList (closingName name)), rest)
    | _ =>
      if content.getLast? == some '/' then .ok (.opening (Tag.ofContent content.dropLast) true, rest)
      else .ok (.opening (Tag.ofContent content) false, rest)

/-- Markup, given the characters after its `<`. -/
def readMarkup (cs : List Char) : Except Fault (Lexeme × List Char) :=
  match cs with
  | '!' :: rest =>
    match rest with
    | '[' :: _ => readCdata rest
    | '-' :: _ => readComment rest
    | 'D' :: _ => readDoctype rest
    | 'd' :: _ => readDoctype rest
    | _ => .error .unknownMarkup
  | '?' :: rest => readInstruction rest
  | _ => readTag cs

/-- The lexeme that begins with a character, and the characters after it. -/
def Lexeme.next (c : Char) (cs : List Char) : Except Fault (Lexeme × List Char) :=
  if c == '<' then readMarkup cs
  else if c == '&' then readReference cs
  else .ok (.text (String.ofList (c :: cs.takeWhile continuesText)), cs.dropWhile continuesText)

theorem length_of_readReference {cs rest : List Char} {lexeme : Lexeme}
    (h : readReference cs = .ok (lexeme, rest)) : rest.length ≤ cs.length := by
  rw [readReference] at h
  split at h
  · next after shape =>
    cases h
    have bound := length_dropWhile_le (fun c => c != ';' && continuesText c) cs
    rw [shape] at bound
    simp at bound
    omega
  · simp at h

private theorem length_of_cut {mark start cs before rest : List Char}
    (h : (start.isPrefixOf? cs).bind (cutAt mark) = some (before, rest)) :
    rest.length ≤ cs.length := by
  obtain ⟨body, shape, cut⟩ := Option.bind_eq_some_iff.1 h
  have := length_of_cutAt cut
  rw [eq_append_of_isPrefixOf? shape]
  simp
  omega

theorem length_of_readCdata {cs rest : List Char} {lexeme : Lexeme}
    (h : readCdata cs = .ok (lexeme, rest)) : rest.length ≤ cs.length := by
  rw [readCdata] at h
  split at h
  · next found => cases h; exact length_of_cut found
  · simp at h

theorem length_of_readComment {cs rest : List Char} {lexeme : Lexeme}
    (h : readComment cs = .ok (lexeme, rest)) : rest.length ≤ cs.length := by
  rw [readComment] at h
  split at h
  · next found => cases h; exact length_of_cut found
  · simp at h

theorem length_of_readDoctype {cs rest : List Char} {lexeme : Lexeme}
    (h : readDoctype cs = .ok (lexeme, rest)) : rest.length ≤ cs.length := by
  rw [readDoctype] at h
  split at h
  · dsimp only at h
    split at h
    · simp at h
    · split at h
      · next found =>
        cases h
        have := length_of_afterDoctype? found
        simp at this
        omega
      · simp at h
  · simp at h

theorem length_of_readInstruction {cs rest : List Char} {lexeme : Lexeme}
    (h : readInstruction cs = .ok (lexeme, rest)) : rest.length ≤ cs.length := by
  rw [readInstruction] at h
  split at h
  · simp at h
  · next cut =>
    cases h
    have := length_of_cutAt cut
    simp at this
    omega
  · simp at h

theorem length_of_readTag {cs rest : List Char} {lexeme : Lexeme}
    (h : readTag cs = .ok (lexeme, rest)) : rest.length ≤ cs.length := by
  rw [readTag] at h
  split at h
  · simp at h
  · simp at h
  · next content after cut =>
    have bound := length_of_cutTag cut
    split at h
    · cases h; omega
    · split at h <;> cases h <;> omega

theorem length_of_readMarkup {cs rest : List Char} {lexeme : Lexeme}
    (h : readMarkup cs = .ok (lexeme, rest)) : rest.length ≤ cs.length := by
  unfold readMarkup at h
  split at h
  · split at h
    · have := length_of_readCdata h; simp at this ⊢; omega
    · have := length_of_readComment h; simp at this ⊢; omega
    · have := length_of_readDoctype h; simp at this ⊢; omega
    · have := length_of_readDoctype h; simp at this ⊢; omega
    · simp at h
  · have := length_of_readInstruction h
    simp
    omega
  · exact length_of_readTag h

/-- A lexeme takes its first character at least. -/
theorem Lexeme.length_of_next {c : Char} {cs rest : List Char} {lexeme : Lexeme}
    (h : Lexeme.next c cs = .ok (lexeme, rest)) : rest.length ≤ cs.length := by
  rw [Lexeme.next] at h
  split at h
  · exact length_of_readMarkup h
  · split at h
    · exact length_of_readReference h
    · cases h
      exact length_dropWhile_le continuesText cs

end ApiHeader.Markup
