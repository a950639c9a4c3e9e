/-
# Cutting characters at a mark

Every construct of markup ends at a mark that is searched from the left. The two
searches here return what stands before the mark and what follows it, and each
comes with the length bound that lets a reader recurse on what follows.
-/

namespace ApiHeader.Markup

/-- The blanks that separate the parts of a tag. -/
def isSpace (c : Char) : Bool :=
  c == ' ' || c == '\t' || c == '\r' || c == '\n'

/-- The two characters that quote an attribute value. -/
def isQuote (c : Char) : Bool :=
  c == '\x22' || c == '\x27'

/-- The number of bytes that characters take in UTF-8. -/
def byteLength (cs : List Char) : Nat :=
  cs.foldr (fun c size => c.utf8Size + size) 0

/-- Cut at the first occurrence of a mark, which is dropped. -/
def cutAt (mark cs : List Char) : Option (List Char × List Char) :=
  match mark.isPrefixOf? cs with
  | some rest => some ([], rest)
  | none =>
    match cs with
    | [] => none
    | c :: cs => (cutAt mark cs).map fun cut => (c :: cut.1, cut.2)

/-- The quote that is open after a character, given the one open before it. -/
def quoteAfter (quote : Option Char) (c : Char) : Option Char :=
  match quote with
  | some q => if c == q then none else some q
  | none => if isQuote c then some c else none

/-- Cut at the first `>` outside quotes, given the quote that is open. Without
one, the answer names the quote that was left open at the end. -/
def cutTag (quote : Option Char) : List Char → Except (Option Char) (List Char × List Char)
  | [] => .error quote
  | c :: cs =>
    if quote.isNone && c == '>' then .ok ([], cs)
    else (cutTag (quoteAfter quote c) cs).map fun cut => (c :: cut.1, cut.2)

theorem eq_append_of_isPrefixOf? {mark cs rest : List Char}
    (h : mark.isPrefixOf? cs = some rest) : cs = mark ++ rest := by
  induction mark generalizing cs with
  | nil => exact Option.some.inj h
  | cons m mark ih =>
    cases cs with
    | nil => cases h
    | cons c cs =>
      replace h : (if m == c then mark.isPrefixOf? cs else none) = some rest := h
      obtain ⟨same, found⟩ := Option.ite_none_right_eq_some.1 h
      rw [ih found, List.cons_append, eq_of_beq same]

/-- Nothing is lost in a cut. -/
theorem eq_append_of_cutAt {mark cs before rest : List Char}
    (h : cutAt mark cs = some (before, rest)) : cs = before ++ mark ++ rest := by
  induction cs generalizing before with
  | nil =>
    rw [cutAt] at h
    split at h
    · next found =>
      cases h
      simpa using eq_append_of_isPrefixOf? found
    · simp at h
  | cons c cs ih =>
    rw [cutAt] at h
    split at h
    · next found =>
      cases h
      simpa using eq_append_of_isPrefixOf? found
    · obtain ⟨cut, hcut, heq⟩ := Option.map_eq_some_iff.1 h
      cases heq
      rw [ih hcut]
      simp

theorem length_of_cutAt {mark cs before rest : List Char}
    (h : cutAt mark cs = some (before, rest)) :
    rest.length + mark.length ≤ cs.length := by
  rw [eq_append_of_cutAt h]
  simp
  omega

/-- Nothing but the closing `>` is lost in cutting a tag. -/
theorem eq_append_of_cutTag {quote : Option Char} {cs content rest : List Char}
    (h : cutTag quote cs = .ok (content, rest)) : cs = content ++ '>' :: rest := by
  induction cs generalizing quote content with
  | nil => simp [cutTag] at h
  | cons c cs ih =>
    rw [cutTag] at h
    split at h
    · next closes =>
      cases h
      simp only [Bool.and_eq_true, beq_iff_eq] at closes
      simp [closes.2]
    · generalize hcut : cutTag _ cs = result at h
      cases result with
      | error left => simp [Except.map] at h
      | ok cut =>
        simp only [Except.map, Except.ok.injEq, Prod.mk.injEq] at h
        obtain ⟨rfl, rfl⟩ := h
        rw [ih hcut]
        simp

theorem length_of_cutTag {quote : Option Char} {cs content rest : List Char}
    (h : cutTag quote cs = .ok (content, rest)) : rest.length < cs.length := by
  rw [eq_append_of_cutTag h]
  simp
  omega

theorem length_dropWhile_le (p : Char → Bool) (cs : List Char) :
    (cs.dropWhile p).length ≤ cs.length :=
  (List.dropWhile_suffix p).length_le

end ApiHeader.Markup
