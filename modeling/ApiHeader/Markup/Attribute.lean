/-
# Attributes of a tag

The attributes of a tag are read one at a time. Reading stops at the first
malformed one, so a tag's attributes are a list whose last item may be a fault;
a reader that stops before that item never learns of the fault. Positions count
bytes from the start of the tag's content, the element's name included.
-/

import ApiHeader.Markup.Cut

namespace ApiHeader.Markup

/-- An attribute with its value as written, references unresolved. -/
structure Attribute where
  key : String
  value : String
  deriving DecidableEq, Repr

/-- Why an attribute cannot be read. -/
inductive AttributeFault
  /-- No `=` follows the key. -/
  | noEquals (position : Nat)
  /-- The key was read before. -/
  | duplicated (position previous : Nat)
  /-- The tag ends after the `=`. -/
  | noValue (position : Nat)
  /-- The value does not start with a quote. -/
  | unquoted (position : Nat)
  /-- The quote that opened the value does not return. -/
  | notClosed (position : Nat) (quote : Char)
  deriving DecidableEq, Repr

/-- The wording of an attribute's fault. -/
def AttributeFault.message : AttributeFault → String
  | noEquals position =>
    "position " ++ toString position ++
      ": attribute key must be directly followed by `=` or space"
  | duplicated position previous =>
    "position " ++ toString position ++
      ": duplicated attribute, previous declaration at position " ++ toString previous
  | noValue position =>
    "position " ++ toString position ++ ": `=` must be followed by an attribute value"
  | unquoted position =>
    "position " ++ toString position ++
      ": attribute value must be enclosed in `\"` or `'`"
  | notClosed position quote =>
    "position " ++ toString position ++ ": missing closing quote `" ++
      String.singleton quote ++ "` in attribute value"

/-- What one step over a tag's content finds. -/
inductive AttributeStep
  /-- Only blanks were left. -/
  | done
  | fault (cause : AttributeFault)
  /-- An attribute whose key starts at a position, and what follows it. -/
  | found (key value : List Char) (position : Nat) (rest : List Char)

/-- Whether a character belongs to the key that it follows. -/
def continuesKey (c : Char) : Bool :=
  c != '=' && !isSpace c

/-- Read the value after an `=`. -/
def readValue (size : Nat) (key : List Char) (position : Nat) (cs : List Char) : AttributeStep :=
  match cs.dropWhile isSpace with
  | [] => .fault (.noValue size)
  | quote :: body =>
    if isQuote quote then
      match cutAt [quote] body with
      | some (value, rest) => .found key value position rest
      | none => .fault (.notClosed size quote)
    else .fault (.unquoted (size - byteLength (quote :: body)))

/-- Read the next attribute of a content that is `size` bytes long, given the keys
read before with their positions. A key has at least one character, whatever that
character is. -/
def nextAttribute (size : Nat) (seen : List (List Char × Nat)) (cs : List Char) : AttributeStep :=
  match cs.dropWhile isSpace with
  | [] => .done
  | first :: more =>
    let position := size - byteLength (first :: more)
    let key := first :: more.takeWhile continuesKey
    match (more.dropWhile continuesKey).dropWhile isSpace with
    | '=' :: rest =>
      match seen.lookup key with
      | some previous => .fault (.duplicated position previous)
      | none => readValue size key position rest
    | other => .fault (.noEquals (size - byteLength other))

theorem length_of_readValue {size position position' : Nat} {key key' value cs rest : List Char}
    (h : readValue size key position cs = .found key' value position' rest) :
    rest.length < cs.length := by
  have bound := length_dropWhile_le isSpace cs
  rw [readValue] at h
  split at h
  · simp at h
  · next quote body shape =>
    rw [shape] at bound
    split at h
    · split at h
      · next cut =>
        cases h
        have := length_of_cutAt cut
        simp at this bound
        omega
      · simp at h
    · simp at h

theorem length_of_nextAttribute {size position : Nat} {seen : List (List Char × Nat)}
    {key value cs rest : List Char}
    (h : nextAttribute size seen cs = .found key value position rest) :
    rest.length < cs.length := by
  have bound := length_dropWhile_le isSpace cs
  rw [nextAttribute] at h
  split at h
  · simp at h
  · next first more shape =>
    rw [shape] at bound
    have inner := length_dropWhile_le isSpace (more.dropWhile continuesKey)
    have outer := length_dropWhile_le continuesKey more
    dsimp only at h
    split at h
    · next after equals =>
      rw [equals] at inner
      split at h
      · simp at h
      · have := length_of_readValue h
        simp at inner bound
        omega
    · simp at h

/-- The attributes of the remaining content, ended by a fault if there is one. -/
def attributesFrom (size : Nat) (seen : List (List Char × Nat)) (cs : List Char) :
    List (Except AttributeFault Attribute) :=
  match _ : nextAttribute size seen cs with
  | .done => []
  | .fault cause => [.error cause]
  | .found key value position rest =>
    .ok ⟨String.ofList key, String.ofList value⟩ ::
      attributesFrom size ((key, position) :: seen) rest
termination_by cs.length
decreasing_by exact length_of_nextAttribute ‹_›

instance : DecidableEq (Except AttributeFault Attribute)
  | .ok first, .ok second =>
    if same : first = second then .isTrue (congrArg _ same)
    else .isFalse fun h => same (Except.ok.inj h)
  | .error first, .error second =>
    if same : first = second then .isTrue (congrArg _ same)
    else .isFalse fun h => same (Except.error.inj h)
  | .ok _, .error _ => .isFalse nofun
  | .error _, .ok _ => .isFalse nofun

/-- A tag that opens an element or stands for an empty one. -/
structure Tag where
  name : String
  attributes : List (Except AttributeFault Attribute)
  deriving DecidableEq

/-- The tag with the given content. Its name runs to the first blank and may hold
any other character, or none at all. -/
def Tag.ofContent (content : List Char) : Tag where
  name := String.ofList (content.takeWhile fun c => !isSpace c)
  attributes := attributesFrom (byteLength content) [] (content.dropWhile fun c => !isSpace c)

end ApiHeader.Markup
