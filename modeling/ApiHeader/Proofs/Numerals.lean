/-
# Numbers and their literals

What a numeral stands for is said here without reading it: each character is a digit by its
place in a table, and the digits give a number by position. Reading with a bound returns that
number exactly if it stays below the bound; a number that reaches the bound is refused,
however many zeros lead it, and nothing is ever wrapped. The literal of an entry is a decimal
numeral or a marked hexadecimal one, either with a plus sign, between blanks.
-/

import ApiHeader.Schema.TypeDef
import Mathlib.Data.Nat.Digits.Defs

namespace ApiHeader.Text

/-! ## Digits -/

/-- The digits up to sixteen by value, with small letters. -/
def smallDigits : List Char := "0123456789abcdef".toList

/-- The digits up to sixteen by value, with capital letters. -/
def capitalDigits : List Char := "0123456789ABCDEF".toList

/-- A character is the digit of a value in a radix up to sixteen. Letters count in either
case. -/
def IsDigit (radix : Nat) (c : Char) (value : Nat) : Prop :=
  value < radix ∧ (smallDigits[value]? = some c ∨ capitalDigits[value]? = some c)

instance (radix : Nat) (c : Char) (value : Nat) : Decidable (IsDigit radix c value) :=
  inferInstanceAs (Decidable (_ ∧ _))

/-- The value of a figure or a letter, whatever the radix. -/
def characterValue? (c : Char) : Option Nat :=
  if '0' ≤ c ∧ c ≤ '9' then some (c.toNat - '0'.toNat)
  else if 'a' ≤ c ∧ c ≤ 'z' then some (c.toNat - 'a'.toNat + 10)
  else if 'A' ≤ c ∧ c ≤ 'Z' then some (c.toNat - 'A'.toNat + 10)
  else none

theorem digitValue?_eq (radix : Nat) (c : Char) :
    digitValue? radix c = (characterValue? c).filter (· < radix) := rfl

theorem isDigit_of_characterValue? {c : Char} {value : Nat} (small : value < 16)
    (h : characterValue? c = some value) : IsDigit 16 c value := by
  have figures : ∀ value < 10, smallDigits[value]? = some (Char.ofNat (48 + value)) := by decide
  have letters : ∀ value < 6, smallDigits[value + 10]? = some (Char.ofNat (97 + value)) := by
    decide
  have capitals : ∀ value < 6, capitalDigits[value + 10]? = some (Char.ofNat (65 + value)) := by
    decide
  have here {base : Nat} (above : base ≤ c.toNat) : some (Char.ofNat (base + (c.toNat - base))) =
      some c := by
    rw [Nat.add_sub_cancel' above, Char.ofNat_toNat]
  refine ⟨small, ?_⟩
  unfold characterValue? at h
  split at h
  · next between =>
    have above : 48 ≤ c.toNat := between.1
    have below : c.toNat ≤ 57 := between.2
    cases h
    exact .inl ((figures (c.toNat - 48) (by omega)).trans (here above))
  · split at h
    · next between =>
      have above : 97 ≤ c.toNat := between.1
      cases h
      exact .inl ((letters _ (by omega)).trans (here above))
    · split at h
      · next between =>
        have above : 65 ≤ c.toNat := between.1
        cases h
        exact .inr ((capitals _ (by omega)).trans (here above))
      · cases h

theorem characterValue?_of_isDigit {c : Char} {value : Nat} (digit : IsDigit 16 c value) :
    characterValue? c = some value := by
  have inTable : ∀ value < 16, smallDigits[value]?.map characterValue? = some (some value) ∧
      capitalDigits[value]?.map characterValue? = some (some value) := by decide
  obtain ⟨below, found | found⟩ := digit
  · simpa [found] using (inTable value below).1
  · simpa [found] using (inTable value below).2

theorem digitValue?_eq_some_iff {radix : Nat} (small : radix ≤ 16) {c : Char} {value : Nat} :
    digitValue? radix c = some value ↔ IsDigit radix c value := by
  rw [digitValue?_eq, Option.filter_eq_some_iff, decide_eq_true_iff]
  constructor
  · rintro ⟨found, below⟩
    exact ⟨below, (isDigit_of_characterValue? (by omega) found).2⟩
  · rintro ⟨below, found⟩
    exact ⟨characterValue?_of_isDigit ⟨by omega, found⟩, below⟩

/-! ## Numerals -/

/-- The digits of a number by position, the first one having the greatest weight. -/
structure Numeral (radix : Nat) (cs : List Char) (number : Nat) : Prop where
  nonempty : cs ≠ []
  positional : ∃ values, List.Forall₂ (IsDigit radix) cs values ∧
    Nat.ofDigits radix values.reverse = number

theorem Numeral.isSome_digitValue? {radix number : Nat} (small : radix ≤ 16) {cs : List Char}
    (numeral : Numeral radix cs number) : ∀ c ∈ cs, (digitValue? radix c).isSome := by
  obtain ⟨-, values, digits, -⟩ := numeral
  induction digits with
  | nil => exact List.forall_mem_nil _
  | cons digit digits ih =>
      exact List.forall_mem_cons.2
        ⟨Option.isSome_iff_exists.2 ⟨_, (digitValue?_eq_some_iff small).2 digit⟩, ih⟩

/-- The number that more digits make of one. -/
def extended (radix number : Nat) (values : List Nat) : Nat :=
  values.foldl (fun number value => number * radix + value) number

theorem ofDigits_reverse (radix : Nat) (values : List Nat) :
    Nat.ofDigits radix values.reverse = extended radix 0 values := by
  rw [Nat.ofDigits_eq_foldr, List.foldr_reverse, extended]
  congr 1
  funext number value
  rw [Nat.cast_id, Nat.add_comm, Nat.mul_comm]

theorem le_extended {radix : Nat} (positive : 0 < radix) (number : Nat) (values : List Nat) :
    number ≤ extended radix number values := by
  induction values generalizing number with
  | nil => exact Nat.le_refl _
  | cons value values ih =>
      calc
        number ≤ number * radix := Nat.le_mul_of_pos_right _ positive
        _ ≤ number * radix + value := Nat.le_add_right _ _
        _ ≤ extended radix number (value :: values) := ih _

section Reading

variable {radix bound : Nat} (positive : 0 < radix) (small : radix ≤ 16)

include positive small

/-- Digits are read exactly if what they make of the number so far stays below the bound. -/
theorem readDigits_eq_ok_iff {number result : Nat} (below : number < bound) {cs : List Char} :
    readDigits radix bound number cs = .ok result ↔
      ∃ values, List.Forall₂ (IsDigit radix) cs values ∧ extended radix number values = result ∧
        result < bound := by
  induction cs generalizing number with
  | nil =>
      constructor
      · rintro ⟨⟩
        exact ⟨[], .nil, rfl, below⟩
      · rintro ⟨values, digits, rfl, _⟩
        cases digits
        rfl
  | cons c cs ih =>
      rw [readDigits]
      constructor
      · intro h
        split at h
        · cases h
        · next value found =>
          dsimp only at h
          split at h
          · next goesOn =>
            obtain ⟨values, digits, same, lower⟩ := (ih goesOn).1 h
            exact ⟨value :: values, .cons ((digitValue?_eq_some_iff small).1 found) digits, same,
              lower⟩
          · cases h
      · rintro ⟨values, digits, same, lower⟩
        cases digits with
        | @cons _ value _ values digit digits =>
            -- what is read so far never exceeds the whole, so no step reaches the bound
            have step : number * radix + value ≤ result :=
              same ▸ le_extended positive (number * radix + value) values
            have goesOn := Nat.lt_of_le_of_lt step lower
            rw [(digitValue?_eq_some_iff small).2 digit]
            dsimp only
            rw [if_pos goesOn]
            exact (ih goesOn).2 ⟨_, digits, same, lower⟩

theorem readNumeral_eq_ok_iff (room : 0 < bound) {cs : List Char} {number : Nat} :
    readNumeral radix bound cs = .ok number ↔ Numeral radix cs number ∧ number < bound := by
  cases cs with
  | nil => exact ⟨nofun, fun read => absurd rfl read.1.nonempty⟩
  | cons c cs =>
      change readDigits radix bound 0 (c :: cs) = .ok number ↔ _
      rw [readDigits_eq_ok_iff positive small room]
      constructor
      · rintro ⟨values, digits, same, below⟩
        exact ⟨⟨List.cons_ne_nil c cs, values, digits, (ofDigits_reverse _ _).trans same⟩, below⟩
      · rintro ⟨⟨_, values, digits, same⟩, below⟩
        exact ⟨values, digits, (ofDigits_reverse _ _).symm.trans same, below⟩

end Reading

/-! ## Signs -/

/-- A plus sign that may be left out. -/
def IsSign (sign : List Char) : Prop :=
  sign = [] ∨ sign = ['+']

/-- A numeral that may be led by a plus sign. -/
def SignedNumeral (radix : Nat) (cs : List Char) (number : Nat) : Prop :=
  ∃ sign digits, IsSign sign ∧ cs = sign ++ digits ∧ Numeral radix digits number

theorem Numeral.head_ne_plus {radix number : Nat} (small : radix ≤ 16) {rest : List Char} :
    ¬ Numeral radix ('+' :: rest) number := by
  intro numeral
  exact absurd (numeral.isSome_digitValue? small '+' List.mem_cons_self) nofun

theorem readSigned?_eq_some_iff {radix bound : Nat} (positive : 0 < radix) (small : radix ≤ 16)
    (room : 0 < bound) {cs : List Char} {number : Nat} :
    readSigned? radix bound cs = some number ↔
      SignedNumeral radix cs number ∧ number < bound := by
  have read (digits : List Char) : (readNumeral radix bound digits).toOption = some number ↔
      Numeral radix digits number ∧ number < bound := by
    rw [← readNumeral_eq_ok_iff positive small room]
    cases readNumeral radix bound digits <;> simp [Except.toOption]
  unfold readSigned?
  split
  · next rest =>
    rw [read]
    refine and_congr_left' ⟨fun numeral => ⟨['+'], rest, .inr rfl, rfl, numeral⟩, ?_⟩
    rintro ⟨_, digits, rfl | rfl, shape, numeral⟩
    · rw [List.nil_append] at shape
      subst shape
      exact absurd numeral (Numeral.head_ne_plus small)
    · cases shape
      exact numeral
  · next unsigned =>
    rw [read]
    refine and_congr_left' ⟨fun numeral => ⟨[], cs, .inl rfl, rfl, numeral⟩, ?_⟩
    rintro ⟨_, digits, rfl | rfl, shape, numeral⟩
    · rwa [shape]
    · exact absurd shape (unsigned digits)

/-- The sign does not leave it open what is written. -/
theorem SignedNumeral.unique {radix : Nat} (positive : 0 < radix) (small : radix ≤ 16)
    {cs : List Char} {number other : Nat} (signed : SignedNumeral radix cs number)
    (signed' : SignedNumeral radix cs other) : number = other := by
  have read {n : Nat} (signed : SignedNumeral radix cs n) (below : n < number + other + 1) :
      readSigned? radix (number + other + 1) cs = some n :=
    (readSigned?_eq_some_iff positive small (Nat.succ_pos _)).2 ⟨signed, below⟩
  exact Option.some.inj ((read signed (by omega)).symm.trans (read signed' (by omega)))

end ApiHeader.Text

namespace ApiHeader.Schema

open ApiHeader.Text

/-! ## Literals -/

/-- Texts that stand for a number. -/
inductive Denotes : List Char → Nat → Prop
  | decimal {sign digits : List Char} {number : Nat} (signed : IsSign sign)
      (numeral : Numeral 10 digits number) : Denotes (sign ++ digits) number
  | hexadecimal {mark sign digits : List Char} {number : Nat}
      (marked : mark = ['0', 'x'] ∨ mark = ['0', 'X']) (signed : IsSign sign)
      (numeral : Numeral 16 digits number) : Denotes (mark ++ sign ++ digits) number

/-- A letter after the first zero makes a literal hexadecimal. -/
theorem denotes_marked_iff {x : Char} (mark : x = 'x' ∨ x = 'X') {cs : List Char} {number : Nat} :
    Denotes ('0' :: x :: cs) number ↔ SignedNumeral 16 cs number := by
  have notFigure (value : Nat) : ¬ IsDigit 10 x value := by
    rw [← digitValue?_eq_some_iff (by decide)]
    rcases mark with rfl | rfl <;> exact nofun
  constructor
  · intro denotes
    generalize shape : '0' :: x :: cs = text at denotes
    cases denotes with
    | @decimal sign digits _ signed numeral =>
        rcases signed with rfl | rfl
        · rw [List.nil_append] at shape
          subst shape
          obtain ⟨_, values, digits, _⟩ := numeral
          cases digits with
          | cons first others =>
              cases others with
              | cons second others => exact absurd second (notFigure _)
        · cases shape
    | @hexadecimal found sign digits _ marked signed numeral =>
        rcases marked with rfl | rfl <;> cases shape <;>
          exact ⟨sign, digits, signed, rfl, numeral⟩
  · rintro ⟨sign, digits, signed, rfl, numeral⟩
    rcases mark with rfl | rfl
    · exact .hexadecimal (.inl rfl) signed numeral
    · exact .hexadecimal (.inr rfl) signed numeral

theorem denotes_unmarked_iff {cs : List Char} {number : Nat}
    (unmarked : ∀ rest, cs ≠ '0' :: 'x' :: rest ∧ cs ≠ '0' :: 'X' :: rest) :
    Denotes cs number ↔ SignedNumeral 10 cs number := by
  constructor
  · rintro (⟨signed, numeral⟩ | ⟨rfl | rfl, signed, numeral⟩)
    · exact ⟨_, _, signed, rfl, numeral⟩
    · exact absurd rfl (unmarked _).1
    · exact absurd rfl (unmarked _).2
  · rintro ⟨sign, digits, signed, rfl, numeral⟩
    exact .decimal signed numeral

theorem literalNumber?_eq_some_iff {literal : String} {number : Nat} :
    literalNumber? literal = some number ↔
      Denotes (trim literal).toList number ∧ number < 2 ^ 64 := by
  have read {radix : Nat} (positive : 0 < radix) (small : radix ≤ 16) (cs : List Char) :
      readSigned? radix UInt64.size cs = some number ↔
        SignedNumeral radix cs number ∧ number < 2 ^ 64 :=
    readSigned?_eq_some_iff positive small (by decide)
  rw [toList_trim, literalNumber?]
  split
  · next shape => rw [shape, denotes_marked_iff (.inl rfl), read (by decide) (by decide)]
  · next shape => rw [shape, denotes_marked_iff (.inr rfl), read (by decide) (by decide)]
  · next small capital =>
    rw [denotes_unmarked_iff fun rest => ⟨small rest, capital rest⟩,
      read (by decide) (by decide)]

/-- A literal stands for one number only. -/
theorem Denotes.unique {cs : List Char} {number other : Nat} (denotes : Denotes cs number)
    (denotes' : Denotes cs other) : number = other := by
  by_cases marked : ∃ x rest, (x = 'x' ∨ x = 'X') ∧ cs = '0' :: x :: rest
  · obtain ⟨x, rest, mark, rfl⟩ := marked
    rw [denotes_marked_iff mark] at denotes denotes'
    exact denotes.unique (by decide) (by decide) denotes'
  · have unmarked (rest : List Char) : cs ≠ '0' :: 'x' :: rest ∧ cs ≠ '0' :: 'X' :: rest :=
      ⟨fun shape => marked ⟨_, rest, .inl rfl, shape⟩,
        fun shape => marked ⟨_, rest, .inr rfl, shape⟩⟩
    rw [denotes_unmarked_iff unmarked] at denotes denotes'
    exact denotes.unique (by decide) (by decide) denotes'

/-- An entry has the number that its literal denotes without the blanks around it, if that is
below two to the power of 64, and has none in all other cases. -/
theorem Entry.number?_eq_denoted (entry : Entry) :
    (∀ number, entry.number? = some number ↔
      Denotes (trim entry.value).toList number ∧ number < 2 ^ 64) ∧
    (entry.number? = none ↔
      ¬ ∃ number, Denotes (trim entry.value).toList number ∧ number < 2 ^ 64) ∧
    ∀ number, Denotes (trim entry.value).toList number → 2 ^ 64 ≤ number →
      entry.number? = none := by
  have found (number : Nat) : entry.number? = some number ↔
      Denotes (trim entry.value).toList number ∧ number < 2 ^ 64 := literalNumber?_eq_some_iff
  have absent : entry.number? = none ↔
      ¬ ∃ number, Denotes (trim entry.value).toList number ∧ number < 2 ^ 64 := by
    rw [Option.eq_none_iff_forall_ne_some, not_exists]
    exact forall_congr' fun number => not_congr (found number)
  refine ⟨found, absent, fun number denotes large => absent.2 ?_⟩
  rintro ⟨other, denotes', below⟩
  rw [denotes.unique denotes'] at large
  exact absurd below (Nat.not_lt.2 large)

/-- An entry whose number needs one bit too many, led by a sign and zeros. -/
def wideEntry : Entry := ⟨"Wide", " +0018446744073709551616\n"⟩

/-- An entry with the largest number, in mixed case and with a sign after the mark. -/
def largestEntry : Entry := ⟨"Largest", "0X+fFFFfffFFFFFffff"⟩

theorem wideEntry_number?_eq_denoted :
    (Denotes (trim wideEntry.value).toList (2 ^ 64) ∧ wideEntry.number? = none) ∧
      Denotes (trim largestEntry.value).toList (2 ^ 64 - 1) ∧
      largestEntry.number? = some (2 ^ 64 - 1) := by
  have wide : Numeral 10 "0018446744073709551616".toList (2 ^ 64) :=
    ⟨by decide, [0, 0, 1, 8, 4, 4, 6, 7, 4, 4, 0, 7, 3, 7, 0, 9, 5, 5, 1, 6, 1, 6], by decide,
      by decide⟩
  have largest : Numeral 16 "fFFFfffFFFFFffff".toList (2 ^ 64 - 1) :=
    ⟨by decide, List.replicate 16 15, by decide, by decide⟩
  have denotesWide : Denotes (trim wideEntry.value).toList (2 ^ 64) :=
    .decimal (.inr rfl) wide
  have denotesLargest : Denotes (trim largestEntry.value).toList (2 ^ 64 - 1) :=
    .hexadecimal (.inr rfl) (.inr rfl) largest
  exact ⟨⟨denotesWide, (Entry.number?_eq_denoted wideEntry).2.2 _ denotesWide (Nat.le_refl _)⟩,
    denotesLargest, ((Entry.number?_eq_denoted largestEntry).1 _).2 ⟨denotesLargest, by decide⟩⟩

end ApiHeader.Schema
