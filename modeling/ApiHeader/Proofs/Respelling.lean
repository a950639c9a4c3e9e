/-
# Names in capitals

Respelling a name in capitals goes through it once and remembers the character before, as it
was written and not as it was respelled. Here the outcome is described by places of the name
instead. Every character gives its ASCII capital, and an underscore comes before it at exactly
those places where a new word starts: where a capital stands right after a small letter or a
digit.

So nothing is lost but the case of ASCII letters, and a name is kept exactly if it has no small
ASCII letter and starts no new word. Capitals and small letters are those of Unicode: a small
letter outside of ASCII ends a word and is not made a capital.
-/

import ApiHeader.Text.WordCase

namespace ApiHeader.Text

variable {c : Char} {cs : List Char}

/-! ## Characters -/

theorem isLower_iff : c.isLower = true ↔ 97 ≤ c.toNat ∧ c.toNat ≤ 122 := by
  change (decide _ && decide _) = true ↔ _
  rw [Bool.and_eq_true, decide_eq_true_eq, decide_eq_true_eq]
  rfl

/-- Small ASCII letters come 32 places after their capitals. -/
theorem toNat_toUpper (c : Char) :
    c.toUpper.toNat = if c.isLower then c.toNat - 32 else c.toNat := by
  delta Char.toUpper
  split
  · next small =>
    have bounds : 97 ≤ c.toNat ∧ c.toNat ≤ 122 := small
    rw [if_pos (isLower_iff.2 bounds)]
    -- the difference of the letters is added in 32 bits
    change (c.val + 4294967264).toNat = c.toNat - 32
    rw [UInt32.toNat_add]
    change (c.toNat + 4294967264) % 4294967296 = _
    omega
  · next other =>
    have notLower : ¬ c.isLower = true := fun lower => other (isLower_iff.1 lower)
    rw [if_neg notLower]

theorem asciiCapital_eq_toUpper (c : Char) : asciiCapital c = c.toUpper := by
  have small : c.isLower = true ↔ 'a' ≤ c ∧ c ≤ 'z' := isLower_iff
  rw [← Char.toNat_inj, toNat_toUpper, asciiCapital]
  by_cases lower : c.isLower = true
  · have bounds := isLower_iff.1 lower
    have valid : (c.toNat - 32).isValidChar := by
      simp only [Nat.isValidChar]
      omega
    rw [if_pos (small.1 lower), if_pos lower, Char.ofNat, dif_pos valid]
    rfl
  · rw [if_neg fun letter => lower (small.2 letter), if_neg lower]

theorem endsWord_eq (c : Char) : endsWord c = (isLowercase c || c.isDigit) :=
  rfl

theorem toUpper_eq_self_iff : c.toUpper = c ↔ c.isLower = false := by
  rw [← Char.toNat_inj, toNat_toUpper]
  cases lower : c.isLower with
  | false => exact iff_of_true rfl rfl
  | true =>
      have bounds := isLower_iff.1 lower
      rw [if_pos rfl]
      exact iff_of_false (by omega) Bool.noConfusion

theorem toUpper_eq_underscore_iff : c.toUpper = '_' ↔ c = '_' := by
  rw [← Char.toNat_inj, ← Char.toNat_inj, toNat_toUpper]
  split
  · next lower =>
    -- the capitals end before the underscore, and the small letters start after it
    have bounds := isLower_iff.1 lower
    change c.toNat - 32 = 95 ↔ c.toNat = 95
    omega
  · rfl

/-! ## Places where words start -/

/-- Whether a capital stands at a place of a name, right after a small letter or a digit. -/
def startsWord (cs : List Char) : Nat → Bool
  | 0 => false
  | place + 1 =>
    cs[place]?.any (fun before => isLowercase before || before.isDigit) &&
      cs[place + 1]?.any isUppercase

theorem startsWord_of_length_le {place : Nat} (beyond : cs.length ≤ place) :
    startsWord cs place = false := by
  cases place with
  | zero => rfl
  | succ place => rw [startsWord, List.getElem?_eq_none beyond, Option.any_none, Bool.and_false]

/-- The character at the end of what was read decides whether the next one starts a word. -/
theorem startsWord_length (before : List Char) (c : Char) (rest : List Char) :
    startsWord (before ++ c :: rest) before.length =
      (isUppercase c && before.getLast?.any endsWord) := by
  rcases List.eq_nil_or_concat before with rfl | ⟨front, last, rfl⟩
  · simp [startsWord]
  · simp [startsWord, endsWord_eq, Bool.and_comm]

/-- The respelling of the characters after some others, place by place. -/
theorem screamingSnakeFrom_eq_flatMap (before cs : List Char) :
    screamingSnakeFrom before.getLast? cs =
      (cs.zipIdx before.length).flatMap fun entry =>
        if startsWord (before ++ cs) entry.2 then ['_', entry.1.toUpper]
        else [entry.1.toUpper] := by
  induction cs generalizing before with
  | nil => rfl
  | cons c rest ih =>
      have later := ih (before ++ [c])
      rw [List.getLast?_concat, List.append_assoc, List.singleton_append, List.length_append,
        List.length_singleton] at later
      rw [screamingSnakeFrom, List.zipIdx_cons, List.flatMap_cons, startsWord_length, later,
        asciiCapital_eq_toUpper]
      split <;> rfl

theorem toList_screamingSnake (name : String) :
    (screamingSnake name).toList =
      name.toList.zipIdx.flatMap fun entry =>
        if startsWord name.toList entry.2 then ['_', entry.1.toUpper]
        else [entry.1.toUpper] := by
  rw [screamingSnake, String.toList_ofList]
  exact screamingSnakeFrom_eq_flatMap [] name.toList

/-! ## What is kept -/

/-- Without underscores nothing but the case of ASCII letters differs. -/
theorem filter_toList_screamingSnake (name : String) :
    (screamingSnake name).toList.filter (· ≠ '_') =
      (name.toList.filter (· ≠ '_')).map Char.toUpper := by
  have kept (c : Char) : decide (c.toUpper ≠ '_') = decide (c ≠ '_') := by
    simp only [ne_eq, toUpper_eq_underscore_iff]
  calc (screamingSnake name).toList.filter (· ≠ '_')
      = name.toList.zipIdx.flatMap fun entry => [entry.1.toUpper].filter (· ≠ '_') := by
        rw [toList_screamingSnake, List.filter_flatMap]
        congr 1
        funext entry
        split <;> simp
    _ = (name.toList.zipIdx.map fun entry => entry.1.toUpper).filter (· ≠ '_') := by
        rw [← List.filter_flatMap, ← List.map_eq_flatMap]
    _ = (name.toList.map Char.toUpper).filter (· ≠ '_') := by
        rw [← List.zipIdx_map_fst 0 name.toList, List.map_map, List.zipIdx_map_fst]
        rfl
    _ = (name.toList.filter (· ≠ '_')).map Char.toUpper := by
        rw [List.filter_map]
        congr 1
        exact List.filter_congr fun c _ => kept c

/-- A respelling is the same as before exactly if no character is made a capital and none
starts a word. -/
theorem screamingSnakeFrom_eq_self_iff (before cs : List Char) :
    screamingSnakeFrom before.getLast? cs = cs ↔
      (∀ c ∈ cs, c.isLower = false) ∧
        ∀ place, before.length ≤ place → startsWord (before ++ cs) place = false := by
  induction cs generalizing before with
  | nil =>
      refine iff_of_true rfl ⟨List.forall_mem_nil _, fun place beyond => ?_⟩
      exact startsWord_of_length_le (by simpa using beyond)
  | cons c rest ih =>
      have later := ih (before ++ [c])
      rw [List.getLast?_concat, List.append_assoc, List.singleton_append, List.length_append,
        List.length_singleton] at later
      have here := startsWord_length before c rest
      rw [screamingSnakeFrom]
      split
      · next parted =>
        -- a capital that starts a word is no underscore
        refine iff_of_false ?_ ?_
        · intro same
          obtain rfl := (List.cons.inj same).1
          exact absurd (Bool.and_eq_true_iff.1 parted).1 (by decide)
        · rintro ⟨_, nowhere⟩
          rw [nowhere before.length (Nat.le_refl _), parted] at here
          cases here
      · next joined =>
        rw [List.cons.injEq, asciiCapital_eq_toUpper, toUpper_eq_self_iff, later,
          List.forall_mem_cons, and_assoc]
        refine and_congr_right fun _ => and_congr_right fun _ => ?_
        constructor
        · intro after place reached
          rcases Nat.eq_or_lt_of_le reached with rfl | further
          · rw [here]
            exact Bool.eq_false_iff.2 joined
          · exact after place further
        · intro all place reached
          exact all place (Nat.le_of_succ_le reached)

/-- A name in capitals is the name with its small ASCII letters made capitals and an underscore
before each capital that starts a word. -/
theorem screamingSnake_respells (name : String) :
    ((screamingSnake name).toList =
      name.toList.zipIdx.flatMap fun entry =>
        if startsWord name.toList entry.2 then ['_', entry.1.toUpper]
        else [entry.1.toUpper]) ∧
    (screamingSnake name).toList.filter (· ≠ '_') =
      (name.toList.filter (· ≠ '_')).map Char.toUpper ∧
    (screamingSnake name = name ↔
      (∀ c ∈ name.toList, c.isLower = false) ∧
        ∀ place, startsWord name.toList place = false) := by
  refine ⟨toList_screamingSnake name, filter_toList_screamingSnake name, ?_⟩
  rw [← String.toList_inj, screamingSnake, String.toList_ofList]
  simpa using screamingSnakeFrom_eq_self_iff [] name.toList

-- no small letter is needed to start a word, a digit is enough
example : screamingSnake "A1B_É" = "A1_B_É" := by decide +kernel

end ApiHeader.Text
