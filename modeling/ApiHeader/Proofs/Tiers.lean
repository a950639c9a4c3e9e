/-
# Tiers of structures

Structures are ordered by depth, and those of one depth by name. The order is made by two
sorts, of which the second only looks at depths and leaves everything else as the first one
put it. The result is that of one sort by both keys at once, and it is the only list with
the same names that ascends by them. So it depends neither on the order of the description
nor on how the depths were found: any table will do, and a name that is missing from it
counts as depth zero.

Names are compared character by character. In the encoding that files use this is the same
as comparing them byte by byte.
-/

import ApiHeader.Proofs.StructBodies
import Mathlib.Data.Prod.Lex

namespace ApiHeader.Schema

/-! ## The order of bytes -/

/-- The bytes of a text. -/
def bytes (text : String) : List UInt8 :=
  text.toUTF8.data.toList

theorem bytes_eq (text : String) : bytes text = text.toList.flatMap String.utf8EncodeChar := by
  conv_lhs => rw [← String.ofList_toList (s := text)]
  rw [bytes, String.toUTF8_eq_toByteArray]
  change ((text.toList.flatMap String.utf8EncodeChar).toByteArray).data.toList = _
  rw [List.data_toByteArray, List.toList_toArray]

/-- The smaller of two numbers is smaller before the last digit to the base 64, or else in
that digit. -/
theorem digits_lt {v w : Nat} (less : v < w) :
    v / 64 < w / 64 ∨ v / 64 = w / 64 ∧ v % 64 < w % 64 := by
  omega

/-- The bytes of a smaller character come first, whatever follows either. -/
theorem utf8EncodeChar_append_lt {c d : Char} (less : c < d) (rest others : List UInt8) :
    String.utf8EncodeChar c ++ rest < String.utf8EncodeChar d ++ others := by
  have points : c.val.toNat < d.val.toNat := UInt32.lt_iff_toNat_lt.1 (Char.lt_def.1 less)
  have bound : d.val.toNat < 0x110000 := by
    have valid := d.valid
    simp only [UInt32.isValidChar, Nat.isValidChar] at valid
    omega
  unfold String.utf8EncodeChar
  generalize c.val.toNat = v at points ⊢
  generalize d.val.toNat = w at points bound ⊢
  -- bytes after the first are digits to the base 64, and the first tells how many there are
  have last := digits_lt points
  have third : v / 64 < w / 64 → _ := digits_lt
  have second : v / 64 / 64 < w / 64 / 64 → _ := digits_lt
  simp only [Nat.div_div_eq_div_mul, Nat.reduceMul] at third second
  dsimp only
  split_ifs <;>
    simp (disch := omega) only [List.cons_append, List.nil_append, List.cons_lt_cons_iff,
      UInt8.lt_iff_toNat_lt, ← UInt8.toNat_inj, UInt8.toNat_ofNat', Nat.mod_eq_of_lt,
      Nat.add_lt_add_iff_right, Nat.add_right_cancel_iff] <;>
    omega

theorem flatMap_utf8EncodeChar_lt {first second : List Char} (less : first < second) :
    first.flatMap String.utf8EncodeChar < second.flatMap String.utf8EncodeChar := by
  induction less with
  | @nil d others =>
      rw [List.flatMap_nil, List.flatMap_cons]
      cases encoded : String.utf8EncodeChar d with
      | nil => exact absurd encoded String.utf8EncodeChar_ne_nil
      | cons byte more => exact .nil
  | cons _ ih =>
      rw [List.flatMap_cons, List.flatMap_cons]
      exact List.append_left_lt ih
  | rel less =>
      rw [List.flatMap_cons, List.flatMap_cons]
      exact utf8EncodeChar_append_lt less _ _

/-- Texts compare as their bytes do. -/
theorem bytes_le_iff {first second : String} : bytes first ≤ bytes second ↔ first ≤ second := by
  have grows {first second : String} (less : first < second) : bytes first < bytes second := by
    rw [bytes_eq, bytes_eq]
    exact flatMap_utf8EncodeChar_lt less
  constructor
  · intro le
    by_contra greater
    exact le (grows (String.not_le.1 greater))
  · intro le
    rcases eq_or_ne first second with rfl | differs
    · exact List.le_refl _
    · exact List.le_of_lt (grows (Std.lt_of_le_of_ne le differs))

/-! ## Depth and name -/

/-- What the names of structures are ordered by. -/
def tierKey (depths : Depths) (name : String) : Nat ×ₗ List UInt8 :=
  toLex (depthIn depths name, bytes name)

theorem tierKey_le_iff {depths : Depths} {first second : String} :
    tierKey depths first ≤ tierKey depths second ↔
      depthIn depths first ≤ depthIn depths second ∧
        (depthIn depths first = depthIn depths second → first ≤ second) := by
  rw [tierKey, tierKey, Prod.Lex.toLex_le_toLex, bytes_le_iff]
  dsimp only
  constructor
  · rintro (less | ⟨same, le⟩)
    · exact ⟨less.le, fun same => absurd same less.ne⟩
    · exact ⟨same.le, fun _ => le⟩
  · rintro ⟨le, ties⟩
    exact le.lt_or_eq.imp id fun same => ⟨same, ties same⟩

/-- The names of all structures, each as often as it is declared, ascend by depth and then by
name. The order of the description does not show. -/
theorem structOrder_of_any_depths (schema : Schema) (depths : Depths) :
    (schema.structOrder depths).Perm (schema.structs.map Struct.name) ∧
      (schema.structOrder depths).Pairwise
        (fun a b => tierKey depths a ≤ tierKey depths b) ∧
      ∀ other : Schema, other.types.Perm schema.types →
        other.structOrder depths = schema.structOrder depths := by
  have ascending := structOrder_ascending schema depths
  refine ⟨structOrder_perm schema depths, ascending.imp tierKey_le_iff.2, ?_⟩
  intro other rearranged
  have names : (other.structs.map Struct.name).Perm (schema.structs.map Struct.name) :=
    (rearranged.filterMap TypeDef.struct?).map Struct.name
  exact structOrder_eq_of_ascending ((structOrder_perm schema depths).trans names.symm) ascending

/-- Structures of which two share a name. -/
def sharedSchema : Schema where
  types :=
    [.struct { name := "Vec" }, .struct { name := "Eye" }, .struct { name := "Pose" },
      .struct { name := "Vec", extensible := .input }]

/-- Only one of the names has a depth, and the types may as well come in reverse. -/
theorem sharedSchema_structOrder :
    sharedSchema.structOrder ⟨[("Eye", 1)]⟩ = ["Pose", "Vec", "Vec", "Eye"] ∧
      Schema.structOrder { types := sharedSchema.types.reverse } ⟨[("Eye", 1)]⟩ =
        ["Pose", "Vec", "Vec", "Eye"] := by
  have order : sharedSchema.structOrder ⟨[("Eye", 1)]⟩ = ["Pose", "Vec", "Vec", "Eye"] :=
    structOrder_eq_of_ascending (by decide) (by decide)
  obtain ⟨_, _, alike⟩ := structOrder_of_any_depths sharedSchema ⟨[("Eye", 1)]⟩
  exact ⟨order, (alike _ (List.reverse_perm _)).trans order⟩

end ApiHeader.Schema
