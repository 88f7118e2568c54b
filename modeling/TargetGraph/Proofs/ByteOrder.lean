import TargetGraph.Label
import TargetGraph.Text.Utf8

set_option relaxedAutoImplicit false
set_option autoImplicit false

/-!
# The order of labels is the order of their bytes

Labels are compared by the code points of their texts. UTF-8 keeps that order: the bytes of a lesser
character come before the bytes of a greater one, whatever follows the two.

## Main results

* `TargetGraph.Text.utf8EncodeChar_append_lt` — a character's bytes are ordered as the character is.
* `TargetGraph.Text.utf8_lt_utf8` — a text's bytes are ordered as the text is.
* `TargetGraph.Label.isLE_compare_iff` — a label is not after another just if its bytes are not.
-/

namespace TargetGraph

namespace Text

/-! ### Characters -/

/-- Small numbers are ordered as their bytes are. -/
theorem ofNat_lt_ofNat_iff {m n : Nat} (hm : m < 256) (hn : n < 256) :
    UInt8.ofNat m < UInt8.ofNat n ↔ m < n := by
  simp only [UInt8.lt_iff_toNat_lt, UInt8.toNat_ofNat']
  omega

/-- Small numbers are equal if their bytes are. -/
theorem ofNat_eq_ofNat_iff {m n : Nat} (hm : m < 256) (hn : n < 256) :
    UInt8.ofNat m = UInt8.ofNat n ↔ m = n := by
  simp only [← UInt8.toNat_inj, UInt8.toNat_ofNat']
  omega

/-- Of two numbers in base 64, the lesser one is so before its last digit or in it. -/
theorem div_lt_or_mod_lt {m n : Nat} (h : m < n) :
    m / 64 < n / 64 ∨ m / 64 = n / 64 ∧ m % 64 < n % 64 := by
  omega

/-- **The bytes of a lesser character come before those of a greater one**, whatever follows.

**Proof sketch.** The first byte says how many bytes there are, and more of them make it greater, so
a character with fewer bytes comes first. Two characters of as many bytes are compared digit by
digit in base 64, the highest first, which is how their numbers compare (`div_lt_or_mod_lt`). -/
theorem utf8EncodeChar_append_lt {c d : Char} (h : c < d) (xs ys : List UInt8) :
    String.utf8EncodeChar c ++ xs < String.utf8EncodeChar d ++ ys := by
  have hlt : c.val.toNat < d.val.toNat := h
  have hmax : d.val.toNat < 0x110000 := by
    have hvalid := d.valid
    simp only [UInt32.isValidChar, Nat.isValidChar] at hvalid
    omega
  unfold String.utf8EncodeChar
  generalize c.val.toNat = m at *
  generalize d.val.toNat = n at *
  -- every byte but the first is one digit in base 64
  have hm : m / 4096 = m / 64 / 64 := by omega
  have hm' : m / 262144 = m / 64 / 64 / 64 := by omega
  have hn : n / 4096 = n / 64 / 64 := by omega
  have hn' : n / 262144 = n / 64 / 64 / 64 := by omega
  -- ten cases are left: the greater character has no fewer bytes
  simp only
  repeat' split
  all_goals first
    | omega
    | simp (disch := omega) only [List.cons_append, List.nil_append, List.cons_lt_cons_iff,
        ofNat_lt_ofNat_iff, ofNat_eq_ofNat_iff, hm, hm', hn, hn']
  case isFalse.isFalse.isFalse.isFalse.isFalse.isFalse =>
    obtain hhigh | ⟨hhigh, hlow⟩ := div_lt_or_mod_lt hlt
    · obtain hhigh | ⟨hhigh, hlow⟩ := div_lt_or_mod_lt hhigh
      · obtain hhigh | ⟨hhigh, hlow⟩ := div_lt_or_mod_lt hhigh <;> omega
      · omega
    · omega
  all_goals omega

/-! ### Texts -/

/-- A text's bytes are those of its characters. -/
theorem utf8_eq_flatMap (text : String) :
    utf8 text = text.toList.flatMap String.utf8EncodeChar := by
  unfold utf8 String.toUTF8
  rw [← String.utf8Encode_toList, List.utf8Encode, List.toList_data_toByteArray]

/-- The bytes of characters are ordered as the characters are.

**Proof sketch.** Induction on the order of the characters. Where one list ends, the other still has
a byte; equal characters have equal bytes; and at the first difference the bytes of the two
characters decide, whatever follows (`utf8EncodeChar_append_lt`). -/
theorem flatMap_utf8EncodeChar_lt {xs ys : List Char} (h : xs < ys) :
    xs.flatMap String.utf8EncodeChar < ys.flatMap String.utf8EncodeChar := by
  induction h with
  | @nil c xs =>
    obtain ⟨b, bytes, hbytes⟩ := List.exists_cons_of_ne_nil (String.utf8EncodeChar_ne_nil (c := c))
    rw [List.flatMap_nil, List.flatMap_cons, hbytes]
    exact List.Lex.nil
  | cons _ ih => exact List.append_left_lt ih
  | rel hlt => exact utf8EncodeChar_append_lt hlt _ _

/-- **A text's bytes are ordered as the text is.** -/
theorem utf8_lt_utf8 {a b : String} (h : a < b) : utf8 a < utf8 b := by
  rw [utf8_eq_flatMap, utf8_eq_flatMap]
  exact flatMap_utf8EncodeChar_lt h

/-- A text is not after another just if its bytes are not. Both orders are total, so one direction
of `utf8_lt_utf8` gives the other. -/
theorem utf8_le_utf8_iff {a b : String} : utf8 a ≤ utf8 b ↔ a ≤ b := by
  refine ⟨fun h hlt => h (utf8_lt_utf8 hlt), fun h hlt => ?_⟩
  by_cases hba : b ≤ a
  · obtain rfl := String.le_antisymm h hba
    exact List.lt_irrefl _ hlt
  · exact List.lt_asymm hlt (utf8_lt_utf8 (String.not_le.mp hba))

end Text

namespace Label

/-- **A label is not after another just if its bytes are not.** -/
theorem isLE_compare_iff (a b : Label) :
    (compare a b).isLE ↔ Text.utf8 a.text ≤ Text.utf8 b.text := by
  rw [Text.utf8_le_utf8_iff]
  exact isLE_compareOfLessAndEq String.le_antisymm String.not_le String.le_total

/-- A label is before another when its bytes are. -/
theorem compare_eq_lt_iff (a b : Label) :
    compare a b = .lt ↔ Text.utf8 a.text < Text.utf8 b.text := by
  rw [← List.not_le, ← isLE_compare_iff]
  exact ⟨Std.OrientedCmp.not_isLE_of_lt, Std.OrientedCmp.lt_of_not_isLE⟩

end Label

end TargetGraph
