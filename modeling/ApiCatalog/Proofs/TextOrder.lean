import ApiCatalog.Dependencies
import Mathlib.Tactic.ByContra
import Mathlib.Tactic.SplitIfs

/-!
# The order of texts

Sorting with `precedes` puts texts in ascending order. This order compares characters; it is the
order of the bytes that encode them, by `bytes_lt_of_lt`: a later character starts with a later byte
or shares its first bytes with the earlier one, and no encoding starts another one.
-/

namespace ApiCatalog

namespace Dependencies

theorem pairwise_precedes {α : Type} (key : α → String) (items : List α) :
    (items.mergeSort fun left right => precedes (key left) (key right)).Pairwise
      fun left right => key left ≤ key right := by
  have sorted : (items.mergeSort fun left right => precedes (key left) (key right)).Pairwise
      fun left right => precedes (key left) (key right) = true := by
    apply List.pairwise_mergeSort
    · intro first second third
      simp only [precedes, decide_eq_true_eq, String.not_lt]
      exact String.le_trans
    · intro first second
      simp only [precedes, Bool.or_eq_true, decide_eq_true_eq, String.not_lt]
      exact String.le_total _ _
  exact sorted.imp fun ordered => by
    simpa only [precedes, decide_eq_true_eq, String.not_lt] using ordered

/-- Sorted texts that differ from each other stand in ascending order. -/
theorem ascending_of_sorted {texts : List String} (sorted : texts.Pairwise (· ≤ ·))
    (distinct : texts.Nodup) : texts.Pairwise (· < ·) := by
  refine (sorted.and distinct).imp ?_
  rintro left right ⟨ordered, differ⟩
  by_contra notBefore
  exact differ (String.le_antisymm ordered notBefore)

/-- Items with ascending keys can stand in one order only. -/
theorem eq_of_ascending {α : Type} (key : α → String) {left right : List α}
    (permuted : left.Perm right)
    (ascending : left.Pairwise fun earlier later => key earlier < key later)
    (otherAscending : right.Pairwise fun earlier later => key earlier < key later) :
    left = right := by
  refine permuted.eq_of_pairwise ?_ ascending otherAscending
  intro first second _ _ before after
  exact absurd after (String.lt_asymm before)

end Dependencies

namespace Text

/-- The bytes of a text. -/
def bytes (text : String) : List UInt8 :=
  text.toUTF8.data.toList

theorem bytes_eq (text : String) : bytes text = encode text.toList := by
  rw [bytes, String.toUTF8_eq_toByteArray, ← String.utf8Encode_toList, List.utf8Encode,
    List.toList_data_toByteArray, encode]

theorem toNat_byte {value : Nat} (small : value < 256) : (UInt8.ofNat value).toNat = value :=
  UInt8.toNat_ofNat_of_lt' small

theorem leading_digits (code : Nat) :
    code / 4096 = code / 64 / 64 ∧ code / 262144 = code / 64 / 64 / 64 := by
  constructor <;> omega

/-- Whatever follows them, the bytes of an earlier character come first. -/
theorem encoding_lt_of_lt {left right : Char} (before : left < right)
    (leftRest rightRest : List UInt8) :
    String.utf8EncodeChar left ++ leftRest < String.utf8EncodeChar right ++ rightRest := by
  have smaller : left.val.toNat < right.val.toNat := before
  have bounded : right.val.toNat < 0x110000 := by
    rcases right.valid with low | ⟨_, high⟩
    · exact Nat.lt_trans low (by decide)
    · exact high
  simp only [String.utf8EncodeChar]
  generalize left.val.toNat = leftCode at smaller ⊢
  generalize right.val.toNat = rightCode at smaller bounded ⊢
  -- The bytes are digits to the base 64, the first of them with a mark that grows with the length.
  simp only [leading_digits]
  split_ifs <;>
    simp (disch := omega) only [List.cons_append, List.nil_append, List.cons_lt_cons_iff,
      UInt8.lt_iff_toNat_lt, ← UInt8.toNat_inj, toNat_byte] <;>
    omega

theorem encode_lt_of_lt {left right : List Char} (before : left < right) :
    encode left < encode right := by
  unfold encode
  induction before with
  | @nil first rest =>
      obtain ⟨byte, more, encoded⟩ := List.exists_cons_of_ne_nil
        (String.utf8EncodeChar_ne_nil (c := first))
      rw [List.flatMap_nil, List.flatMap_cons, encoded, List.cons_append]
      exact List.nil_lt_cons byte _
  | cons _ induction =>
      rw [List.flatMap_cons, List.flatMap_cons]
      exact List.append_left_lt induction
  | rel earlier =>
      rw [List.flatMap_cons, List.flatMap_cons]
      exact encoding_lt_of_lt earlier _ _

/-- Texts in ascending order have their bytes in ascending order. -/
theorem bytes_lt_of_lt {left right : String} (before : left < right) :
    bytes left < bytes right := by
  rw [bytes_eq, bytes_eq]
  exact encode_lt_of_lt before

end Text

end ApiCatalog
