import Mathlib.Tactic.Lemma

/-!
# UTF-8 in parts

Bytes that are put together from a text and other bytes are a text just if the other bytes
are one.
-/

namespace Utf8Bytes

variable {a b : ByteArray}

/-- Where a text is cut, either both parts are texts or none is. -/
lemma isValidUTF8_parts (h : (a ++ b).IsValidUTF8) : a.IsValidUTF8 ↔ b.IsValidUTF8 := by
  let s : String := ⟨a ++ b, h⟩
  have hsize : s.utf8ByteSize = a.size + b.size := ByteArray.size_append
  have hleft : s.toByteArray.extract 0 a.size = a := ByteArray.extract_append_eq_left rfl
  have hright : s.toByteArray.extract a.size s.utf8ByteSize = b := by
    rw [hsize]
    exact ByteArray.extract_append_eq_right rfl rfl
  have hle : (⟨a.size⟩ : String.Pos.Raw) ≤ s.rawEndPos := by
    rw [String.Pos.Raw.le_iff]
    simp [hsize]
  have hcut := String.Pos.Raw.isValid_iff_isValidUTF8_extract_zero (s := s) (p := ⟨a.size⟩)
  have hrest := String.Pos.Raw.isValid_iff_isValidUTF8_extract_utf8ByteSize (s := s)
    (p := ⟨a.size⟩)
  rw [hleft, and_iff_right hle] at hcut
  rw [hright, and_iff_right hle] at hrest
  exact hcut.symm.trans hrest

theorem isValidUTF8_append_left (ha : a.IsValidUTF8) : (a ++ b).IsValidUTF8 ↔ b.IsValidUTF8 :=
  ⟨fun h => (isValidUTF8_parts h).mp ha, ha.append⟩

theorem isValidUTF8_append_right (hb : b.IsValidUTF8) : (a ++ b).IsValidUTF8 ↔ a.IsValidUTF8 :=
  ⟨fun h => (isValidUTF8_parts h).mpr hb, fun h => h.append hb⟩

lemma fromUTF8?_isSome (b : ByteArray) : (String.fromUTF8? b).isSome ↔ b.IsValidUTF8 := by
  unfold String.fromUTF8?
  by_cases hvalid : b.IsValidUTF8
  · rw [dif_pos hvalid]
    exact iff_of_true rfl hvalid
  · rw [dif_neg hvalid]
    exact iff_of_false (by decide) hvalid

end Utf8Bytes
