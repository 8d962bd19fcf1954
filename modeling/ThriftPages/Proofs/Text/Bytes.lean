/-
# The order of texts by bytes

Texts are ordered by their characters. The same order comes out if they are
compared by the bytes that they are written with in UTF-8 (`Text.bytes_lt_iff`):
a character with a smaller number has smaller bytes, whatever follows the two
(`Text.utf8EncodeChar_append_lt`), and equal characters have equal bytes.

Key definitions: `Text.bytes`.
Key theorems: `Text.utf8EncodeChar_append_lt`, `Text.bytes_lt_iff`.
-/

namespace ThriftPages.Text

/-- The bytes of a text in UTF-8. -/
def bytes (text : String) : List UInt8 := text.toUTF8.data.toList

/-- The bytes are those of the characters in order. -/
theorem bytes_eq (text : String) : bytes text = text.toList.flatMap String.utf8EncodeChar := by
  have hchars := String.toByteArray_ofList (l := text.toList)
  rw [String.ofList_toList] at hchars
  rw [bytes, String.toUTF8, hchars, List.utf8Encode, List.data_toByteArray]

/-- The bytes of a smaller character are smaller, whatever follows. -/
theorem utf8EncodeChar_append_lt {c d : Char} (h : c < d) (cs ds : List UInt8) :
    String.utf8EncodeChar c ++ cs < String.utf8EncodeChar d ++ ds := by
  have hnumbers : c.val.toNat < d.val.toNat := h
  have hbound : d.val.toNat < 0x110000 := by
    rcases d.valid with h | h <;> omega
  -- The numbers differ first in one of their four digits to the base 64.
  have hdigit : ∀ v w : Nat, v < w → v / 262144 < w / 262144 ∨ v / 262144 = w / 262144 ∧
      (v / 4096 < w / 4096 ∨ v / 4096 = w / 4096 ∧ (v / 64 < w / 64 ∨ v / 64 = w / 64)) := by
    omega
  have hdigits := hdigit _ _ hnumbers
  -- There is a case for each pair of lengths.
  fun_cases String.utf8EncodeChar c <;> fun_cases String.utf8EncodeChar d
  all_goals
    simp only [List.cons_append, List.cons_lt_cons_iff, UInt8.lt_iff_toNat_lt, ← UInt8.toNat_inj,
      UInt8.toNat_ofNat']
    rcases hdigits with h | ⟨h, h' | ⟨h', h'' | h''⟩⟩ <;> omega

/-- A character has at least one byte. -/
theorem utf8EncodeChar_append_pos (c : Char) (cs : List UInt8) :
    [] < String.utf8EncodeChar c ++ cs := by
  fun_cases String.utf8EncodeChar c <;> exact List.nil_lt_cons ..

/-- Smaller characters have smaller bytes. -/
theorem flatMap_utf8EncodeChar_lt {cs ds : List Char} (h : cs < ds) :
    cs.flatMap String.utf8EncodeChar < ds.flatMap String.utf8EncodeChar := by
  induction h with
  | nil =>
    rw [List.flatMap_nil, List.flatMap_cons]
    exact utf8EncodeChar_append_pos _ _
  | cons _ ih =>
    rw [List.flatMap_cons, List.flatMap_cons]
    exact List.append_left_lt ih
  | rel hlt =>
    rw [List.flatMap_cons, List.flatMap_cons]
    exact utf8EncodeChar_append_lt hlt _ _

theorem bytes_lt_of_lt {a b : String} (h : a < b) : bytes a < bytes b := by
  rw [bytes_eq, bytes_eq]
  exact flatMap_utf8EncodeChar_lt h

/-- **Texts are in the order of their bytes.** -/
theorem bytes_lt_iff {a b : String} : bytes a < bytes b ↔ a < b := by
  refine ⟨fun h => ?_, bytes_lt_of_lt⟩
  rcases Std.lt_trichotomy a b with hab | rfl | hba
  · exact hab
  · exact absurd h (List.lt_irrefl _)
  · exact absurd h (List.lt_asymm (bytes_lt_of_lt hba))

-- Two bytes against three.
example : bytes "é" < bytes "€" := by decide

end ThriftPages.Text
