import Mathlib.Data.List.Lex
import Mathlib.Data.String.Basic

/-!
# Texts by their bytes

Texts are compared character by character. `utf8Bytes_lt_iff` says that comparing their bytes in
UTF-8 comes to the same: of two characters, the greater one has the greater first byte, or as many
bytes and a greater one at the first place where they differ.
-/

namespace ServicePlane

namespace Text

/-- The bytes of a character in UTF-8, as numbers. -/
def charBytes (c : Char) : List Nat :=
  (String.utf8EncodeChar c).map UInt8.toNat

/-- The bytes of a text in UTF-8, as numbers. -/
def utf8Bytes (s : String) : List Nat :=
  s.toByteArray.data.toList.map UInt8.toNat

theorem utf8Bytes_eq_flatMap (s : String) : utf8Bytes s = s.toList.flatMap charBytes := by
  have hencode : s.toByteArray.data.toList = s.toList.flatMap String.utf8EncodeChar := by
    rw [← String.utf8Encode_toList]
    exact List.toList_data_toByteArray
  rw [utf8Bytes, hencode, List.map_flatMap]
  rfl

/-! ## Characters -/

/-- The bytes of a character by its number. -/
theorem charBytes_eq (c : Char) :
    charBytes c =
      if c.toNat ≤ 0x7f then [c.toNat]
      else if c.toNat ≤ 0x7ff then [c.toNat / 64 + 0xc0, c.toNat % 64 + 0x80]
      else if c.toNat ≤ 0xffff then
        [c.toNat / 4096 + 0xe0, c.toNat / 64 % 64 + 0x80, c.toNat % 64 + 0x80]
      else
        [c.toNat / 262144 + 0xf0, c.toNat / 4096 % 64 + 0x80, c.toNat / 64 % 64 + 0x80,
          c.toNat % 64 + 0x80] := by
  have hmax : c.toNat ≤ 0x10ffff := by
    have hvalid := c.valid
    simp only [UInt32.isValidChar, Nat.isValidChar] at hvalid
    have : c.toNat = c.val.toNat := rfl
    omega
  have hval : c.val.toNat = c.toNat := rfl
  simp only [charBytes, String.utf8EncodeChar, hval]
  split
  · simp
    omega
  · split
    · simp
      omega
    · split
      · simp
        omega
      · simp
        omega

theorem charBytes_ne_nil (c : Char) : charBytes c ≠ [] := by
  simp [charBytes, String.utf8EncodeChar_ne_nil]

/-- Whatever follows, the bytes of the lesser character are the lesser ones. -/
theorem charBytes_append_lt {c d : Char} (h : c < d) (s t : List Nat) :
    charBytes c ++ s < charBytes d ++ t := by
  have hlt : c.toNat < d.toNat := h
  rw [charBytes_eq, charBytes_eq]
  split_ifs <;> simp only [List.cons_append, List.nil_append, List.cons_lt_cons_iff] <;> omega

/-! ## Texts -/

theorem flatMap_charBytes_lt {cs ds : List Char} (h : cs < ds) :
    cs.flatMap charBytes < ds.flatMap charBytes := by
  induction h with
  | @nil d ds =>
      rcases List.exists_cons_of_ne_nil (charBytes_ne_nil d) with ⟨byte, rest, hbytes⟩
      rw [List.flatMap_nil, List.flatMap_cons, hbytes]
      exact List.nil_lt_cons _ _
  | rel hcd =>
      exact charBytes_append_lt hcd _ _
  | cons _ ih =>
      exact List.Lex.append_left _ ih _

/-- Comparing texts is comparing their bytes. -/
theorem utf8Bytes_lt_iff {s t : String} : utf8Bytes s < utf8Bytes t ↔ s < t := by
  rw [utf8Bytes_eq_flatMap, utf8Bytes_eq_flatMap, String.lt_iff_toList_lt]
  constructor
  · intro h
    rcases lt_trichotomy s.toList t.toList with hlt | heq | hgt
    · exact hlt
    · rw [heq] at h
      exact absurd h (lt_irrefl _)
    · exact absurd h (lt_asymm (flatMap_charBytes_lt hgt))
  · exact flatMap_charBytes_lt

theorem utf8Bytes_injective {s t : String} (h : utf8Bytes s = utf8Bytes t) : s = t := by
  rcases lt_trichotomy s t with hlt | heq | hgt
  · exact absurd (utf8Bytes_lt_iff.2 hlt) (by simp [h])
  · exact heq
  · exact absurd (utf8Bytes_lt_iff.2 hgt) (by simp [h])

end Text

end ServicePlane
