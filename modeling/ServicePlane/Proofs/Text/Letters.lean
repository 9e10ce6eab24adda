import Mathlib.Data.List.Basic
import ServicePlane.Text.Letter

/-!
# Letters of texts

The bytes of a text are read as its characters, and no byte of it is stray.

* `Text.bytes_injective` — a text is known by its bytes;
* `Letter.ofBytes_bytes` — the letters of the bytes of a text are its characters;
* `Letter.stray_mem_ofBytes_iff` — bytes of which one is stray, and bytes of no text;
* `Letter.span_append` — characters with a property in front of a letter that has it not.
-/

namespace ServicePlane

/-! ## Bytes of texts -/

namespace Text

theorem toByteArray_bytes (text : String) : (bytes text).toByteArray = text.toByteArray := by
  rw [← String.utf8Encode_toList]
  rfl

theorem bytes_injective {s t : String} (h : bytes s = bytes t) : s = t := by
  rw [← String.toByteArray_inj, ← toByteArray_bytes, ← toByteArray_bytes, h]

@[simp]
theorem bytes_append (s t : String) : bytes (s ++ t) = bytes s ++ bytes t := by
  simp [bytes]

theorem length_bytes (text : String) : (bytes text).length = text.utf8ByteSize := by
  rw [← List.size_toByteArray, toByteArray_bytes, String.size_toByteArray]

end Text

/-! ## Letters -/

namespace Letter

theorem ofBytesFrom_append (front rest : List UInt8) :
    ofBytesFrom front.length (front ++ rest) = ofBytesFrom 0 rest := by
  induction front with
  | nil =>
      rfl
  | cons b front ih =>
      exact ih

/-- A character is met where its bytes stand, whatever follows. -/
theorem ofBytes_encode_append (c : Char) (rest : List UInt8) :
    ofBytes (String.utf8EncodeChar c ++ rest) = char c :: ofBytes rest := by
  have hsize := String.length_utf8EncodeChar c
  have hlimit := c.utf8Size_le_four
  cases hbytes : String.utf8EncodeChar c with
  | nil =>
      exact absurd hbytes String.utf8EncodeChar_ne_nil
  | cons b more =>
      rw [hbytes, List.length_cons] at hsize
      -- What is looked at begins with all bytes of the character.
      have hfront : b :: (more ++ rest).take 3 =
          String.utf8EncodeChar c ++ rest.take (3 - more.length) := by
        rw [hbytes, List.take_append, List.take_of_length_le (by omega)]
        rfl
      have hdecoded : (b :: (more ++ rest).take 3).toByteArray.utf8DecodeChar? 0 = some c := by
        rw [hfront, List.toByteArray_append]
        exact ByteArray.utf8DecodeChar?_utf8EncodeChar_append
      have hmet : c.utf8Size - 1 = more.length := by
        omega
      calc
        ofBytes (b :: more ++ rest) = char c :: ofBytesFrom (c.utf8Size - 1) (more ++ rest) := by
          rw [List.cons_append, ofBytes, ofBytesFrom, hdecoded]
        _ = char c :: ofBytes rest := by
          rw [hmet, ofBytesFrom_append, ofBytes]

/-- The bytes of a text are read as the text. -/
theorem ofBytes_bytes (text : String) : ofBytes (Text.bytes text) = ofText text := by
  rw [Text.bytes, ofText]
  induction text.toList with
  | nil =>
      rfl
  | cons c rest ih =>
      rw [List.flatMap_cons, ofBytes_encode_append, ih, List.map_cons]

/-- Where a character is met, its bytes stand. -/
theorem exists_append_of_decode {b : UInt8} {rest : List UInt8} {c : Char}
    (h : (b :: rest.take 3).toByteArray.utf8DecodeChar? 0 = some c) :
    ∃ rest', b :: rest = String.utf8EncodeChar c ++ rest' := by
  have hbytes := congrArg (fun bs => bs.data.toList) (ByteArray.eq_of_utf8DecodeChar?_eq_some h)
  simp only [List.data_toByteArray, ByteArray.data_append, Array.toList_append] at hbytes
  generalize ByteArray.data _ = more at hbytes
  refine ⟨more.toList ++ rest.drop 3, ?_⟩
  calc
    b :: rest = b :: rest.take 3 ++ rest.drop 3 := by
      rw [List.cons_append, List.take_append_drop]
    _ = String.utf8EncodeChar c ++ (more.toList ++ rest.drop 3) := by
      rw [hbytes, List.append_assoc]

/-- Bytes of which none is stray are those of a text. -/
theorem exists_text_of_stray_notMem {bytes : List UInt8} (h : stray ∉ ofBytes bytes) :
    ∃ text, bytes = Text.bytes text := by
  -- The induction is on the number of bytes, of which each character takes some.
  induction hlength : bytes.length using Nat.strongRecOn generalizing bytes with
  | ind length ih =>
      cases bytes with
      | nil =>
          exact ⟨"", rfl⟩
      | cons b rest =>
          cases hdecoded : (b :: rest.take 3).toByteArray.utf8DecodeChar? 0 with
          | none =>
              rw [ofBytes, ofBytesFrom, hdecoded] at h
              exact absurd List.mem_cons_self h
          | some c =>
              rcases exists_append_of_decode hdecoded with ⟨rest', heq⟩
              have hshorter : rest'.length < length := by
                have hsize := congrArg List.length heq
                have hpos := c.utf8Size_pos
                rw [List.length_append, String.length_utf8EncodeChar] at hsize
                omega
              rw [heq, ofBytes_encode_append, List.mem_cons, not_or] at h
              rcases ih rest'.length hshorter h.2 rfl with ⟨text, rfl⟩
              refine ⟨String.singleton c ++ text, ?_⟩
              rw [heq, Text.bytes_append]
              simp [Text.bytes]

/-- A byte is stray exactly if the bytes are those of no text. -/
theorem stray_mem_ofBytes_iff {bytes : List UInt8} :
    stray ∈ ofBytes bytes ↔ ∀ text, bytes ≠ Text.bytes text := by
  constructor
  · rintro h text rfl
    simp [ofBytes_bytes, ofText] at h
  · intro h
    refine Decidable.not_not.1 fun hnone => ?_
    rcases exists_text_of_stray_notMem hnone with ⟨text, htext⟩
    exact h text htext

/-- Characters with a property, in front of a letter that is no such character. -/
theorem span_append {p : Char → Bool} {cs : List Char} {rest : List Letter}
    (hcs : ∀ c ∈ cs, p c = true) (hrest : ∀ c, rest.head? = some (.char c) → p c = false) :
    span p (cs.map char ++ rest) = (cs, rest) := by
  induction cs with
  | nil =>
      cases rest with
      | nil =>
          rfl
      | cons l rest =>
          cases l with
          | stray =>
              rfl
          | char c =>
              simp [span, hrest c rfl]
  | cons c cs ih =>
      rw [List.forall_mem_cons] at hcs
      simp [span, hcs.1, ih hcs.2]

end Letter

end ServicePlane
