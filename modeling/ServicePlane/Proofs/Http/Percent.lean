import ServicePlane.Http.Url

/-!
# Percent-encoded text, read back

An address writes some characters of its path by their bytes, each as a percent sign and two digits.
A percent sign that was there before is left as it is. A text that holds none is read back.

* `encodedChar` — how a character is written, and `toList_encoded` — a text as these in a row;
* `mem_encodedChar` — what can stand in a text that is written this way;
* `percentDecoded?_encoded` — a text without percent signs is read back.
-/

namespace ServicePlane.Http

/-- The upper-case digit of a number below sixteen. -/
def hexDigit (n : Nat) : Char :=
  n.digitChar.toUpper

theorem digitValue?_hexDigit : ∀ n < 16, Decimal.digitValue? (hexDigit n) = some n := by
  decide

theorem toList_hexByte (b : UInt8) :
    (Url.hexByte b).toList = [hexDigit (b.toNat / 16), hexDigit (b.toNat % 16)] := by
  have hall : ∀ n < 256, (Url.hexByte (.ofNat n)).toList =
      [hexDigit (n / 16), hexDigit (n % 16)] := by
    decide +kernel
  simpa using hall b.toNat b.toNat_lt

/-! ## Writing -/

/-- A character as it is written in the path of an address. -/
def encodedChar (c : Char) : List Char :=
  if Url.isEncoded c then
    (utf8Bytes c).flatMap fun b => ['%', hexDigit (b.toNat / 16), hexDigit (b.toNat % 16)]
  else [c]

theorem toList_encoded (cs : List Char) : (Url.encoded cs).toList = cs.flatMap encodedChar := by
  have hchar : ∀ c, (if Url.isEncoded c then
        String.join ((utf8Bytes c).map fun b => "%" ++ Url.hexByte b) else c.toString).toList =
      encodedChar c := by
    intro c
    rw [encodedChar]
    split
    · simp [String.toList_join, List.flatMap_map, toList_hexByte]
    · simp
  rw [Url.encoded, String.toList_join, List.flatMap_map]
  simp only [hchar]

/-- What is written is the character itself, or percent signs and digits. -/
theorem mem_encodedChar {c d : Char} (h : d ∈ encodedChar c) :
    d = c ∨ d = '%' ∨ ∃ n < 16, d = hexDigit n := by
  rw [encodedChar] at h
  split at h
  · rcases List.mem_flatMap.1 h with ⟨b, _, hd⟩
    have hb := b.toNat_lt
    simp only [List.mem_cons, List.not_mem_nil, or_false] at hd
    rcases hd with rfl | rfl | rfl
    · exact .inr (.inl rfl)
    · exact .inr (.inr ⟨b.toNat / 16, by omega, rfl⟩)
    · exact .inr (.inr ⟨b.toNat % 16, by omega, rfl⟩)
  · exact .inl (by simpa using h)

/-! ## Reading -/

theorem percentDecodedBytes_of_ne {c : Char} (h : c ≠ '%') (rest : List Char) :
    percentDecodedBytes (c :: rest) = utf8Bytes c ++ percentDecodedBytes rest := by
  rw [percentDecodedBytes]
  simp [h]

theorem percentDecodedBytes_hex (b : UInt8) (rest : List Char) :
    percentDecodedBytes ('%' :: hexDigit (b.toNat / 16) :: hexDigit (b.toNat % 16) :: rest) =
      b :: percentDecodedBytes rest := by
  have hb := b.toNat_lt
  rw [percentDecodedBytes, digitValue?_hexDigit _ (by omega), digitValue?_hexDigit _ (by omega)]
  simp [Nat.div_add_mod]

/-- A character that is no percent sign is read back from what is written for it. -/
theorem percentDecodedBytes_encodedChar {c : Char} (h : c ≠ '%') (rest : List Char) :
    percentDecodedBytes (encodedChar c ++ rest) = utf8Bytes c ++ percentDecodedBytes rest := by
  rw [encodedChar]
  split
  · generalize utf8Bytes c = bytes
    induction bytes with
    | nil =>
        rfl
    | cons b bytes ih =>
        simp only [List.flatMap_cons, List.cons_append, List.nil_append, percentDecodedBytes_hex, ih]
  · exact percentDecodedBytes_of_ne h rest

theorem percentDecodedBytes_flatMap {cs : List Char} (h : '%' ∉ cs) :
    percentDecodedBytes (cs.flatMap encodedChar) = cs.flatMap utf8Bytes := by
  induction cs with
  | nil =>
      rfl
  | cons c rest ih =>
      rw [List.mem_cons, not_or] at h
      rw [List.flatMap_cons, List.flatMap_cons, percentDecodedBytes_encodedChar (Ne.symm h.1),
        ih h.2]

theorem percentDecoded?_encoded {cs : List Char} (h : '%' ∉ cs) :
    percentDecoded? (Url.encoded cs) = some (String.ofList cs) := by
  rw [percentDecoded?, toList_encoded, percentDecodedBytes_flatMap h]
  have hbytes : (cs.flatMap utf8Bytes).toByteArray = (String.ofList cs).toByteArray := by
    rw [String.toByteArray_ofList]
    rfl
  rw [hbytes, String.fromUTF8?, dif_pos (String.ofList cs).isValidUTF8]
  rfl

end ServicePlane.Http
