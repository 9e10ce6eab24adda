import ServicePlane.Http.Message
import ServicePlane.Proofs.Text.ByteOrder
import ServicePlane.Proofs.Text.Letters

/-!
# Headers read as texts

A header is read as the text that has its bytes, but only if every byte is printable ASCII or a tab.
A header with any other byte is read as none, be it the header of a text or not.

* `headerText?_eq_some_iff` — when a header is read as a text;
* `Request.Says` — the first header with a name is read as a text, said of its bytes;
* `forall_visible_bytes_iff` — of which texts every byte is visible.
-/

namespace ServicePlane.Http

theorem isVisible_iff {b : UInt8} :
    isVisible b = true ↔ b = 0x09 ∨ 0x20 ≤ b ∧ b < 0x7F := by
  simp [isVisible]

/-- A visible byte is the only byte of its character. -/
theorem utf8EncodeChar_of_visible {b : UInt8} (h : isVisible b = true) :
    String.utf8EncodeChar (.ofNat b.toNat) = [b] := by
  have hall : ∀ n < 128, String.utf8EncodeChar (.ofNat n) = [UInt8.ofNat n] := by
    decide +kernel
  have hascii : b.toNat < 128 := by
    rcases isVisible_iff.1 h with rfl | ⟨_, hb⟩
    · decide
    · rw [UInt8.lt_iff_toNat_lt] at hb
      exact hb.trans (by decide)
  rw [hall _ hascii, UInt8.ofNat_toNat]

theorem bytes_of_visible {value : List UInt8} (h : ∀ b ∈ value, isVisible b = true) :
    Text.bytes (String.ofList (value.map fun b => Char.ofNat b.toNat)) = value := by
  rw [Text.bytes, String.toList_ofList, List.flatMap_map]
  induction value with
  | nil =>
      rfl
  | cons b rest ih =>
      rw [List.forall_mem_cons] at h
      rw [List.flatMap_cons, utf8EncodeChar_of_visible h.1, ih h.2, List.singleton_append]

/-- A header is read as the text with its bytes, if all of them are visible. -/
theorem headerText?_eq_some_iff {value : List UInt8} {text : String} :
    headerText? value = some text ↔
      (∀ b ∈ value, b = 0x09 ∨ 0x20 ≤ b ∧ b < 0x7F) ∧ value = Text.bytes text := by
  simp only [← isVisible_iff]
  rw [headerText?, Option.ite_none_right_eq_some, List.all_eq_true, Option.some.injEq]
  refine and_congr_right fun h => ?_
  have hvalue := bytes_of_visible h
  constructor
  · rintro rfl
    exact hvalue.symm
  · intro heq
    exact Text.bytes_injective (hvalue.trans heq)

/-- The bytes of the first header with this name are printable ASCII, blanks and tabs, and they are
those of the text. -/
def Request.Says (request : Request) (name text : String) : Prop :=
  ∃ value, request.header? name = some value ∧
    (∀ b ∈ value, b = 0x09 ∨ 0x20 ≤ b ∧ b < 0x7F) ∧ value = Text.bytes text

theorem Request.says_iff {request : Request} {name text : String} :
    request.Says name text ↔ request.headerText? name = some text := by
  rw [Request.headerText?, Option.bind_eq_some_iff]
  simp only [headerText?_eq_some_iff, Request.Says]

/-- The bytes of a text are visible exactly if its characters are. -/
theorem forall_visible_bytes_iff {text : String} :
    (∀ b ∈ Text.bytes text, b = 0x09 ∨ 0x20 ≤ b ∧ b < 0x7F) ↔
      ∀ c ∈ text.toList, c = '\t' ∨ 0x20 ≤ c.toNat ∧ c.toNat < 0x7F := by
  have hchar : ∀ c : Char,
      (∀ b ∈ String.utf8EncodeChar c, b = 0x09 ∨ 0x20 ≤ b ∧ b < 0x7F) ↔
        c = '\t' ∨ 0x20 ≤ c.toNat ∧ c.toNat < 0x7F := by
    intro c
    have htab : c = '\t' ↔ c.toNat = 9 := by
      rw [← Char.toNat_inj]
      rfl
    calc
      (∀ b ∈ String.utf8EncodeChar c, b = 0x09 ∨ 0x20 ≤ b ∧ b < 0x7F) ↔
          ∀ n ∈ Text.charBytes c, n = 9 ∨ 0x20 ≤ n ∧ n < 0x7F := by
        simp [Text.charBytes, ← UInt8.toNat_inj, UInt8.le_iff_toNat_le, UInt8.lt_iff_toNat_lt]
      _ ↔ c = '\t' ∨ 0x20 ≤ c.toNat ∧ c.toNat < 0x7F := by
        -- Every character of more than one byte begins with one that is not visible.
        rw [htab, Text.charBytes_eq]
        split_ifs <;> simp <;> omega
  simp only [Text.bytes, List.mem_flatMap, forall_exists_index, and_imp]
  constructor
  · intro h c hc
    exact (hchar c).1 fun b hb => h b c hc hb
  · intro h b c hc hb
    exact (hchar c).2 (h c hc) b hb

end ServicePlane.Http
