import Mathlib.Data.List.Basic
import ServicePlane.Json.Printer
import ServicePlane.Json.Reader
import ServicePlane.Proofs.Text.Letters

/-!
# Tokens of JSON text

The texts of the smallest parts of a value, as they are printed, are read back as these parts,
whatever stands behind them.

* `quotationAt_quote` — a text in quotes, from `readsAs_escaped` for each character of it;
* `scalarPart_integer` — an integer of a machine word, from `decimalAt_toDigits` for its digits.
-/

namespace ServicePlane.Json

/-! ## Quoted texts -/

/-- The text `e` is read as one piece, and the piece stands for the character `c`. -/
def ReadsAs (e : List Char) (c : Char) : Prop :=
  ∃ p : Piece,
    (∀ ls, piecesAt (e.map .char ++ ls) = (p :: (piecesAt ls).1, (piecesAt ls).2)) ∧
      ∀ ps, charsOf none (p :: ps) = (charsOf none ps).map (c :: ·)

theorem readsAs_letter {l c : Char} (h : escapeLetter? l = some c) (hu : l ≠ 'u') :
    ReadsAs ['\\', l] c := by
  refine ⟨.char c, ?_, fun ps => rfl⟩
  intro ls
  simp [piecesAt, hu, h]

theorem readsAs_self {c : Char} (hspace : ¬ c.toNat < 0x20) (hquote : c ≠ '"')
    (hbackslash : c ≠ '\\') : ReadsAs [c] c := by
  refine ⟨.char c, ?_, fun ps => rfl⟩
  intro ls
  rw [List.map_singleton, List.singleton_append, piecesAt, if_neg hspace]
  all_goals simp [hquote, hbackslash]

/-- A character below the space is written by four digits. -/
theorem control_digits :
    ∀ n < 0x20, ∃ a b : Char,
      ("\\u00" ++ (if n < 0x10 then "0" else "") ++ String.ofList (Nat.toDigits 16 n)).toList =
        ['\\', 'u', '0', '0', a, b] ∧
      Decimal.digitValue? a = some (n / 16) ∧ Decimal.digitValue? b = some (n % 16) := by
  intro n hn
  refine ⟨Nat.digitChar (n / 16), Nat.digitChar (n % 16), ?_⟩
  revert n
  decide +kernel

theorem readsAs_digits {c a b : Char} (h : c.toNat < 0x20)
    (ha : Decimal.digitValue? a = some (c.toNat / 16))
    (hb : Decimal.digitValue? b = some (c.toNat % 16)) :
    ReadsAs ['\\', 'u', '0', '0', a, b] c := by
  have hzero : Decimal.digitValue? '0' = some 0 := by
    decide
  have hcode : c.toNat / 16 * 16 + c.toNat % 16 = c.toNat := by
    omega
  refine ⟨.unit c.toNat, ?_, ?_⟩
  · intro ls
    simp [piecesAt, hzero, ha, hb, hcode]
  · -- A control character is no half of a pair.
    have hlead : isLeading c.toNat = false := by
      simp [isLeading]
      omega
    have htrail : isTrailing c.toNat = false := by
      simp [isTrailing]
      omega
    intro ps
    rw [charsOf.eq_def]
    simp [hlead, htrail]

theorem readsAs_escaped (c : Char) : ReadsAs (escaped c).toList c := by
  unfold escaped
  split
  case h_8 hquote hbackslash _ _ _ _ _ =>
    split
    · rename_i hcontrol
      rcases control_digits c.toNat hcontrol with ⟨a, b, htext, ha, hb⟩
      rw [htext]
      exact readsAs_digits hcontrol ha hb
    · rename_i hspace
      rw [Char.toString, String.toList_singleton]
      exact readsAs_self hspace hquote hbackslash
  all_goals
    exact readsAs_letter rfl (by decide)

/-- A text that was quoted is read back, whatever follows the closing quote. -/
theorem quotationAt_quote (s : String) (rest : List Letter) :
    ∃ ls, Letter.ofText (quote s) = .char '"' :: ls ∧ quotationAt (ls ++ rest) = .text s rest := by
  have hpieces : ∀ cs : List Char, ∃ ps,
      piecesAt ((cs.flatMap fun c => Letter.ofText (escaped c)) ++ .char '"' :: rest) =
          (ps, .ok rest) ∧
        charsOf none ps = .ok cs := by
    intro cs
    induction cs with
    | nil =>
        exact ⟨[], rfl, rfl⟩
    | cons c cs ih =>
        rcases ih with ⟨ps, hread, hchars⟩
        rcases readsAs_escaped c with ⟨p, hpiece, hchar⟩
        refine ⟨p :: ps, ?_, ?_⟩
        · rw [List.flatMap_cons, List.append_assoc, Letter.ofText, hpiece, hread]
        · rw [hchar, hchars]
          rfl
  rcases hpieces s.toList with ⟨ps, hread, hchars⟩
  refine ⟨(s.toList.flatMap fun c => Letter.ofText (escaped c)) ++ [.char '"'], ?_, ?_⟩
  · simp [quote, Letter.ofText, List.flatMap_map, List.map_flatMap]
  · rw [List.append_assoc, List.singleton_append, quotationAt, hread]
    simp [hchars]

/-! ## Integers -/

/-- What can follow a value: nothing, or what separates and closes the parts of a value. -/
def Delimited (rest : List Letter) : Prop :=
  ∀ l ∈ rest.head?, l = .char ',' ∨ l = .char ']' ∨ l = .char '\x7d'

theorem digitsAt_append {ds : List Char} {rest : List Letter} (hne : ds ≠ [])
    (hdigits : ∀ c ∈ ds, c.isDigit = true) (hrest : Delimited rest) :
    digitsAt (ds.map .char ++ rest) = .ok (ds, rest) := by
  have hends : ∀ c, rest.head? = some (.char c) → c.isDigit = false := by
    intro c hc
    rcases hrest _ hc with h | h | h <;> cases h <;> rfl
  simp [digitsAt, Letter.span_append hdigits hends, hne]

/-- Only the number zero begins with a zero. -/
theorem head?_toDigits_ne (n : Nat) (h : n ≠ 0) : (Nat.toDigits 10 n).head? ≠ some '0' := by
  induction n using Nat.strongRecOn with
  | ind n ih =>
      by_cases hsmall : n < 10
      · simpa [Nat.toDigits_of_lt_base hsmall] using h
      · -- The last digit of a larger number is not its first one.
        have hfirst : (Nat.toDigits 10 n).head? = (Nat.toDigits 10 (n / 10)).head? := by
          rw [Nat.toDigits_of_base_le (by omega) (by omega)]
          exact List.head?_append_of_ne_nil _ Nat.toDigits_ne_nil
        rw [hfirst]
        exact ih (n / 10) (by omega) (by omega)

theorem isDigit_toDigits (n : Nat) : ∀ c ∈ Nat.toDigits 10 n, c.isDigit = true := fun _ hc =>
  Nat.isDigit_of_mem_toDigits (by omega) (by omega) hc

theorem wholeAt_toDigits (n : Nat) {rest : List Letter} (hrest : Delimited rest) :
    wholeAt ((Nat.toDigits 10 n).map .char ++ rest) = .ok (Nat.toDigits 10 n, rest) := by
  have hdigits := digitsAt_append Nat.toDigits_ne_nil (isDigit_toDigits n) hrest
  rw [wholeAt, hdigits]
  by_cases hzero : n = 0
  · subst hzero
    rfl
  · have hhead := head?_toDigits_ne n hzero
    simp [bind, Except.bind, hhead]

theorem fractionAt_of_delimited {rest : List Letter} (hrest : Delimited rest) :
    fractionAt rest = .ok (none, rest) := by
  cases rest with
  | nil =>
      rfl
  | cons l rest =>
      rcases hrest l rfl with rfl | rfl | rfl <;> rfl

theorem exponentAt_of_delimited {rest : List Letter} (hrest : Delimited rest) :
    exponentAt rest = .ok (none, rest) := by
  cases rest with
  | nil =>
      rfl
  | cons l rest =>
      rcases hrest l rfl with rfl | rfl | rfl <;> rfl

theorem exists_toDigits_cons (n : Nat) :
    ∃ c cs, Nat.toDigits 10 n = c :: cs ∧ c.isDigit = true := by
  cases hdigits : Nat.toDigits 10 n with
  | nil =>
      exact absurd hdigits Nat.toDigits_ne_nil
  | cons c cs =>
      exact ⟨c, cs, rfl, isDigit_toDigits n c (by simp [hdigits])⟩

theorem decimalAt_toDigits (n : Nat) {rest : List Letter} (hrest : Delimited rest) :
    let digits := (Nat.toDigits 10 n).map .char ++ rest
    decimalAt digits = .ok (⟨false, Nat.toDigits 10 n, none, none⟩, rest) ∧
      decimalAt (.char '-' :: digits) = .ok (⟨true, Nat.toDigits 10 n, none, none⟩, rest) := by
  intro digits
  have hwhole : wholeAt digits = _ := wholeAt_toDigits n hrest
  have hfraction := fractionAt_of_delimited hrest
  have hexponent := exponentAt_of_delimited hrest
  constructor
  · rcases exists_toDigits_cons n with ⟨c, cs, hcons, hdigit⟩
    have hsign : c ≠ '-' := by
      rintro rfl
      cases hdigit
    have hfirst : digits = .char c :: (cs.map .char ++ rest) := by
      simp [digits, hcons]
    rw [hfirst] at hwhole ⊢
    simp [decimalAt, hsign, hwhole, hfraction, hexponent, bind, Except.bind, pure, Except.pure]
  · simp [decimalAt, hwhole, hfraction, hexponent, bind, Except.bind, pure, Except.pure]

theorem digitValue?_of_isDigit {c : Char} (h : c.isDigit = true) :
    Decimal.digitValue? c = some (c.toNat - '0'.toNat) := by
  have hrange : '0' ≤ c ∧ c ≤ '9' := by
    simpa [Char.isDigit, Char.le_def, UInt32.le_iff_toNat_le] using h
  rw [Decimal.digitValue?, if_pos hrange]

/-- The digits of a number stand for the number. -/
theorem ofDigits_toDigits (n : Nat) : Decimal.ofDigits 10 (Nat.toDigits 10 n) = n := by
  have hsame : ∀ ds : List Char, (∀ c ∈ ds, c.isDigit = true) →
      Decimal.ofDigits 10 ds = Nat.ofDigitChars 10 ds 0 := by
    intro ds hds
    refine List.foldl_ext _ _ _ ?_
    intro m c hc
    rw [digitValue?_of_isDigit (hds c hc), Option.getD_some]
  calc
    Decimal.ofDigits 10 (Nat.toDigits 10 n) = Nat.ofDigitChars 10 (Nat.toDigits 10 n) 0 :=
      hsame _ (isDigit_toDigits n)
    _ = n := Nat.ofDigitChars_toDigits (by omega) (by omega)

/-- An integer that a machine word holds, with or without sign. -/
def FitsWord (i : Int) : Prop :=
  -9223372036854775808 ≤ i ∧ i < 18446744073709551616

/-- The character is the first one of a number. -/
abbrev BeginsNumber (c : Char) : Prop :=
  c = '-' ∨ c.isDigit = true

theorem BeginsNumber.ne {c d : Char} (hc : BeginsNumber c) (hd : ¬ BeginsNumber d) : c ≠ d := by
  rintro rfl
  exact hd hc

theorem scalarPart_number {c : Char} {ls rest : List Letter} {x : Decimal} (hc : BeginsNumber c)
    (h : decimalAt (.char c :: ls) = .ok (x, rest)) :
    scalarPart (.char c :: ls) = (documentOfDecimal x, some rest) := by
  have hnumber : (c = '-' || c.isDigit) = true := by
    simpa using hc
  rw [scalarPart, if_pos hnumber, h]
  -- What begins a number begins neither a word nor a quoted text.
  all_goals exact hc.ne (by decide)

theorem toList_toString (i : Int) :
    (toString i).toList =
      if 0 ≤ i then Nat.toDigits 10 i.toNat else '-' :: Nat.toDigits 10 (-i).toNat := by
  change i.repr.toList = _
  rw [Int.repr_eq_if]
  split <;> simp

theorem exists_toString_cons (i : Int) :
    ∃ c cs, (toString i).toList = c :: cs ∧ BeginsNumber c := by
  rw [toList_toString]
  split
  · rcases exists_toDigits_cons i.toNat with ⟨c, cs, hcons, hdigit⟩
    exact ⟨c, cs, hcons, .inr hdigit⟩
  · exact ⟨'-', _, rfl, .inl rfl⟩

/-- An integer that was written is read back, if it fits a word. -/
theorem scalarPart_integer {i : Int} (h : FitsWord i) {rest : List Letter}
    (hrest : Delimited rest) :
    scalarPart (Letter.ofText (toString i) ++ rest) = (.integer i, some rest) := by
  rcases h with ⟨hlow, hhigh⟩
  rw [Letter.ofText, toList_toString]
  by_cases hsign : 0 ≤ i
  · have hdecimal := (decimalAt_toDigits i.toNat hrest).1
    have hdocument : documentOfDecimal ⟨false, Nat.toDigits 10 i.toNat, none, none⟩ =
        .integer i := by
      have hvalue : ((i.toNat : Nat) : Int) = i := Int.toNat_of_nonneg hsign
      have hfits : i.toNat < UInt64.size := by
        change i.toNat < 18446744073709551616
        omega
      simp [documentOfDecimal, Decimal.isWhole, ofDigits_toDigits, hfits, hvalue]
    rcases exists_toDigits_cons i.toNat with ⟨c, cs, hcons, hdigit⟩
    rw [if_pos hsign]
    rw [hcons, List.map_cons, List.cons_append] at hdecimal ⊢
    rw [scalarPart_number (.inr hdigit) hdecimal, ← hcons, hdocument]
  · have hdecimal := (decimalAt_toDigits (-i).toNat hrest).2
    have hdocument : documentOfDecimal ⟨true, Nat.toDigits 10 (-i).toNat, none, none⟩ =
        .integer i := by
      have hvalue : -(((-i).toNat : Nat) : Int) = i := by
        omega
      have hzero : (-i).toNat ≠ 0 := by
        omega
      have hfits : (-i).toNat ≤ 9223372036854775808 := by
        omega
      simp only [documentOfDecimal, Decimal.isWhole, ofDigits_toDigits, hvalue]
      simp [hzero, hfits]
    rw [if_neg hsign, List.map_cons, List.cons_append, scalarPart_number (.inl rfl) hdecimal,
      hdocument]

end ServicePlane.Json
