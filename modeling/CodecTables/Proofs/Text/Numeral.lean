import CodecTables.Text.Numeral
import Mathlib

/-!
# Integers and their numerals

An integer can be read back from its digits in decimal, and from those in hexadecimal whatever the
width that they are filled up to. So integers with the same numeral are the same (`decimal_inj`,
`padded_hexDigits_inj`).
-/

namespace CodecTables.Text

/-! ### Digits -/

/-- Only integers below a power of ten have a decimal. -/
theorem hasDecimal_iff (n : Int) : hasDecimal n = true ↔ n.natAbs < 10 ^ maxDigits := by
  unfold hasDecimal decimalDigits
  rw [decide_eq_true_iff, Nat.length_toDigits_le_iff (by decide) (by decide)]

/-- The number that an upper-case hexadecimal digit stands for. -/
def upperDigitValue (c : Char) : Nat := if c.isDigit then c.toNat - 48 else c.toNat - 55

/-- The number that upper-case hexadecimal digits stand for. -/
def hexNumber (cs : List Char) : Nat := cs.foldl (fun n c => 16 * n + upperDigitValue c) 0

/-- The value of a hexadecimal digit is read back. -/
theorem upperDigitValue_upperDigit {digit : Nat} (small : digit < 16) :
    upperDigitValue (upperDigit digit.digitChar) = digit := by
  revert digit
  decide

/-- A hexadecimal digit of upper case. -/
def isUpperHex (c : Char) : Bool := c.isDigit || ('A' ≤ c && c ≤ 'F')

/-- A hexadecimal digit is a digit or a capital letter. -/
theorem isUpperHex_upperDigit {digit : Nat} (small : digit < 16) :
    isUpperHex (upperDigit digit.digitChar) = true := by
  revert digit
  decide

theorem isAlphanum_of_isUpperHex {c : Char} (hex : isUpperHex c = true) : c.isAlphanum = true := by
  simp only [isUpperHex, Bool.or_eq_true, Bool.and_eq_true, decide_eq_true_eq] at hex
  rcases hex with digit | ⟨low, high⟩
  · simp [Char.isAlphanum, digit]
  · have upper : c.isUpper = true := by
      rw [Char.isUpper, decide_eq_true_eq]
      exact ⟨low, Char.le_trans high (by decide)⟩
    simp [Char.isAlphanum, Char.isAlpha, upper]

/-- The digits of a number are those of its sixteenth part, and one more. -/
theorem hexDigits_eq (n : Nat) :
    hexDigits n =
      if n < 16 then [upperDigit n.digitChar]
      else hexDigits (n / 16) ++ [upperDigit (n % 16).digitChar] := by
  unfold hexDigits
  rw [Nat.toDigits_eq_if (by decide)]
  split <;> simp

/-- The hexadecimal digits of a number are read back as it. -/
theorem hexNumber_hexDigits (n : Nat) : hexNumber (hexDigits n) = n := by
  induction n using Nat.strongRecOn with
  | _ n ih =>
    rw [hexDigits_eq]
    by_cases small : n < 16
    · rw [if_pos small]
      simp [hexNumber, upperDigitValue_upperDigit small]
    · have front := ih (n / 16) (by omega)
      have last := upperDigitValue_upperDigit (Nat.mod_lt n (by decide : 0 < 16))
      unfold hexNumber at front ⊢
      rw [if_neg small, List.foldl_append, front, List.foldl_cons, List.foldl_nil, last]
      omega

/-- Zeros before digits change nothing. -/
theorem hexNumber_zeros (count : Nat) (cs : List Char) :
    hexNumber (List.replicate count '0' ++ cs) = hexNumber cs := by
  induction count with
  | zero => rfl
  | succ count ih =>
    have zero : 16 * 0 + upperDigitValue '0' = 0 := by decide
    unfold hexNumber at ih ⊢
    rw [List.replicate_succ, List.cons_append, List.foldl_cons, zero, ih]

/-- Hexadecimal digits are digits or capital letters. -/
theorem isUpperHex_of_mem_hexDigits {n : Nat} {c : Char} (member : c ∈ hexDigits n) :
    isUpperHex c = true := by
  induction n using Nat.strongRecOn with
  | _ n ih =>
    rw [hexDigits_eq] at member
    by_cases small : n < 16
    · rw [if_pos small, List.mem_singleton] at member
      rw [member]
      exact isUpperHex_upperDigit small
    · rw [if_neg small] at member
      rcases List.mem_append.mp member with front | last
      · exact ih (n / 16) (by omega) front
      · rw [List.mem_singleton.mp last]
        exact isUpperHex_upperDigit (Nat.mod_lt n (by decide))

theorem isAlphanum_of_mem_hexDigits {n : Nat} {c : Char} (member : c ∈ hexDigits n) :
    c.isAlphanum = true :=
  isAlphanum_of_isUpperHex (isUpperHex_of_mem_hexDigits member)

theorem isAlphanum_of_mem_decimalDigits {n : Nat} {c : Char} (member : c ∈ decimalDigits n) :
    c.isAlphanum = true := by
  have digit : c.isDigit = true := Nat.isDigit_of_mem_toDigits (by decide) (by decide) member
  simp [Char.isAlphanum, digit]

/-! ### Numerals -/

section Padded

variable {digits : Nat → List Char} (alphanum : ∀ {n c}, c ∈ digits n → c.isAlphanum = true)

include alphanum

/-- The characters of a numeral are a sign, and letters and digits. -/
theorem isAlphanum_of_mem_padded {width : Nat} {n : Int} {c : Char}
    (member : c ∈ padded digits width n) : c = '-' ∨ c.isAlphanum = true := by
  rcases List.mem_append.mp member with front | digit
  · rcases List.mem_append.mp front with sign | zero
    · unfold signOf at sign
      split at sign
      · exact .inl (List.mem_singleton.mp sign)
      · exact absurd sign List.not_mem_nil
    · rw [List.eq_of_mem_replicate zero]
      exact .inr rfl
  · exact .inr (alphanum digit)

/-- Digits are not taken for a sign. -/
theorem sign_append_ne (n : Nat) {zeros : Nat} {cs : List Char} :
    ['-'] ++ cs ≠ List.replicate zeros '0' ++ digits n := by
  intro same
  have member : '-' ∈ List.replicate zeros '0' ++ digits n := by
    rw [← same]
    exact List.mem_cons_self
  rcases List.mem_append.mp member with zero | digit
  · exact absurd (List.eq_of_mem_replicate zero) (by decide)
  · exact absurd (alphanum digit) (by decide)

/-- An integer is told by its numeral if its magnitude is told by the digits. -/
theorem padded_inj (value : List Char → Nat)
    (reads : ∀ zeros n, value (List.replicate zeros '0' ++ digits n) = n) {width : Nat} {n m : Int}
    (same : padded digits width n = padded digits width m) : n = m := by
  unfold padded signOf at same
  simp only [List.append_assoc] at same
  by_cases negative : n < 0
  · by_cases negative' : m < 0
    · rw [if_pos negative, if_pos negative'] at same
      have magnitudes := congrArg value (List.append_cancel_left same)
      rw [reads, reads] at magnitudes
      omega
    · rw [if_pos negative, if_neg negative', List.nil_append] at same
      exact absurd same (sign_append_ne alphanum m.natAbs)
  · by_cases negative' : m < 0
    · rw [if_neg negative, if_pos negative', List.nil_append] at same
      exact absurd same.symm (sign_append_ne alphanum n.natAbs)
    · rw [if_neg negative, if_neg negative'] at same
      have magnitudes := congrArg value same
      rw [List.nil_append, List.nil_append, reads, reads] at magnitudes
      omega

end Padded

theorem decimal_inj {n m : Int} : decimal n = decimal m ↔ n = m := by
  constructor
  · intro same
    refine padded_inj isAlphanum_of_mem_decimalDigits (Nat.ofDigitChars 10 · 0)
      (fun zeros n => ?_) (String.ofList_injective same)
    rw [Nat.ofDigitChars_append, Nat.ofDigitChars_replicate_zero, Nat.mul_zero]
    exact Nat.ofDigitChars_ten_toDigits
  · rintro rfl
    rfl

/-- Integers differ in their hexadecimal digits, whatever these are padded to. -/
theorem padded_hexDigits_inj {width : Nat} {n m : Int}
    (same : padded hexDigits width n = padded hexDigits width m) : n = m :=
  padded_inj isAlphanum_of_mem_hexDigits hexNumber
    (fun zeros n => (hexNumber_zeros zeros _).trans (hexNumber_hexDigits n)) same

end CodecTables.Text
