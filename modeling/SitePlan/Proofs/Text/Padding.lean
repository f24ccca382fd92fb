import SitePlan.Text.Digit

/-!
# Padded numbers

Zeros in front of a number do not change it, so padded numbers of one width tell the numbers
apart, however many digits these have.
-/

namespace SitePlan.Text

/-- A padded number is the number that it is written for. -/
theorem ofDigitChars_padNat (width n : Nat) : Nat.ofDigitChars 10 (padNat width n) 0 = n := by
  simp [padNat, Nat.ofDigitChars_append, Nat.ofDigitChars_ten_toDigits]

/-- Padded texts of one width are different for different numbers. -/
theorem padText_inj {width a b : Nat} : padText width a = padText width b ↔ a = b := by
  refine ⟨fun h => ?_, fun h => h ▸ rfl⟩
  have hdigits := congrArg (fun s : String => Nat.ofDigitChars 10 s.toList 0) h
  simpa [padText, ofDigitChars_padNat] using hdigits

end SitePlan.Text
