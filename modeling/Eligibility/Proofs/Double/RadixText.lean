import Eligibility.Proofs.Double.DigitByDigit
import Eligibility.Proofs.Double.PlainText
import Eligibility.Proofs.Text

namespace Eligibility

namespace Radix

variable {radix : Radix}

def amount (radix : Radix) (text : List Char) : Nat := radix.spelled (text.map radix.valueOf)

theorem marked_visible (marked : radix.Marked mark) : Text.isBlank mark = false := by
  cases radix
  all_goals
    rcases marked with rfl | rfl
    all_goals exact Text.ascii_visible (by decide) (by decide)

theorem digit_visible (digit : radix.Digit c) : Text.isBlank c = false := by
  have codes : '0'.toNat ≤ c.toNat ∧ c.toNat ≤ 'f'.toNat := by
    cases radix
    all_goals
      simp only [Digit,Text.order_codes,Char.reduceToNat] at digit ⊢
      omega
  simp only [Char.reduceToNat] at codes
  exact Text.ascii_visible (by omega) (by omega)

end Radix

namespace Double

theorem ofNat_zero : ofNat 0 = zero := by
  have exact : magnitude? 0 1 = some .zero := magnitude_units .zero
  rw [ofNat,Nat.zero_mul,ofRatio,exact]
  rfl

end Double

theorem Decimal.toDouble_whole (n : Nat) : toDouble false ⟨n,0⟩ = Double.ofNat n := by
  by_cases zero : n = 0
  · subst zero
    exact (toDouble_zero rfl).trans Double.ofNat_zero.symm
  · unfold toDouble
    rw [if_neg zero]
    exact congrArg (fun units => Double.ofRatio false (units * Double.one) 1) (Nat.mul_one n)

namespace Double

theorem ofChars_whole (n : Nat) : ofChars (Nat.toDigits 10 n) = ofNat n := by
  have digits := Decimal.toDigits_digit n
  have spelled : Decimal.Spelled (Nat.toDigits 10 n) ⟨n,0⟩ :=
    .whole Nat.toDigits_ne_nil digits Nat.ofDigitChars_ten_toDigits rfl
  have found : Numeral.read? (Nat.toDigits 10 n) = some ⟨false,⟨n,0⟩⟩ := Decimal.spelled_read spelled false
  rw [ofChars_numeral Nat.toDigits_ne_nil (Token.decimal_chars found)]
  unfold ofChars.decimalOrNaN
  rw [found]
  exact Decimal.toDouble_whole n

theorem ofChars_marked {radix : Radix} (marked : radix.Marked mark) (all : ∀ c ∈ text, radix.Digit c)
    (before : ∀ c ∈ front, Text.isBlank c = true) (behind : ∀ c ∈ back, Text.isBlank c = true) :
    ofChars (front ++ ('0' :: mark :: text ++ back)) = radix.toDouble text := by
  have visible : ∀ c ∈ '0' :: mark :: text, Text.isBlank c = false := by
    intro c member
    rcases List.mem_cons.mp member with rfl | later
    · exact Text.ascii_visible (by decide) (by decide)
    · rcases List.mem_cons.mp later with rfl | digit
      · exact Radix.marked_visible marked
      · exact Radix.digit_visible (all c digit)
  have trimmed := Text.trim_around before behind (Text.ends_cons (visible '0' (List.mem_cons_self ..)))
    (Text.ends_visible visible)
  unfold ofChars
  simp only [trimmed,Radix.ofMark_exact.mpr marked]

-- If the digits lose a half on the way, the text reads as the number next below the nearest one.
theorem ofChars_radix {radix : Radix} (marked : radix.Marked mark) (nonempty : text ≠ [])
    (all : ∀ c ∈ text, radix.Digit c) (before : ∀ c ∈ front, Text.isBlank c = true)
    (behind : ∀ c ∈ back, Text.isBlank c = true) :
    (Nearest (radix.amount text * one) 1 (ofChars (front ++ ('0' :: mark :: text ++ back))) ↔
      ¬radix.HalfLost (text.map radix.valueOf)) ∧
    (ofChars (front ++ ('0' :: mark :: text ++ back)) = ofChars (Nat.toDigits 10 (radix.amount text)) ↔
      ¬radix.HalfLost (text.map radix.valueOf)) ∧
    Nearest (radix.amount text * one) 1 (ofChars (Nat.toDigits 10 (radix.amount text))) ∧
    (radix.HalfLost (text.map radix.valueOf) →
      ∃ m, ofChars (front ++ ('0' :: mark :: text ++ back)) = finite false m ∧
        (ofChars (Nat.toDigits 10 (radix.amount text))).place? = some (m.units + spacing m.units)) := by
  have exact := Radix.toDouble_exact nonempty all
  rw [ofChars_marked marked all before behind,ofChars_whole,nearest_exact Nat.one_pos,nearest_exact Nat.one_pos]
  exact ⟨exact,exact,rfl,Radix.toDouble_lost nonempty all⟩

theorem upper_ff_nearest : Radix.hexadecimal.amount ['f','F'] = 255 ∧
    Nearest (255 * one) 1 (ofChars [' ','0','X','f','F','\n']) ∧
    ofChars [' ','0','X','f','F','\n'] = ofChars ['2','5','5'] := by
  have kept : ¬Radix.hexadecimal.HalfLost (['f','F'].map Radix.hexadecimal.valueOf) := fun lost =>
    absurd (Radix.lost_large lost) (by decide)
  have amount : Radix.hexadecimal.amount ['f','F'] = 255 := rfl
  have decimal : Nat.toDigits 10 255 = ['2','5','5'] := rfl
  obtain ⟨nearest,same,_⟩ := @ofChars_radix 'X' ['f','F'] [' '] ['\n'] .hexadecimal (.inr rfl) (List.cons_ne_nil _ _)
    (by simp [Radix.Digit]) (List.forall_mem_singleton.mpr rfl) (List.forall_mem_singleton.mpr rfl)
  rw [amount] at nearest same
  rw [decimal] at same
  exact ⟨amount,nearest.mpr kept,same.mpr kept⟩

-- 2^57 + 17 lies nearer to 2^57 + 32 than to 2^57. Its last digit but one leaves exactly a half, which goes
-- before the last digit is seen.
theorem half_lost_misread : Radix.hexadecimal.amount "200000000000011".toList = 2 ^ 57 + 17 ∧
    ofChars "0x200000000000011".toList = ofNat (2 ^ 57) ∧ ofNat (2 ^ 57 + 17) = ofNat (2 ^ 57 + 32) ∧
    ¬Nearest (Radix.hexadecimal.amount "200000000000011".toList * one) 1 (ofChars "0x200000000000011".toList) := by
  refine ⟨by decide +kernel,by decide +kernel,by decide +kernel,?_⟩
  rw [nearest_exact Nat.one_pos]
  decide +kernel

end Double

end Eligibility
