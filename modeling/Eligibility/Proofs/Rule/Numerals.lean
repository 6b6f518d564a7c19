import Eligibility.Proofs.Double.DecimalText
import Eligibility.Proofs.Text

namespace Eligibility

namespace Token

def isNumeralChar (c : Char) : Bool :=
  c.isDigit || c == '.' || isExponentMark c || c == '+' || c == '-'

theorem numeral_stops (afterMark : Bool) (ends : Text.Ends isNumeralChar rest) :
    numeral afterMark rest = ([],rest) := by
  cases rest with
  | nil => rfl
  | cons c more =>
    have other := ends c more rfl
    simp only [isNumeralChar,Bool.or_eq_false_iff] at other
    simp [numeral,other]

def Whole (afterMark : Bool) (text : List Char) : Prop := (numeral afterMark text).2 = []

theorem whole_run (whole : Whole afterMark text) (ends : Text.Ends isNumeralChar rest) :
    numeral afterMark (text ++ rest) = (text,rest) := by
  induction text generalizing afterMark with
  | nil => exact numeral_stops afterMark ends
  | cons c text ih =>
    unfold Whole at whole
    rw [numeral] at whole
    rw [List.cons_append,numeral]
    split at whole
    next taken =>
      rw [if_pos taken,ih whole]
    · cases whole

theorem whole_mark (front : c.isDigit = true ∨ c = '.' ∨ isExponentMark c = true)
    (whole : Whole (isExponentMark c) text) (afterMark : Bool) : Whole afterMark (c :: text) := by
  have taken : (c.isDigit || c == '.' || isExponentMark c || (afterMark && (c == '+' || c == '-'))) = true := by
    rcases front with front | rfl | front <;> simp [*]
  unfold Whole
  rw [numeral,if_pos taken]
  exact whole

theorem whole_sign (sign : c = '+' ∨ c = '-') (whole : Whole false text) : Whole true (c :: text) := by
  unfold Whole
  rcases sign with rfl | rfl <;> exact whole

theorem whole_digits (digits : ∀ c ∈ text, c.isDigit = true) (whole : ∀ afterMark, Whole afterMark rest)
    (afterMark : Bool) : Whole afterMark (text ++ rest) := by
  induction text generalizing afterMark with
  | nil => exact whole afterMark
  | cons c text ih =>
    apply whole_mark (.inl (digits c (List.mem_cons_self ..)))
    apply ih
    exact fun d member => digits d (List.mem_cons_of_mem _ member)

theorem whole_nil (afterMark : Bool) : Whole afterMark [] := rfl

theorem whole_power (sign : Numeral.Sign signed) (digits : Numeral.Digits power) : Whole true (signed ++ power) := by
  have all := whole_digits digits.2 whole_nil
  rw [List.append_nil] at all
  cases sign with
  | none => exact all true
  | plus => exact whole_sign (.inl rfl) (all false)
  | minus => exact whole_sign (.inr rfl) (all false)

theorem whole_scale (scale : Numeral.Scale text) (afterMark : Bool) : Whole afterMark text := by
  cases scale with
  | none => exact whole_nil afterMark
  | @power mark signed power marks sign digits =>
    have marked : isExponentMark mark = true := by rcases marks with rfl | rfl <;> rfl
    apply whole_mark (.inr (.inr marked))
    rw [marked]
    exact whole_power sign digits

theorem whole_unsigned (significand : Numeral.Significand body) (scale : Numeral.Scale scaled) (afterMark : Bool) :
    Whole afterMark (body ++ scaled) := by
  have behind := whole_scale scale
  cases significand with
  | whole digits => exact whole_digits digits.2 behind afterMark
  | point digits more =>
    rw [List.append_assoc]
    apply whole_digits digits.2
    exact whole_mark (.inr (.inl rfl)) (whole_digits more behind _)
  | fraction digits => exact whole_mark (.inr (.inl rfl)) (whole_digits digits.2 behind _) afterMark

theorem whole_behind (front : c.isDigit = true ∨ c = '.') (whole : Whole afterMark (c :: text)) : Whole false text := by
  have noMark : isExponentMark c = false := by
    rcases front with digit | rfl
    · have small : c ≠ 'e' := Text.ne_of_kind digit rfl
      have large : c ≠ 'E' := Text.ne_of_kind digit rfl
      simp [isExponentMark,small,large]
    · rfl
  unfold Whole at whole
  rw [numeral,noMark] at whole
  split at whole
  · exact whole
  · cases whole

-- A decimal begins with a digit, a point or a minus, and then is taken to its end.
theorem decimal_whole (found : Numeral.read? text = some n) (noPlus : text.head? ≠ some '+') :
    ∃ c more, text = c :: more ∧ (c.isDigit = true ∨ c = '.' ∨ c = '-') ∧ Whole false more := by
  obtain ⟨sign,significand,scale⟩ := Numeral.read_exact.mp ⟨n,found⟩
  have whole := whole_unsigned significand scale false
  cases sign with
  | plus => exact absurd rfl noPlus
  | minus => exact ⟨'-',_,rfl,.inr (.inr rfl),whole⟩
  | none =>
    obtain ⟨c,more,rfl,front⟩ := Numeral.significand_front significand
    exact ⟨c,_,rfl,front.imp_right .inl,whole_behind front whole⟩

theorem whole_chars (whole : Whole afterMark text) : ∀ c ∈ text, isNumeralChar c = true := by
  induction text generalizing afterMark with
  | nil => nofun
  | cons c text ih =>
    unfold Whole at whole
    rw [numeral] at whole
    split at whole
    next taken =>
      intro d member
      rcases List.mem_cons.mp member with rfl | behind
      · simp only [isNumeralChar,Bool.or_eq_true,Bool.and_eq_true] at taken ⊢
        rcases taken with ((digit | point) | mark) | ⟨_,plus | minus⟩ <;> simp [*]
      · exact ih whole d behind
    · cases whole

theorem decimal_chars (found : Numeral.read? text = some n) : ∀ c ∈ text, isNumeralChar c = true := by
  obtain ⟨sign,significand,scale⟩ := Numeral.read_exact.mp ⟨n,found⟩
  have inside := whole_chars (whole_unsigned significand scale false)
  cases sign with
  | none => exact inside
  | plus | minus => exact List.forall_mem_cons.mpr ⟨rfl,inside⟩

theorem digit_bounds {c : Char} (digit : c.isDigit = true) : 0x30 ≤ c.toNat ∧ c.toNat ≤ 0x39 := by
  simpa [Char.isDigit,UInt32.le_iff_toNat_le] using digit

theorem numeralChar_visible (inside : isNumeralChar c = true) : Text.isBlank c = false := by
  simp only [isNumeralChar,isExponentMark,Bool.or_eq_true,beq_iff_eq] at inside
  rcases inside with (((digit | rfl) | rfl | rfl) | rfl) | rfl
  · have bounds := digit_bounds digit
    exact Text.ascii_visible (by omega) (by omega)
  all_goals rfl

end Token

end Eligibility
