import Eligibility.Json.Reader
import Eligibility.Json.Writer
import Eligibility.Proofs.Double.PlainText

namespace Eligibility

namespace Decimal

-- A whole number may get a mark behind it; all else is plain.
theorem positional_mark (mark : List Char) (d : Decimal) :
    d.positional mark = d.positional [] ++ mark ∨ d.positional mark = d.positional [] := by
  unfold positional
  cases d.exponent with
  | ofNat up => exact .inl (by simp)
  | negSucc down => exact .inr rfl

end Decimal

namespace Json

theorem digit_numberChar {c : Char} (digit : c.isDigit = true) : isNumberChar c = true := by
  simp [isNumberChar,digit]

def NumberText (text : List Char) : Prop :=
  ∃ c more, text = c :: more ∧ c.isDigit = true ∧ ∀ d ∈ more, isNumberChar d = true

theorem numberText_append (front : NumberText text) (chars : ∀ d ∈ more, isNumberChar d = true) :
    NumberText (text ++ more) := by
  obtain ⟨c,behind,rfl,digit,inBehind⟩ := front
  refine ⟨c,behind ++ more,rfl,digit,?_⟩
  intro other member
  rcases List.mem_append.mp member with inside | after
  · exact inBehind other inside
  · exact chars other after

theorem positional_text (d : Decimal) : NumberText (d.positional ['.','0']) := by
  have spelled := d.positional_spelled
  obtain ⟨c,more,whole,digit⟩ := Decimal.spelled_head spelled
  have plain : NumberText (d.positional []) := by
    refine ⟨c,more,whole,digit,?_⟩
    intro other member
    rcases Decimal.spelled_chars spelled other (whole ▸ List.mem_cons_of_mem _ member) with inside | rfl
    · exact digit_numberChar inside
    · rfl
  rcases d.positional_mark ['.','0'] with marked | same
  · rw [marked]
    exact numberText_append plain (List.all_eq_true.mp rfl)
  · rw [same]
    exact plain

theorem signedPower_text (power : Int) : ∀ c ∈ Decimal.signedPower power, isNumberChar c = true := by
  intro c member
  cases power with
  | ofNat up =>
    rcases List.mem_cons.mp member with rfl | digit
    · rfl
    · apply digit_numberChar
      exact Decimal.toDigits_digit up c digit
  | negSucc down =>
    rcases List.mem_cons.mp member with rfl | digit
    · rfl
    · apply digit_numberChar
      exact Decimal.toDigits_digit (down + 1) c digit

theorem scientific_text (d : Decimal) : NumberText d.scientific := by
  have digits : ∀ c ∈ d.digitChars, c.isDigit = true := Decimal.toDigits_digit d.digits
  have nonempty : d.digitChars ≠ [] := Nat.toDigits_ne_nil
  obtain ⟨c,more,whole⟩ := List.exists_cons_of_ne_nil nonempty
  have inMore : ∀ other ∈ more, isNumberChar other = true := by
    intro other member
    apply digit_numberChar
    apply digits
    rw [whole]
    exact List.mem_cons_of_mem _ member
  have first : NumberText (d.digitChars.take 1) := by
    refine ⟨c,[],by rw [whole]; rfl,digits c (by simp [whole]),?_⟩
    intro other nothing
    cases nothing
  unfold Decimal.scientific
  rw [List.append_assoc]
  apply numberText_append first
  intro other member
  rcases List.mem_append.mp member with fraction | power
  · rw [whole] at fraction
    by_cases alone : more.isEmpty
    · simp [alone] at fraction
    · simp [alone] at fraction
      rcases fraction with rfl | inside
      · rfl
      · exact inMore other inside
  · rcases List.mem_cons.mp power with rfl | behind
    · rfl
    · exact signedPower_text _ other behind

theorem magnitudeChars_text (m : Double.Magnitude) : NumberText (magnitudeChars m) := by
  unfold magnitudeChars
  dsimp only
  split
  · exact positional_text _
  · exact scientific_text _

theorem numberChars_text (negative : Bool) (m : Double.Magnitude) :
    ∃ c more, numberChars (.finite negative m) = c :: more ∧ (c.isDigit = true ∨ c = '-') ∧
      ∀ d ∈ more, isNumberChar d = true := by
  have size : NumberText (if m.units = 0 then "0.0".toList else magnitudeChars m) := by
    split
    · exact ⟨'0',['.','0'],rfl,rfl,List.all_eq_true.mp rfl⟩
    · exact magnitudeChars_text m
  obtain ⟨c,more,whole,digit,chars⟩ := size
  simp only [numberChars,whole]
  cases negative with
  | false => exact ⟨c,more,rfl,.inl digit,chars⟩
  | true =>
    refine ⟨'-',c :: more,rfl,.inr rfl,?_⟩
    intro other member
    rcases List.mem_cons.mp member with rfl | inside
    · exact digit_numberChar digit
    · exact chars other inside

end Json

end Eligibility
