import Eligibility.Double.Layout
import Eligibility.Proofs.Text

namespace Eligibility

namespace Double

-- Only the quotient counts, not how it is expanded.
theorem nearestEven_scaled (num den : Nat) (positive : 0 < k) :
    nearestEven (num * k) (den * k) = nearestEven num den := by
  have quotient : num * k / (den * k) = num / den := Nat.mul_div_mul_right num den positive
  have remainder : num * k % (den * k) = num % den * k := Nat.mul_mod_mul_right k num den
  have below : 2 * (num % den * k) < den * k ↔ 2 * (num % den) < den := by
    rw [← Nat.mul_assoc]
    exact Nat.mul_lt_mul_right positive
  have above : den * k < 2 * (num % den * k) ↔ den < 2 * (num % den) := by
    rw [← Nat.mul_assoc]
    exact Nat.mul_lt_mul_right positive
  unfold nearestEven
  simp only [quotient,remainder,below,above]

theorem roundUnits_scaled (num den : Nat) (positive : 0 < k) :
    roundUnits (num * k) (den * k) = roundUnits num den := by
  unfold roundUnits
  have quotient : num * k / (den * k) = num / den := Nat.mul_div_mul_right num den positive
  simp only [quotient,Nat.mul_right_comm den k,nearestEven_scaled num _ positive]

theorem ofRatio_scaled (negative : Bool) (m : Magnitude) (positive : 0 < k) :
    ofRatio negative (m.units * k) k = finite negative m := by
  have same : magnitude? (m.units * k) k = magnitude? m.units 1 := by
    have rounds := roundUnits_scaled m.units 1 positive
    rw [Nat.one_mul] at rounds
    unfold magnitude?
    simp only [rounds]
  unfold ofRatio
  rw [same,magnitude_units]
  rfl

theorem ofRatio_sign (negative : Bool) (reads : ofRatio false num den = finite false m) :
    ofRatio negative num den = finite negative m := by
  unfold ofRatio at *
  cases found : magnitude? num den with
  | none => rw [found] at reads; cases reads
  | some rounded => rw [found] at reads; cases reads; rfl

end Double

namespace Decimal

open Double (Magnitude)

theorem toDouble_sign (d : Decimal) (negative : Bool) (reads : d.toDouble false = .finite false m) :
    d.toDouble negative = .finite negative m := by
  unfold toDouble at *
  split at reads
  next zero => cases reads; exact if_pos zero
  next nonzero =>
    rw [if_neg nonzero]
    split at reads
    next up exponent =>
      split at reads
      · cases reads
      next small => simpa only [if_neg small] using Double.ofRatio_sign negative reads
    next down exponent =>
      split at reads
      next small => cases reads; exact if_pos small
      next large => simpa only [if_neg large] using Double.ofRatio_sign negative reads

theorem fives_twos (power : Nat) : Nat.pow 5 power * twoTo power = tenTo power :=
  (Nat.mul_pow 5 2 power).symm

theorem fives_nonzero (power : Nat) : Nat.pow 5 power ≠ 0 :=
  Nat.pos_iff_ne_zero.mp (Nat.pow_pos (by decide))

-- Far from the numbers that are settled as zero.
theorem expansion_large (units power : Nat) (nonzero : units ≠ 0) :
    2 * power ≤ (units * Nat.pow 5 power).log2 := by
  have positive : units * Nat.pow 5 power ≠ 0 :=
    Nat.mul_ne_zero nonzero (fives_nonzero power)
  rw [Nat.le_log2 positive,Nat.pow_mul]
  have fours : (2 ^ 2) ^ power ≤ 5 ^ power := Nat.pow_le_pow_left (by decide) power
  apply Nat.le_trans fours
  apply Nat.le_mul_of_pos_left
  exact Nat.pos_iff_ne_zero.mpr nonzero

theorem toDouble_zero {d : Decimal} (zero : d.digits = 0) : d.toDouble negative = .finite negative .zero :=
  if_pos zero

theorem toDouble_places (negative : Bool) (digits places : Nat) (positive : 0 < places) (nonzero : digits ≠ 0)
    (large : 3 * places < digits.log2 + Double.fractionBits + 2) :
    toDouble negative ⟨digits,-(places : Int)⟩ =
      Double.ofRatio negative (digits * Double.one) (tenTo places) := by
  cases places with
  | zero => cases positive
  | succ down =>
    unfold toDouble
    exact (if_neg nonzero).trans (if_neg (Nat.not_le.mpr large))

theorem expansion_reads (m : Magnitude) : ReadsBack m (expansion m) := by
  unfold ReadsBack expansion
  by_cases zero : m.units = 0
  · have same : m = .zero := Magnitude.ext zero
    have noDigits : m.units * Nat.pow 5 Double.fractionBits = 0 := by rw [zero,Nat.zero_mul]
    rw [same] at noDigits ⊢
    exact toDouble_zero noDigits
  · have large := expansion_large m.units Double.fractionBits zero
    have nonzero : m.units * Nat.pow 5 Double.fractionBits ≠ 0 :=
      Nat.mul_ne_zero zero (fives_nonzero _)
    rw [toDouble_places false _ Double.fractionBits (by decide) nonzero (by omega),Nat.mul_assoc,Double.one,
      fives_twos]
    exact Double.ofRatio_scaled false m (tenTo_positive _)

theorem shortest_reads (rule : HalfWay) (m : Magnitude) : ReadsBack m (shortest rule m) := by
  unfold shortest
  dsimp only
  cases found : (List.range 17).findSome? fun (more : Nat) => onGrid? rule m (leadingExponent m - more) with
  | none => exact expansion_reads m
  | some d =>
    obtain ⟨more,_,onGrid⟩ := List.exists_of_findSome?_eq_some found
    exact onGrid_reads rule m _ d onGrid

-- Digits with at most one point behind the first of them, and the decimal they spell.
inductive Spelled : List Char → Decimal → Prop where
  | whole (nonempty : text ≠ []) (digits : ∀ c ∈ text, c.isDigit = true)
      (value : Nat.ofDigitChars 10 text 0 = d.digits) (exponent : d.exponent = 0) : Spelled text d
  | point (nonempty : before ≠ []) (digits : ∀ c ∈ before ++ behind, c.isDigit = true)
      (value : Nat.ofDigitChars 10 (before ++ behind) 0 = d.digits)
      (exponent : d.exponent = -(behind.length : Int)) : Spelled (before ++ '.' :: behind) d

theorem spelled_unsigned (spelled : Spelled text d) : Numeral.unsigned? text = some d := by
  obtain ⟨amount,power⟩ := d
  unfold Numeral.unsigned?
  cases spelled with
  | whole nonempty digits value exponent =>
    have taken := Text.takeWhile_run digits (Text.ends_nil _)
    have left := Text.dropWhile_run digits (Text.ends_nil _)
    rw [List.append_nil] at taken left
    have sized : Nat.ofDigitChars 10 text 0 = amount := value
    have powered : power = 0 := exponent
    simp only [taken,left]
    simp [nonempty,Numeral.scale?,sized,powered]
  | @point before behind _ nonempty digits value exponent =>
    have inBefore : ∀ c ∈ before, c.isDigit = true := fun c member => digits c (by simp [member])
    have inBehind : ∀ c ∈ behind, c.isDigit = true := fun c member => digits c (by simp [member])
    have pointed : Text.Ends Char.isDigit ('.' :: behind) := Text.ends_cons rfl
    have taken := Text.takeWhile_run inBehind (Text.ends_nil _)
    have left := Text.dropWhile_run inBehind (Text.ends_nil _)
    rw [List.append_nil] at taken left
    have sized : Nat.ofDigitChars 10 (before ++ behind) 0 = amount := value
    have powered : power = -(behind.length : Int) := exponent
    simp only [Text.takeWhile_run inBefore pointed,Text.dropWhile_run inBefore pointed,taken,left]
    simp [nonempty,Numeral.scale?,sized,powered]

theorem spelled_head (spelled : Spelled text d) : ∃ c rest, text = c :: rest ∧ c.isDigit = true := by
  cases spelled with
  | whole nonempty digits =>
    obtain ⟨c,rest,rfl⟩ := List.exists_cons_of_ne_nil nonempty
    exact ⟨c,rest,rfl,digits c (by simp)⟩
  | point nonempty digits =>
    obtain ⟨c,rest,rfl⟩ := List.exists_cons_of_ne_nil nonempty
    exact ⟨c,_,rfl,digits c (by simp)⟩

theorem spelled_chars (spelled : Spelled text d) : ∀ c ∈ text, c.isDigit = true ∨ c = '.' := by
  intro c member
  cases spelled with
  | whole nonempty digits => exact .inl (digits c member)
  | point nonempty digits =>
    rcases List.mem_append.mp member with before | behind
    · exact .inl (digits c (List.mem_append_left _ before))
    · rcases List.mem_cons.mp behind with point | after
      · exact .inr point
      · exact .inl (digits c (List.mem_append_right _ after))

theorem spelled_read (spelled : Spelled text d) (negative : Bool) :
    Numeral.read? (Double.signChars negative ++ text) = some ⟨negative,d⟩ := by
  obtain ⟨c,rest,rfl,digit⟩ := spelled_head spelled
  have signed : Numeral.takeSign (Double.signChars negative ++ c :: rest) = (negative,c :: rest) := by
    cases negative with
    | true => rfl
    | false =>
      unfold Numeral.takeSign
      split
      · simp_all [Double.signChars]
      · simp_all [Double.signChars]
      · rfl
  unfold Numeral.read?
  rw [signed]
  simp [spelled_unsigned spelled]

-- The decimal that is left when every place is written: none of its digits stand for tens.
def placed (d : Decimal) : Decimal :=
  match d.exponent with
  | .ofNat up => ⟨d.digits * tenTo up,0⟩
  | .negSucc _ => d

theorem toDigits_digit (n : Nat) : ∀ c ∈ Nat.toDigits 10 n, c.isDigit = true := by
  intro c member
  exact Nat.isDigit_of_mem_toDigits (by omega) (by omega) member

theorem zeros_digit (count : Nat) : ∀ c ∈ List.replicate count '0', c.isDigit = true := by
  intro c member
  rw [(List.mem_replicate.mp member).2]
  rfl

theorem positional_spelled (d : Decimal) : Spelled (d.positional []) d.placed := by
  have value : Nat.ofDigitChars 10 d.digitChars 0 = d.digits := Nat.ofDigitChars_ten_toDigits
  have digits : ∀ c ∈ d.digitChars, c.isDigit = true := toDigits_digit d.digits
  unfold positional placed
  cases exponent : d.exponent with
  | ofNat up =>
    dsimp only
    rw [List.append_nil]
    apply Spelled.whole
    · simp [digitChars,Nat.toDigits_ne_nil]
    · intro c member
      rcases List.mem_append.mp member with digit | zero
      · exact digits c digit
      · exact zeros_digit _ c zero
    · rw [Nat.ofDigitChars_append,Nat.ofDigitChars_replicate_zero,value,Nat.mul_comm]
      rfl
    · rfl
  | negSucc down =>
    dsimp only
    split
    next inside =>
      have places : (d.digitChars.drop (d.digitChars.length - (down + 1))).length = down + 1 := by
        rw [List.length_drop]
        omega
      apply Spelled.point
      · intro empty
        have noWhole := congrArg List.length empty
        rw [List.length_take,List.length_nil] at noWhole
        omega
      · simpa using digits
      · simpa using value
      · rw [exponent,places]
        rfl
    next outside =>
      refine @Spelled.point ['0'] _ _ nofun ?_ ?_ ?_
      · intro c member
        rw [List.singleton_append] at member
        rcases List.mem_cons.mp member with rfl | behind
        · rfl
        · rcases List.mem_append.mp behind with zero | digit
          · exact zeros_digit _ c zero
          · exact digits c digit
      · rw [List.singleton_append,Nat.ofDigitChars_cons,Nat.ofDigitChars_append,
          Nat.ofDigitChars_replicate_zero]
        simpa using value
      · rw [exponent,List.length_append,List.length_replicate,Nat.sub_add_cancel (Nat.le_of_not_lt outside)]
        rfl

theorem placed_toDouble (d : Decimal) (reads : d.toDouble negative = .finite negative m) :
    d.placed.toDouble negative = .finite negative m := by
  unfold placed
  cases exponent : d.exponent with
  | negSucc down => exact reads
  | ofNat up =>
    by_cases zero : d.digits = 0
    · rw [toDouble_zero zero] at reads
      rw [toDouble_zero (by simp [zero]),reads]
    · have nonzero : d.digits * tenTo up ≠ 0 := Nat.mul_ne_zero zero (Nat.pos_iff_ne_zero.mp (tenTo_positive up))
      unfold toDouble at reads ⊢
      rw [if_neg zero,exponent] at reads
      dsimp only at reads
      split at reads
      · cases reads
      · rw [if_neg nonzero,← reads]
        exact congrArg (Double.ofRatio negative · 1) (congrArg (· * Double.one) (Nat.mul_one _))

end Decimal

namespace Double

-- The sign of zero does not show in plain text.
def plain : Double → Double
  | finite negative m => if m.units = 0 then zero else finite negative m
  | other => other

theorem plain_finite (n : Double) : n.plain.isFinite = n.isFinite := by
  cases n with
  | nan | infinite => rfl
  | finite negative m =>
    unfold plain
    dsimp only
    split <;> rfl

-- Plain text is a sign and digits, and these denote the number.
theorem plainChars_spelled (negative : Bool) (m : Magnitude) :
    ∃ sign text d, (finite negative m).plainChars = signChars sign ++ text ∧ Decimal.Spelled text d ∧
      d.toDouble sign = (finite negative m).plain := by
  unfold plainChars plain
  dsimp only
  split
  · refine ⟨false,['0'],⟨0,0⟩,rfl,.whole nofun ?_ rfl rfl,rfl⟩
    simp
  · have reads := Decimal.toDouble_sign _ negative (Decimal.shortest_reads .up m)
    exact ⟨negative,_,_,rfl,Decimal.positional_spelled _,Decimal.placed_toDouble _ reads⟩

end Double

end Eligibility
