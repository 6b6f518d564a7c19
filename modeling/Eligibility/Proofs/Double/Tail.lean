import Eligibility.Proofs.Double.Nearest

namespace Eligibility.Double

variable {p n k t : Nat}

theorem spacing_small (small : n < twoTo 53) : spacing n = 1 := by
  by_cases zero : n = 0
  · subst zero; rfl
  · have bits := (log2_lt_iff zero).mpr small
    rw [spacing,Nat.sub_eq_zero_of_le (Nat.le_of_lt_succ bits)]
    rfl

theorem spacing_large (large : twoTo 53 ≤ n) : 2 ∣ spacing n := by
  have step : spacing (twoTo 53) = 2 := by rw [spacing,log2_twoTo]; rfl
  exact step ▸ spacing_dvd large

theorem roundUnits_small (small : n < twoTo 53) : roundUnits n 1 = n :=
  roundUnits_whole (spacing_small small ▸ Nat.one_dvd n)

theorem floor_above (whole : spacing p ∣ p) (below : p ≤ n) : p ≤ n / spacing n * spacing n := by
  by_contra short
  have gap := spacing_gap whole (Nat.lt_of_not_le short)
  have inside := Nat.lt_mul_div_succ n (spacing_positive n)
  rw [Nat.mul_comm] at inside
  omega

theorem roundUnits_above (whole : spacing p ∣ p) (below : p ≤ n) : p ≤ roundUnits n 1 := by
  have lower := Nat.mul_le_mul_right (spacing n) (nearestEven_bounds n (spacing n)).1
  unfold roundUnits
  simp only [Nat.div_one,Nat.one_mul]
  exact Nat.le_trans (floor_above whole below) lower

theorem magnitude_past (past : limit ≤ n) : magnitude? n 1 = none :=
  dif_neg (Nat.not_lt.mpr (roundUnits_above spacing_limit past))

theorem spacing_times (whole : spacing p ∣ p) (k : Nat) : spacing (p * twoTo k) ∣ p * twoTo k := by
  have small := quotient_small p
  have scaled := spacing_dvd_scaled (p.log2 - 52 + k) (Nat.le_of_lt small)
  rw [twoTo_add,← Nat.mul_assoc] at scaled
  rwa [show p / spacing p * twoTo (p.log2 - 52) = p from Nat.div_mul_cancel whole] at scaled

theorem spacing_tail (large : twoTo 53 ≤ n) (short : t < twoTo k) :
    spacing (n * twoTo k + t) = spacing n * twoTo k := by
  have nonzero : n ≠ 0 := Nat.pos_iff_ne_zero.mp (Nat.lt_of_lt_of_le (twoTo_positive 53) large)
  have leading : 53 ≤ n.log2 := (Nat.le_log2 nonzero).mpr large
  obtain ⟨low,high⟩ := (Nat.log2_eq_iff nonzero).mp rfl
  have bits : (n * twoTo k + t).log2 = n.log2 + k := by
    have below := Nat.mul_le_mul_right (twoTo k) low
    have above := Nat.mul_le_mul_right (twoTo k) high
    rw [Nat.succ_mul] at above
    rw [Nat.log2_eq_iff (Nat.pos_iff_ne_zero.mp (Nat.add_pos_left (Nat.mul_pos (by omega) (twoTo_positive k)) t)),
      Nat.add_right_comm,Nat.pow_add,Nat.pow_add 2 (n.log2 + 1)]
    exact ⟨Nat.le_trans below (Nat.le_add_right _ t),Nat.lt_of_lt_of_le (Nat.add_lt_add_left short _) above⟩
  unfold spacing
  rw [bits,← twoTo_add,Nat.sub_add_comm (by omega)]

theorem spacing_scaled (large : twoTo 53 ≤ n) (k : Nat) : spacing (n * twoTo k) = spacing n * twoTo k := by
  have scaled := spacing_tail large (twoTo_positive k)
  rwa [Nat.add_zero] at scaled

theorem floor_spacing (n : Nat) : spacing (n / spacing n * spacing n) = spacing n :=
  Nat.dvd_antisymm (spacing_dvd (Nat.div_mul_le_self n _)) (spacing_floor n)

-- Half a step above an even count of steps, which is rounded down.
def TiedDown (n : Nat) : Prop := 2 * (n % spacing n) = spacing n ∧ n / spacing n % 2 = 0

instance (n : Nat) : Decidable (TiedDown n) := inferInstanceAs (Decidable (_ ∧ _))

theorem divided_tail {den : Nat} (n : Nat) (positive : 0 < den) (short : t < k) :
    (n * k + t) / (den * k) = n / den ∧ (n * k + t) % (den * k) = n % den * k + t := by
  have parts := congrArg (· * k) (Nat.div_add_mod n den)
  have rest := Nat.mul_le_mul_right k (Nat.mod_lt n positive)
  simp only [Nat.add_mul,Nat.succ_mul] at parts rest
  rw [Nat.div_mod_unique (by omega),Nat.mul_right_comm]
  omega

-- Behind a half that is rounded down a tail makes all the difference. Elsewhere it makes none.
theorem nearestEven_tail {den : Nat} (n : Nat) (even : 2 ∣ den) (positive : 0 < den) (short : t < k) :
    nearestEven (n * k + t) (den * k) =
      if (2 * (n % den) = den ∧ n / den % 2 = 0) ∧ t ≠ 0 then n / den + 1 else nearestEven n den := by
  obtain ⟨quotient,remainder⟩ := divided_tail n positive short
  obtain ⟨half,rfl⟩ := even
  unfold nearestEven
  dsimp only
  rw [quotient,remainder,Nat.mul_assoc]
  rcases Nat.lt_trichotomy (n % (2 * half)) half with under | same | above
  · have scaled := Nat.mul_le_mul_right k under
    rw [Nat.succ_mul] at scaled
    rw [if_pos (by omega),if_neg (by omega),if_pos (by omega)]
  · rw [same]
    by_cases noTail : t = 0
    · rw [if_neg (by omega),if_neg (by omega),if_neg (by omega),if_neg (by omega),if_neg (by omega)]
    · rw [if_neg (by omega),if_pos (by omega),if_neg (Nat.lt_irrefl _),if_neg (Nat.lt_irrefl _)]
      split <;> omega
  · have scaled := Nat.mul_le_mul_right k above
    rw [Nat.succ_mul] at scaled
    rw [if_neg (by omega),if_pos (by omega),if_neg (by omega),if_neg (by omega),if_pos (by omega)]

theorem roundUnits_tail (large : twoTo 53 ≤ n) (short : t < twoTo k) :
    roundUnits (n * twoTo k + t) 1 =
      (if TiedDown n ∧ t ≠ 0 then n / spacing n * spacing n + spacing n else roundUnits n 1) * twoTo k := by
  have tail := nearestEven_tail n (spacing_large large) (spacing_positive n) short
  unfold roundUnits
  simp only [Nat.div_one,Nat.one_mul]
  rw [spacing_tail large short,tail,← Nat.mul_assoc]
  unfold TiedDown
  split
  · rw [Nat.succ_mul]
  · rfl

theorem untied (whole : spacing n ∣ n) : ¬TiedDown n := by
  rintro ⟨half,_⟩
  rw [Nat.mod_eq_zero_of_dvd whole] at half
  exact Nat.ne_of_lt (spacing_positive n) half

theorem roundUnits_tied (tied : TiedDown n) : roundUnits n 1 = n / spacing n * spacing n := by
  obtain ⟨half,even⟩ := tied
  unfold roundUnits nearestEven
  simp only [Nat.div_one,Nat.one_mul]
  rw [half,even,if_neg (Nat.lt_irrefl _),if_neg (Nat.lt_irrefl _),Nat.add_zero]

theorem roundUnits_ones (n : Nat) : roundUnits (n * one) 1 = roundUnits n 1 * one := by
  rcases Nat.lt_or_ge n (twoTo 53) with small | large
  · rw [roundUnits_small small]
    exact roundUnits_whole (spacing_dvd_scaled fractionBits (Nat.le_of_lt small))
  · have scaled := roundUnits_tail large (twoTo_positive fractionBits)
    rwa [if_neg (fun lost => lost.2 rfl),Nat.add_zero] at scaled

end Eligibility.Double
