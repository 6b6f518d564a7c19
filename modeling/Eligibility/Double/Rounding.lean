import Eligibility.Double

namespace Eligibility.Double

-- The whole number nearest to num / den.
def nearestEven (num den : Nat) : Nat :=
  let low := num / den
  let rest := num % den
  if 2 * rest < den then low
  else if den < 2 * rest then low + 1
  else low + low % 2

theorem nearestEven_bounds (num den : Nat) :
    num / den ≤ nearestEven num den ∧ nearestEven num den ≤ num / den + 1 := by
  unfold nearestEven
  dsimp only
  split
  · omega
  · split <;> omega

-- The count of units nearest to num / den, no two counts being nearer than the spacing allows.
def roundUnits (num den : Nat) : Nat :=
  let step := spacing (num / den)
  nearestEven num (den * step) * step

theorem spacing_dvd_scaled {n : Nat} (k : Nat) (small : n ≤ twoTo 53) :
    spacing (n * twoTo k) ∣ n * twoTo k := by
  unfold spacing
  by_cases zero : n = 0
  · subst zero
    rw [Nat.zero_mul]
    exact Nat.dvd_zero _
  · have nonzero : n * twoTo k ≠ 0 :=
      Nat.mul_ne_zero zero (Nat.pos_iff_ne_zero.mp (twoTo_positive k))
    rcases Nat.lt_or_eq_of_le small with below | carried
    · have bits : (n * twoTo k).log2 < 53 + k := by
        rw [log2_lt_iff nonzero,twoTo_add]
        exact Nat.mul_lt_mul_of_pos_right below (twoTo_positive k)
      exact Nat.dvd_trans (twoTo_dvd (by omega)) (Nat.dvd_mul_left _ n)
    · subst carried
      rw [← twoTo_add,log2_twoTo]
      exact twoTo_dvd (by omega)

theorem quotient_small (q : Nat) : q / spacing q < twoTo 53 := by
  unfold spacing
  by_cases zero : q = 0
  · subst zero
    rw [Nat.zero_div]
    exact twoTo_positive 53
  · rw [Nat.div_lt_iff_lt_mul (twoTo_positive _),← twoTo_add]
    exact Nat.lt_of_lt_of_le ((log2_lt_iff zero).mp (Nat.lt_succ_self _)) (twoTo_mono (by omega))

theorem spacing_dvd_roundUnits (num den : Nat) : spacing (roundUnits num den) ∣ roundUnits num den := by
  have upper := (nearestEven_bounds num (den * spacing (num / den))).2
  rw [← Nat.div_div_eq_div_mul] at upper
  have small := quotient_small (num / den)
  exact spacing_dvd_scaled _ (by omega)

def magnitude? (num den : Nat) : Option Magnitude :=
  if fits : roundUnits num den < limit then some ⟨_,spacing_dvd_roundUnits num den,fits⟩ else none

def orInfinite (negative : Bool) : Option Magnitude → Double
  | some m => finite negative m
  | none => infinite negative

-- The number nearest to (num / den) units.
def ofRatio (negative : Bool) (num den : Nat) : Double := orInfinite negative (magnitude? num den)

def ofNat (n : Nat) : Double := ofRatio false (n * one) 1

namespace Magnitude

def times (a b : Magnitude) : Option Magnitude := magnitude? (a.units * b.units) one

def dividedBy (a b : Magnitude) : Option Magnitude := magnitude? (a.units * one) b.units

end Magnitude

theorem roundUnits_whole (whole : spacing n ∣ n) : roundUnits n 1 = n := by
  unfold roundUnits
  simp only [Nat.div_one,Nat.one_mul]
  have positive : 0 < spacing n := twoTo_positive _
  have exact : nearestEven n (spacing n) = n / spacing n := by
    have none_left : n % spacing n = 0 := Nat.mod_eq_zero_of_dvd whole
    unfold nearestEven
    simp [none_left,positive]
  rw [exact,Nat.div_mul_cancel whole]

theorem roundUnits_units (m : Magnitude) : roundUnits m.units 1 = m.units := roundUnits_whole m.representable.1

theorem magnitude_units (m : Magnitude) : magnitude? m.units 1 = some m := by
  unfold magnitude?
  have same := roundUnits_units m
  have fits : roundUnits m.units 1 < limit := by rw [same]; exact m.representable.2
  simp only [fits,↓reduceDIte,Option.some.injEq]
  exact Magnitude.ext same

end Eligibility.Double
