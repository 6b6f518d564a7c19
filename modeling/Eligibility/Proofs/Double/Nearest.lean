import Mathlib.Data.Nat.Dist
import Eligibility.Double.Rounding

namespace Eligibility.Double

-- Where a number that is not below zero stands, in units. Infinity stands where the finite numbers end.
def place? : Double → Option Nat
  | finite false m => some m.units
  | infinite false => some limit
  | _ => none

-- Every other number stands farther from num / den, or just as far and this place is even.
def Foremost (num den place : Nat) : Prop :=
  ∀ (other : Double) (rival : Nat), other.place? = some rival → rival ≠ place →
    Nat.dist (place * den) num < Nat.dist (rival * den) num ∨
      (Nat.dist (place * den) num = Nat.dist (rival * den) num ∧ 2 * spacing place ∣ place)

def Nearest (num den : Nat) (n : Double) : Prop := ∃ place, n.place? = some place ∧ Foremost num den place

section

variable {num den p q place rival : Nat}

theorem spacing_positive (units : Nat) : 0 < spacing units := twoTo_positive _

theorem spacing_dvd (within : p ≤ q) : spacing p ∣ spacing q := by
  apply twoTo_dvd
  by_cases zero : p = 0
  · simp [zero]
  · have bits : p.log2 ≤ q.log2 := (Nat.le_log2 (by omega)).mpr (Nat.le_trans (Nat.log2_self_le zero) within)
    omega

theorem spacing_twoTo (power : Nat) : spacing (twoTo power) ∣ twoTo power := by
  unfold spacing
  rw [log2_twoTo]
  exact twoTo_dvd (Nat.sub_le _ _)

theorem spacing_limit : spacing limit ∣ limit := spacing_twoTo _

-- Where a number stands among whole steps, the steps are no shorter.
theorem spacing_floor (q : Nat) : spacing q ∣ spacing (q / spacing q * spacing q) := by
  by_cases small : q.log2 ≤ 52
  · have unit : spacing q = 1 := by rw [spacing,Nat.sub_eq_zero_of_le small]; rfl
    rw [unit]
    exact Nat.one_dvd _
  · have nonzero : q ≠ 0 := by rintro rfl; simp at small
    have leading : twoTo q.log2 ≤ q / spacing q * spacing q := by
      apply Nat.le_of_lt_add_of_dvd _ (twoTo_dvd (Nat.sub_le _ _)) (Nat.dvd_mul_left _ _)
      have below := Nat.lt_mul_div_succ q (spacing_positive q)
      rw [Nat.mul_comm,Nat.succ_mul] at below
      exact Nat.lt_of_le_of_lt (Nat.log2_self_le nonzero) below
    have same : spacing (twoTo q.log2) = spacing q := by rw [spacing,log2_twoTo]; rfl
    rw [← same]
    exact spacing_dvd (same ▸ leading)

theorem spacing_gap (whole : spacing p ∣ p) (above : q / spacing q * spacing q < p) :
    (q / spacing q + 1) * spacing q ≤ p := by
  have steps : spacing q ∣ p := Nat.dvd_trans (spacing_floor q) (Nat.dvd_trans (spacing_dvd (Nat.le_of_lt above)) whole)
  apply Nat.le_of_lt_add_of_dvd _ (Nat.dvd_mul_left _ _) steps
  rw [Nat.succ_mul]
  omega

theorem spacing_next (whole : spacing p ∣ p) : spacing (p + spacing p) ∣ p + spacing p := by
  have small := quotient_small p
  have next : p + spacing p = (p / spacing p + 1) * spacing p := by rw [Nat.succ_mul,Nat.div_mul_cancel whole]
  rw [next]
  exact spacing_dvd_scaled _ small

theorem spacing_even {n : Nat} (k : Nat) (even : n % 2 = 0) (small : n ≤ twoTo 53) :
    2 * spacing (n * twoTo k) ∣ n * twoTo k := by
  obtain ⟨half,rfl⟩ := Nat.dvd_of_mod_eq_zero even
  rw [Nat.mul_assoc]
  apply Nat.mul_dvd_mul_left
  rw [← Nat.mul_assoc]
  rcases Nat.lt_or_eq_of_le small with below | carried
  · by_cases zero : half = 0
    · simp [zero]
    · have nonzero : 2 * half * twoTo k ≠ 0 :=
        Nat.mul_ne_zero (by omega) (Nat.pos_iff_ne_zero.mp (twoTo_positive k))
      have bits : (2 * half * twoTo k).log2 < 53 + k := by
        rw [log2_lt_iff nonzero,twoTo_add]
        exact Nat.mul_lt_mul_of_pos_right below (twoTo_positive k)
      exact Nat.dvd_trans (twoTo_dvd (by omega)) (Nat.dvd_mul_left _ half)
  · have top : half = twoTo 52 := by
      have twice : twoTo 53 = 2 * twoTo 52 := rfl
      omega
    rw [carried,top,← twoTo_add,← twoTo_add,spacing,log2_twoTo]
    exact twoTo_dvd (by omega)

-- The places of numbers are whole steps up to the limit, and each belongs to one number.
theorem place_exact (n : Double) : n.place? = some place ↔
    (∃ m : Magnitude, n = finite false m ∧ m.units = place) ∨ (n = infinite false ∧ limit = place) := by
  unfold place?
  split <;> simp_all

theorem place_sound {n : Double} (found : n.place? = some place) : spacing place ∣ place ∧ place ≤ limit := by
  rcases (place_exact n).mp found with ⟨m,_,rfl⟩ | ⟨_,rfl⟩
  · exact ⟨m.representable.1,Nat.le_of_lt m.representable.2⟩
  · exact ⟨spacing_limit,Nat.le_refl _⟩

theorem place_complete (whole : spacing place ∣ place) (within : place ≤ limit) :
    ∃ n : Double, n.place? = some place := by
  rcases Nat.lt_or_eq_of_le within with below | top
  · exact ⟨finite false ⟨place,whole,below⟩,rfl⟩
  · exact ⟨infinite false,congrArg some top.symm⟩

theorem place_injective {a b : Double} (first : a.place? = some place) (second : b.place? = some place) : a = b := by
  rcases (place_exact a).mp first with ⟨m,rfl,there⟩ | ⟨rfl,there⟩
  all_goals
    rcases (place_exact b).mp second with ⟨other,rfl,also⟩ | ⟨rfl,also⟩
  · rw [Magnitude.ext (there.trans also.symm)]
  · exact absurd (there.trans also.symm) (Nat.ne_of_lt m.representable.2)
  · exact absurd (also.trans there.symm) (Nat.ne_of_lt other.representable.2)
  · rfl

theorem nearestEven_cases (num den : Nat) :
    (nearestEven num den = num / den ∧ 2 * (num % den) ≤ den ∨
      nearestEven num den = num / den + 1 ∧ den ≤ 2 * (num % den)) ∧
    (2 * (num % den) = den → nearestEven num den % 2 = 0) := by
  unfold nearestEven
  dsimp only
  split
  · omega
  · split <;> omega

theorem nearestEven_near {other : Nat} (positive : 0 < den)
    (beside : other ≤ num / den * den ∨ (num / den + 1) * den ≤ other) (apart : other ≠ nearestEven num den * den) :
    Nat.dist (nearestEven num den * den) num < Nat.dist other num ∨
      (Nat.dist (nearestEven num den * den) num = Nat.dist other num ∧ nearestEven num den % 2 = 0) := by
  have parts := Nat.div_add_mod' num den
  have rest := Nat.mod_lt num positive
  obtain ⟨side,tie⟩ := nearestEven_cases num den
  rw [Nat.succ_mul] at beside
  unfold Nat.dist
  rcases side with ⟨low,near⟩ | ⟨high,near⟩
  · rw [low] at apart tie ⊢
    omega
  · rw [high] at tie ⊢
    rw [high,Nat.succ_mul] at apart
    rw [Nat.succ_mul]
    omega

theorem roundUnits_times (num den : Nat) : roundUnits num den * den =
    nearestEven num (den * spacing (num / den)) * (den * spacing (num / den)) := by
  unfold roundUnits
  rw [Nat.mul_assoc,Nat.mul_comm (spacing (num / den)) den]

theorem place_beside (num den : Nat) (whole : spacing rival ∣ rival) :
    rival * den ≤ num / (den * spacing (num / den)) * (den * spacing (num / den)) ∨
      (num / (den * spacing (num / den)) + 1) * (den * spacing (num / den)) ≤ rival * den := by
  have scaled (n : Nat) : n * (den * spacing (num / den)) = n * spacing (num / den) * den := by
    rw [Nat.mul_comm den,Nat.mul_assoc]
  rw [scaled,scaled,← Nat.div_div_eq_div_mul]
  rcases Nat.lt_or_ge (num / den / spacing (num / den) * spacing (num / den)) rival with above | below
  · exact .inr (Nat.mul_le_mul_right den (spacing_gap whole above))
  · exact .inl (Nat.mul_le_mul_right den below)

theorem roundUnits_even (even : nearestEven num (den * spacing (num / den)) % 2 = 0) :
    2 * spacing (roundUnits num den) ∣ roundUnits num den := by
  apply spacing_even _ even
  have upper := (nearestEven_bounds num (den * spacing (num / den))).2
  have below := quotient_small (num / den)
  rw [Nat.div_div_eq_div_mul] at below
  omega

theorem roundUnits_near (positive : 0 < den) (whole : spacing rival ∣ rival) (other : rival ≠ roundUnits num den) :
    Nat.dist (roundUnits num den * den) num < Nat.dist (rival * den) num ∨
      (Nat.dist (roundUnits num den * den) num = Nat.dist (rival * den) num ∧
        2 * spacing (roundUnits num den) ∣ roundUnits num den) := by
  have apart : rival * den ≠ roundUnits num den * den := fun same => other (Nat.eq_of_mul_eq_mul_right positive same)
  rw [roundUnits_times] at apart ⊢
  have step := Nat.mul_pos positive (spacing_positive (num / den))
  rcases nearestEven_near step (place_beside num den whole) apart with nearer | ⟨same,even⟩
  · exact .inl nearer
  · exact .inr ⟨same,roundUnits_even even⟩

theorem ofRatio_place (num den : Nat) : (ofRatio false num den).place? = some (min (roundUnits num den) limit) := by
  unfold ofRatio magnitude?
  split
  next fits => exact congrArg some (Nat.min_eq_left (Nat.le_of_lt fits)).symm
  next past => exact congrArg some (Nat.min_eq_right (Nat.le_of_not_lt past)).symm

theorem limit_near (positive : 0 < den) (past : limit < roundUnits num den) (within : rival < limit) :
    Nat.dist (limit * den) num < Nat.dist (rival * den) num := by
  have nearer : rival * den < limit * den := Nat.mul_lt_mul_of_pos_right within positive
  have beyond : limit * den ≤ num := by
    rcases place_beside num den spacing_limit with below | above
    · exact Nat.le_trans below (Nat.div_mul_le_self num _)
    · have upper := Nat.mul_le_mul_right (den * spacing (num / den))
        (nearestEven_bounds num (den * spacing (num / den))).2
      rw [← roundUnits_times] at upper
      have crossed : limit * den < roundUnits num den * den := Nat.mul_lt_mul_of_pos_right past positive
      omega
  unfold Nat.dist
  omega

theorem ofRatio_nearest (positive : 0 < den) (num : Nat) : Nearest num den (ofRatio false num den) := by
  refine ⟨_,ofRatio_place num den,fun other rival found apart => ?_⟩
  obtain ⟨whole,within⟩ := place_sound found
  rcases Nat.lt_or_ge limit (roundUnits num den) with past | inside
  · rw [Nat.min_eq_right (Nat.le_of_lt past)] at apart ⊢
    exact .inl (limit_near positive past (Nat.lt_of_le_of_ne within apart))
  · rw [Nat.min_eq_left inside] at apart ⊢
    exact roundUnits_near positive whole apart

-- Two foremost places would both be even, and would have to be neighbours, which no even places are.
theorem foremost_together {a b : Double} (positive : 0 < den) (first : a.place? = some p) (second : b.place? = some q)
    (below : p < q) (nearP : Foremost num den p) (nearQ : Foremost num den q) : False := by
  have orderP := nearP b q second (Nat.ne_of_gt below)
  have orderQ := nearQ a p first (Nat.ne_of_lt below)
  have evenP : 2 * spacing p ∣ p := by omega
  have evenQ : 2 * spacing q ∣ q := by omega
  have same : Nat.dist (p * den) num = Nat.dist (q * den) num := by omega
  obtain ⟨wholeP,_⟩ := place_sound first
  obtain ⟨wholeQ,within⟩ := place_sound second
  have step := spacing_positive p
  have next : p + spacing p ≤ q := by
    have gap := @spacing_gap q p wholeQ
    rw [Nat.succ_mul,Nat.div_mul_cancel wholeP] at gap
    exact gap below
  rcases Nat.lt_or_eq_of_le next with between | neighbour
  · obtain ⟨c,found⟩ := place_complete (spacing_next wholeP) (Nat.le_trans (Nat.le_of_lt between) within)
    have order := nearP c _ found (by omega)
    have left : p * den < (p + spacing p) * den := Nat.mul_lt_mul_of_pos_right (by omega) positive
    have right : (p + spacing p) * den < q * den := Nat.mul_lt_mul_of_pos_right between positive
    unfold Nat.dist at same order
    omega
  · have twice : 2 * spacing p ∣ q := Nat.dvd_trans (Nat.mul_dvd_mul_left 2 (spacing_dvd (Nat.le_of_lt below))) evenQ
    rw [← neighbour] at twice
    have small := Nat.le_of_dvd step ((Nat.dvd_add_right evenP).mp twice)
    omega

theorem nearest_exact (positive : 0 < den) (n : Double) : Nearest num den n ↔ n = ofRatio false num den := by
  constructor
  · rintro ⟨p,found,near⟩
    obtain ⟨q,rounded,nearest⟩ := ofRatio_nearest positive num
    rcases Nat.lt_trichotomy p q with below | rfl | above
    · exact (foremost_together positive found rounded below near nearest).elim
    · exact place_injective found rounded
    · exact (foremost_together positive rounded found above nearest near).elim
  · intro same
    exact same ▸ ofRatio_nearest positive num

end

end Eligibility.Double
