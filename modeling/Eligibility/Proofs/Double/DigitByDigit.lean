import Eligibility.Proofs.Double.NumberText
import Eligibility.Proofs.Double.Tail
import Mathlib.Tactic.Ring

namespace Eligibility

namespace Radix

open Double (one limit integerBits spacing roundUnits TiedDown)

-- The whole number that digits spell behind others.
def onward (radix : Radix) (start : Nat) (values : List Nat) : Nat :=
  values.foldl (fun n d => n * radix.base + d) start

def spelled (radix : Radix) (values : List Nat) : Nat := radix.onward 0 values

-- What is left of it when each step is rounded.
def rounded (radix : Radix) (start : Nat) (values : List Nat) : Nat :=
  values.foldl (fun n d => roundUnits (n * radix.base + d) 1) start

-- When 53 bits are full, what is past them is half a step above an even place, and more of it follows.
inductive HalfLost (radix : Radix) : List Nat → Prop where
  | lost (before : radix.spelled head < twoTo 53) (crossed : twoTo 53 ≤ radix.spelled (head ++ [d]))
      (tied : TiedDown (radix.spelled (head ++ [d]))) (more : radix.spelled rest ≠ 0)
      (within : radix.spelled (head ++ d :: rest) < twoTo integerBits) : HalfLost radix (head ++ d :: rest)

def width : Radix → Nat
  | hexadecimal => 4
  | octal => 3
  | binary => 1

section

variable {radix : Radix} {start d : Nat} {values head rest : List Nat} {text : List Char}

theorem base_width (radix : Radix) : radix.base = twoTo radix.width := by cases radix <;> rfl

theorem width_succ (radix : Radix) (n : Nat) :
    twoTo (radix.width * (n + 1)) = radix.base * twoTo (radix.width * n) := by
  rw [Nat.mul_succ,Nat.add_comm,twoTo_add,base_width]

theorem base_grows (radix : Radix) (n : Nat) : n ≤ n * radix.base := by
  rw [base_width]
  exact Nat.le_mul_of_pos_right n (twoTo_positive _)

theorem onward_append (radix : Radix) (start : Nat) (head rest : List Nat) :
    radix.onward start (head ++ rest) = radix.onward (radix.onward start head) rest := List.foldl_append

theorem onward_tail (radix : Radix) (start : Nat) (values : List Nat) :
    radix.onward start values = start * twoTo (radix.width * values.length) + radix.spelled values := by
  unfold spelled
  induction values generalizing start with
  | nil => simp [onward,twoTo]
  | cons d values ih =>
    have first (n : Nat) : radix.onward n (d :: values) = radix.onward (n * radix.base + d) values := rfl
    rw [first,first,ih,ih (0 * radix.base + d),List.length_cons,width_succ]
    ring

theorem spelled_cons (radix : Radix) (d : Nat) (values : List Nat) : radix.spelled (d :: values) =
    d * twoTo (radix.width * values.length) + radix.spelled values := by
  have first : radix.spelled (d :: values) = radix.onward (0 * radix.base + d) values := rfl
  rw [first,onward_tail,Nat.zero_mul,Nat.zero_add]

theorem spelled_short (all : ∀ d ∈ values, d < radix.base) :
    radix.spelled values < twoTo (radix.width * values.length) := by
  induction values with
  | nil => exact twoTo_positive _
  | cons d values ih =>
    obtain ⟨first,others⟩ := List.forall_mem_cons.mp all
    have behind := ih others
    have scaled := Nat.mul_le_mul_right (twoTo (radix.width * values.length)) first
    rw [Nat.succ_mul] at scaled
    rw [spelled_cons,List.length_cons,width_succ]
    omega

theorem onward_grows (radix : Radix) (start : Nat) (values : List Nat) : start ≤ radix.onward start values := by
  rw [onward_tail]
  exact Nat.le_trans (Nat.le_mul_of_pos_right start (twoTo_positive _)) (Nat.le_add_right _ _)

theorem rounded_small (small : radix.onward start values < twoTo 53) :
    radix.rounded start values = radix.onward start values := by
  induction values generalizing start with
  | nil => rfl
  | cons d values ih =>
    have within : start * radix.base + d < twoTo 53 := Nat.lt_of_le_of_lt (onward_grows radix _ values) small
    have exact := Double.roundUnits_small within
    unfold rounded
    rw [List.foldl_cons,exact]
    exact ih small

-- Once 53 bits are full, further digits are dropped one by one.
theorem rounded_full (whole : spacing start ∣ start) (large : twoTo 53 ≤ start) (all : ∀ d ∈ values, d < radix.base) :
    radix.rounded start values = start * twoTo (radix.width * values.length) := by
  induction values generalizing start with
  | nil => simp [rounded,twoTo]
  | cons d values ih =>
    obtain ⟨first,others⟩ := List.forall_mem_cons.mp all
    have dropped : roundUnits (start * radix.base + d) 1 = start * radix.base := by
      rw [base_width] at first ⊢
      rw [Double.roundUnits_tail large first,if_neg (fun lost => Double.untied whole lost.1),
        Double.roundUnits_whole whole]
    have still : spacing (start * radix.base) ∣ start * radix.base := by
      rw [base_width]
      exact Double.spacing_times whole radix.width
    have behind := ih still (Nat.le_trans large (base_grows radix start)) others
    unfold rounded at behind ⊢
    rw [List.foldl_cons,dropped,behind,List.length_cons,width_succ,Nat.mul_assoc]

theorem rounded_grows (whole : spacing start ∣ start) : start ≤ radix.rounded start values := by
  induction values generalizing start with
  | nil => exact Nat.le_refl _
  | cons d values ih =>
    have below := Nat.le_trans (base_grows radix start) (Nat.le_add_right _ d)
    exact Nat.le_trans (Double.roundUnits_above whole below) (ih (Double.spacing_dvd_roundUnits _ 1))

theorem onward_crossing (small : start < twoTo 53) (large : twoTo 53 ≤ radix.onward start values) :
    ∃ head d rest, values = head ++ d :: rest ∧ radix.onward start head < twoTo 53 ∧
      twoTo 53 ≤ radix.onward start (head ++ [d]) := by
  induction values generalizing start with
  | nil => exact absurd large (Nat.not_le.mpr small)
  | cons d values ih =>
    rcases Nat.lt_or_ge (start * radix.base + d) (twoTo 53) with within | crossed
    · obtain ⟨head,next,rest,rfl,before,after⟩ := ih within large
      exact ⟨d :: head,next,rest,rfl,before,after⟩
    · exact ⟨[],d,values,rfl,small,crossed⟩

-- There is a digit at which 53 bits are full.
theorem crossing (large : twoTo 53 ≤ radix.spelled values) :
    ∃ head d rest, values = head ++ d :: rest ∧ radix.spelled head < twoTo 53 ∧
      twoTo 53 ≤ radix.spelled (head ++ [d]) :=
  onward_crossing (twoTo_positive 53) large

theorem rounded_crossed (before : radix.spelled head < twoTo 53) (crossed : twoTo 53 ≤ radix.spelled (head ++ [d]))
    (all : ∀ d ∈ rest, d < radix.base) : radix.rounded 0 (head ++ d :: rest) =
      roundUnits (radix.spelled (head ++ [d])) 1 * twoTo (radix.width * rest.length) := by
  have last : radix.spelled (head ++ [d]) = radix.spelled head * radix.base + d := onward_append radix 0 head [d]
  have reached : twoTo 53 ≤ roundUnits (radix.spelled (head ++ [d])) 1 :=
    Double.roundUnits_above (Double.spacing_twoTo 53) crossed
  have onFull := rounded_full (Double.spacing_dvd_roundUnits _ 1) reached all
  have small : radix.rounded 0 head = radix.spelled head := rounded_small before
  unfold rounded at small onFull ⊢
  rw [List.foldl_append,small,List.foldl_cons,← last,onFull]

theorem spelled_crossed (radix : Radix) (head rest : List Nat) (d : Nat) : radix.spelled (head ++ d :: rest) =
    radix.spelled (head ++ [d]) * twoTo (radix.width * rest.length) + radix.spelled rest := by
  rw [List.append_cons,spelled,onward_append,onward_tail]
  rfl

theorem lost_large (lost : radix.HalfLost values) : twoTo 53 ≤ radix.spelled values := by
  cases lost with
  | @lost head d rest before crossed tied more within =>
    have grown := onward_grows radix (radix.spelled (head ++ [d])) rest
    rw [List.append_cons,spelled,onward_append]
    exact Nat.le_trans crossed grown

theorem lost_below (lost : radix.HalfLost values) (all : ∀ d ∈ values, d < radix.base) :
    roundUnits (radix.spelled values) 1 = radix.rounded 0 values + spacing (radix.rounded 0 values) ∧
      twoTo 53 ≤ radix.rounded 0 values ∧ radix.rounded 0 values < twoTo integerBits := by
  cases lost with
  | @lost head d rest before crossed tied more within =>
    have others : ∀ d ∈ rest, d < radix.base := fun digit member => all digit (by simp [member])
    have full := Double.floor_above (Double.spacing_twoTo 53) crossed
    rw [spelled_crossed] at within ⊢
    rw [rounded_crossed before crossed others,Double.roundUnits_tail crossed (spelled_short others),if_pos ⟨tied,more⟩,
      Double.roundUnits_tied tied,Double.spacing_scaled full,Double.floor_spacing]
    have floor := Nat.mul_le_mul_right (twoTo (radix.width * rest.length))
      (Nat.div_mul_le_self (radix.spelled (head ++ [d])) (spacing (radix.spelled (head ++ [d]))))
    refine ⟨Nat.add_mul ..,?_,by omega⟩
    exact Nat.le_trans full (Nat.le_mul_of_pos_right _ (twoTo_positive _))

theorem kept_same (kept : ¬radix.HalfLost values) (all : ∀ d ∈ values, d < radix.base) :
    min (radix.rounded 0 values) (twoTo integerBits) =
      min (roundUnits (radix.spelled values) 1) (twoTo integerBits) := by
  rcases Nat.lt_or_ge (radix.spelled values) (twoTo 53) with small | large
  · have exact : radix.rounded 0 values = radix.spelled values := rounded_small small
    rw [exact,Double.roundUnits_small small]
  · obtain ⟨head,d,rest,rfl,before,crossed⟩ := crossing large
    have others : ∀ d ∈ rest, d < radix.base := fun digit member => all digit (by simp [member])
    by_cases lost : TiedDown (radix.spelled (head ++ [d])) ∧ radix.spelled rest ≠ 0
    · have past : twoTo integerBits ≤ radix.spelled (head ++ d :: rest) :=
        Nat.le_of_not_lt fun within => kept (.lost before crossed lost.1 lost.2 within)
      have floor := Double.floor_above (Double.spacing_twoTo integerBits) past
      rw [spelled_crossed,Double.spacing_tail crossed (spelled_short others),
        (Double.divided_tail _ (Double.spacing_positive _) (spelled_short others)).1,← Nat.mul_assoc,
        ← Double.roundUnits_tied lost.1,← rounded_crossed before crossed others] at floor
      rw [Nat.min_eq_right floor,Nat.min_eq_right (Double.roundUnits_above (Double.spacing_twoTo integerBits) past)]
    · rw [rounded_crossed before crossed others,spelled_crossed radix head rest d,
        Double.roundUnits_tail crossed (spelled_short others),if_neg lost]

theorem append_once (radix : Radix) (m : Double.Magnitude) (digit : Nat) :
    radix.append m digit = Double.magnitude? (m.units * radix.base + digit * one) 1 := by
  have whole : spacing (m.units * radix.base) ∣ m.units * radix.base := by
    rw [base_width]
    exact Double.spacing_times m.representable.1 radix.width
  unfold append
  rcases Nat.lt_or_ge (m.units * radix.base) limit with fits | past
  · rw [Double.magnitude_units ⟨_,whole,fits⟩,Option.bind_some]
  · rw [Double.magnitude_past past,Double.magnitude_past (Nat.le_trans past (Nat.le_add_right _ _))]
    rfl

theorem magnitude_ones (n : Nat) : (∃ m, Double.magnitude? (n * one) 1 = some m ∧ m.units = roundUnits n 1 * one) ∨
    (Double.magnitude? (n * one) 1 = none ∧ limit ≤ roundUnits n 1 * one) := by
  rw [← Double.roundUnits_ones]
  rcases Nat.lt_or_ge (roundUnits (n * one) 1) limit with fits | past
  · exact .inl ⟨_,dif_pos fits,rfl⟩
  · exact .inr ⟨dif_neg (Nat.not_lt.mpr past),past⟩

theorem foldlM_place (m : Double.Magnitude) (stands : m.units = start * one) :
    (Double.orInfinite false (values.foldlM radix.append m)).place? =
      some (min (radix.rounded start values * one) limit) := by
  induction values generalizing m start with
  | nil =>
    have below := Nat.min_eq_left (Nat.le_of_lt (stands ▸ m.representable.2))
    exact congrArg some (stands.trans below.symm)
  | cons d values ih =>
    have once := append_once radix m d
    rw [stands,Nat.mul_right_comm,← Nat.add_mul] at once
    rw [List.foldlM_cons,once]
    rcases magnitude_ones (start * radix.base + d) with ⟨next,found,units⟩ | ⟨tooLarge,past⟩
    · rw [found]
      exact ih next units
    · rw [tooLarge]
      have grown : roundUnits (start * radix.base + d) 1 ≤ radix.rounded start (d :: values) :=
        rounded_grows (Double.spacing_dvd_roundUnits _ 1)
      exact congrArg some (Nat.min_eq_right (Nat.le_trans past (Nat.mul_le_mul_right one grown))).symm

theorem toDouble_place (nonempty : text ≠ []) (all : ∀ c ∈ text, radix.Digit c) :
    (radix.toDouble text).place? = some (min (radix.rounded 0 (text.map radix.valueOf) * one) limit) := by
  obtain ⟨c,more,rfl⟩ := List.exists_cons_of_ne_nil nonempty
  unfold toDouble
  rw [digits_read all,List.map_cons]
  exact foldlM_place .zero (Nat.zero_mul one).symm

theorem ofNat_place (n : Nat) : (Double.ofNat n).place? = some (min (roundUnits n 1 * one) limit) := by
  rw [← Double.roundUnits_ones]
  exact Double.ofRatio_place (n * one) 1

theorem values_below (all : ∀ c ∈ text, radix.Digit c) : ∀ d ∈ text.map radix.valueOf, d < radix.base := by
  intro d member
  obtain ⟨c,there,rfl⟩ := List.mem_map.mp member
  exact valueOf_below (all c there)

theorem limit_ones : limit = twoTo integerBits * one := by rw [limit,twoTo_add,one]

-- Steps that are rounded one by one add up to one rounding, unless they lose a half.
theorem toDouble_exact (nonempty : text ≠ []) (all : ∀ c ∈ text, radix.Digit c) :
    radix.toDouble text = Double.ofNat (radix.spelled (text.map radix.valueOf)) ↔
      ¬radix.HalfLost (text.map radix.valueOf) := by
  have placed := toDouble_place nonempty all
  have nearest := ofNat_place (radix.spelled (text.map radix.valueOf))
  rw [limit_ones,Nat.mul_min_mul_right] at placed nearest
  constructor
  · intro same lost
    obtain ⟨next,_,within⟩ := lost_below lost (values_below all)
    have step := Double.spacing_positive (radix.rounded 0 (text.map radix.valueOf))
    rw [same,nearest] at placed
    have agree := Nat.eq_of_mul_eq_mul_right Double.one_positive (Option.some.inj placed)
    omega
  · intro kept
    rw [kept_same kept (values_below all)] at placed
    exact Double.place_injective placed nearest

theorem toDouble_lost (nonempty : text ≠ []) (all : ∀ c ∈ text, radix.Digit c)
    (lost : radix.HalfLost (text.map radix.valueOf)) : ∃ m, radix.toDouble text = .finite false m ∧
      (Double.ofNat (radix.spelled (text.map radix.valueOf))).place? = some (m.units + spacing m.units) := by
  obtain ⟨next,full,within⟩ := lost_below lost (values_below all)
  have placed := toDouble_place nonempty all
  have nearest := ofNat_place (radix.spelled (text.map radix.valueOf))
  rw [limit_ones,Nat.mul_min_mul_right] at placed nearest
  rw [Nat.min_eq_left (Nat.le_of_lt within)] at placed
  rcases (Double.place_exact _).mp placed with ⟨m,same,units⟩ | ⟨_,top⟩
  · refine ⟨m,same,?_⟩
    have room : m.units + spacing m.units ≤ limit := by
      have gap := @Double.spacing_gap limit m.units Double.spacing_limit
      rw [Nat.succ_mul,Nat.div_mul_cancel m.representable.1] at gap
      exact gap m.representable.2
    have step : spacing m.units = spacing (radix.rounded 0 (text.map radix.valueOf)) * one := by
      rw [units]
      exact Double.spacing_scaled full _
    rw [step,units,← Nat.add_mul,← next] at room ⊢
    rw [limit_ones] at room
    rw [nearest,Nat.min_eq_left (Nat.le_of_mul_le_mul_right room Double.one_positive)]
  · rw [limit_ones] at top
    exact absurd (Nat.eq_of_mul_eq_mul_right Double.one_positive top) (Nat.ne_of_gt within)

end

end Radix

end Eligibility
