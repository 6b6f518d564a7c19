namespace Eligibility

def twoTo (power : Nat) : Nat := Nat.pow 2 power

def tenTo (power : Nat) : Nat := Nat.pow 10 power

theorem twoTo_positive (power : Nat) : 0 < twoTo power := Nat.two_pow_pos power

theorem tenTo_positive (power : Nat) : 0 < tenTo power := Nat.pow_pos (by decide)

theorem twoTo_add (m n : Nat) : twoTo (m + n) = twoTo m * twoTo n := Nat.pow_add 2 m n

theorem twoTo_dvd {m n : Nat} (within : m ≤ n) : twoTo m ∣ twoTo n := Nat.pow_dvd_pow 2 within

theorem twoTo_mono {m n : Nat} (within : m ≤ n) : twoTo m ≤ twoTo n :=
  Nat.pow_le_pow_right (by decide) within

theorem log2_twoTo (power : Nat) : (twoTo power).log2 = power := Nat.log2_two_pow

theorem log2_lt_iff {n power : Nat} (nonzero : n ≠ 0) : n.log2 < power ↔ n < twoTo power :=
  Nat.log2_lt nonzero

namespace Double

-- A unit is 2^-1074.
def fractionBits : Nat := 1074

-- Finite numbers lie below 2^1024.
def integerBits : Nat := 1024

def one : Nat := twoTo fractionBits

def limit : Nat := twoTo (integerBits + fractionBits)

-- Counts of at most 53 bits stand one unit apart; every further bit doubles the distance.
def spacing (units : Nat) : Nat := twoTo (units.log2 - 52)

def Representable (units : Nat) : Prop := spacing units ∣ units ∧ units < limit

instance (units : Nat) : Decidable (Representable units) :=
  inferInstanceAs (Decidable (_ ∧ _))

@[ext] structure Magnitude where
  units : Nat
  representable : Representable units
deriving DecidableEq

end Double

inductive Double where
  | nan
  | infinite (negative : Bool)
  | finite (negative : Bool) (magnitude : Double.Magnitude)
deriving DecidableEq

namespace Double

-- Where a number stands on the line. Both zeros stand at 0, and NaN stands nowhere.
def rank : Double → Option Int
  | nan => none
  | infinite negative => some (if negative then -limit else limit)
  | finite negative m => some (if negative then -m.units else m.units)

def equal (a b : Double) : Bool :=
  match a.rank, b.rank with
  | some x, some y => x == y
  | _, _ => false

def compare? (a b : Double) : Option Ordering :=
  match a.rank, b.rank with
  | some x, some y => some (compare x y)
  | _, _ => none

def isFinite : Double → Bool
  | finite .. => true
  | _ => false

theorem one_positive : 0 < one := twoTo_positive fractionBits

theorem limit_positive : 0 < limit := twoTo_positive (integerBits + fractionBits)

theorem representable_zero : Representable 0 := ⟨Nat.dvd_zero _,limit_positive⟩

def Magnitude.zero : Magnitude := ⟨0,representable_zero⟩

def zero : Double := finite false Magnitude.zero

theorem rank_none_iff (a : Double) : a.rank = none ↔ a = nan := by
  cases a with
  | nan => exact ⟨fun _ => rfl,fun _ => rfl⟩
  | infinite | finite => exact ⟨nofun,nofun⟩

theorem equal_exact (a b : Double) : equal a b = true ↔ ∃ x, a.rank = some x ∧ b.rank = some x := by
  unfold equal
  generalize a.rank = left
  generalize b.rank = right
  cases left with
  | none => simp
  | some x =>
    cases right with
    | none => simp
    | some y => simpa using eq_comm

end Double

end Eligibility
