import Eligibility.Proofs.Double.PlainText
import Eligibility.Proofs.Value.Comparison

namespace Eligibility

namespace Double

theorem plain_rank (n : Double) : n.plain.rank = n.rank := by
  cases n with
  | nan | infinite => rfl
  | finite negative m =>
    unfold plain
    dsimp only
    split
    next noUnits =>
      have zeros : (finite negative m).rank = some 0 := by cases negative <;> simp [rank,noUnits]
      exact zeros.symm
    · rfl

theorem plain_plainChars (n : Double) : n.plain.plainChars = n.plainChars := by
  cases n with
  | nan | infinite => rfl
  | finite negative m =>
    unfold plain
    dsimp only
    split
    next noUnits => simp [plainChars,zero,noUnits,Magnitude.zero]
    · rfl

end Double

namespace Value

def plain : Value → Value
  | number n => number n.plain
  | value => value

-- Values that differ at most in the sign of zero.
inductive Alike : Value → Value → Prop where
  | same (value : Value) : Alike value value
  | number (ranks : left.rank = right.rank) : Alike (number left) (number right)

theorem plain_alike (value : Value) : Alike value.plain value := by
  cases value with
  | number n => exact .number n.plain_rank
  | boolean | string => exact .same _

theorem plain_display (value : Value) : value.plain.display = value.display := by
  cases value with
  | number n => exact congrArg String.ofList n.plain_plainChars
  | boolean | string => rfl

theorem Alike.rank (alike : Alike left right) : left.toNumber.rank = right.toNumber.rank := by
  cases alike with
  | same => rfl
  | number ranks => exact ranks

theorem Alike.truthy (alike : Alike left right) : left.isTruthy = right.isTruthy := by
  cases alike with
  | same => rfl
  | number ranks => simp only [isTruthy,ranks]

theorem compare_ranks {a b c d : Double} (left : a.rank = b.rank) (right : c.rank = d.rank) :
    a.compare? c = b.compare? d := by
  unfold Double.compare?
  rw [left,right]

theorem Alike.order (left : Alike a b) (right : Alike c d) : a.order? c = b.order? d := by
  have numbers := compare_ranks left.rank right.rank
  cases left with
  | same => cases right with
    | same => rfl
    | number ranks => cases a <;> exact numbers
  | number ranks => cases right <;> exact numbers

end Value

theorem Comparator.apply_alike (comparator : Comparator) (left : Value.Alike a b) (right : Value.Alike c d) :
    comparator.apply a c = comparator.apply b d := by
  rw [apply_order,apply_order,left.order right]

namespace Condition

def plain : Condition → Condition
  | operand value => operand value.plain
  | compound operator left right => compound operator left.plain right.plain

theorem plain_depth (condition : Condition) : condition.plain.depth = condition.depth := by
  induction condition with
  | operand => rfl
  | compound operator left right ihLeft ihRight => simp only [plain,depth,ihLeft,ihRight]

theorem plain_agrees (condition : Condition) (finite : condition.isFinite = true) :
    condition.agrees condition.plain = true := by
  induction condition with
  | operand value =>
    cases value with
    | number n =>
      cases n with
      | nan | infinite => cases finite
      | finite negative m =>
        have ranks := Double.plain_rank (.finite negative m)
        exact (Double.equal_exact _ _).mpr ⟨_,rfl,ranks⟩
    | boolean | string => simp [plain,Value.plain,agrees,agreesValue]
  | compound operator left right ihLeft ihRight =>
    obtain ⟨finiteLeft,finiteRight⟩ := (Bool.and_eq_true _ _).mp finite
    simp [plain,agrees,ihLeft finiteLeft,ihRight finiteRight]

theorem resolve_plain (record : Record) (value : Value) :
    Value.Alike (record.resolve value.plain).value (record.resolve value).value := by
  unfold Record.resolve
  rw [value.plain_display]
  cases record.find? value.display with
  | some found => exact .same found
  | none => exact value.plain_alike

theorem plain_side (condition : Condition) (record : Record) (verdict : Bool) :
    Value.Alike (condition.plain.sideValue record verdict) (condition.sideValue record verdict) := by
  cases condition with
  | operand value => exact resolve_plain record value
  | compound => exact .same _

theorem plain_holds (condition : Condition) (record : Record) :
    condition.plain.holds record = condition.holds record := by
  induction condition with
  | operand value => exact (resolve_plain record value).truthy
  | compound operator left right ihLeft ihRight =>
    cases operator with
    | logical connective => simp only [plain,holds,ihLeft,ihRight]
    | comparison comparator =>
      simp only [plain,holds,ihLeft,ihRight]
      apply comparator.apply_alike
      · exact left.plain_side record _
      · exact right.plain_side record _

end Condition

end Eligibility
