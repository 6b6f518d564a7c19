import Eligibility.Verdict

namespace Eligibility

namespace Condition

-- What is found under the text of an operand takes its place. It is not looked up in turn.
def resolved (record : Record) : Condition → Condition
  | operand value => operand ((record.find? value.display).getD value)
  | compound operator left right => compound operator (left.resolved record) (right.resolved record)

theorem resolve_found (record : Record) (value : Value) :
    (record.resolve value).value = (record.find? value.display).getD value := by
  unfold Record.resolve
  cases record.find? value.display <;> rfl

-- A compound side is its verdict, which no record changes.
theorem resolved_side (condition : Condition) (record : Record) (verdict : Bool) :
    (condition.resolved record).sideValue Record.empty verdict = condition.sideValue record verdict := by
  cases condition with
  | operand value => exact (resolve_found record value).symm
  | compound => rfl

theorem resolved_holds (condition : Condition) (record : Record) :
    (condition.resolved record).holds Record.empty = condition.holds record := by
  induction condition with
  | operand value => exact congrArg Value.isTruthy (resolve_found record value).symm
  | compound operator left right ihLeft ihRight =>
    cases operator with
    | logical connective => simp only [resolved,holds,ihLeft,ihRight]
    | comparison comparator => simp only [resolved,holds,resolved_side,ihLeft,ihRight]

theorem resolved_local (condition : Condition) (record other : Record)
    (agree : ∀ value ∈ condition.leaves, record.find? value.display = other.find? value.display) :
    condition.resolved record = condition.resolved other := by
  induction condition with
  | operand value => rw [resolved,resolved,agree value (List.mem_singleton_self value)]
  | compound operator left right ihLeft ihRight =>
    rw [resolved,resolved,ihLeft fun value leaf => agree value (List.mem_append_left _ leaf),
      ihRight fun value leaf => agree value (List.mem_append_right _ leaf)]

-- Fields under other names than the texts of the operands do not count.
theorem verdict_resolved (condition : Condition) (record : Record) :
    verdict (some condition) record = verdict (some (condition.resolved record)) Record.empty ∧
    ∀ other : Record,
      (∀ value ∈ condition.leaves, record.find? value.display = other.find? value.display) →
      verdict (some condition) record = verdict (some condition) other := by
  refine ⟨(condition.resolved_holds record).symm,?_⟩
  intro other agree
  have alike := condition.resolved_local record other agree
  calc condition.holds record
    _ = (condition.resolved record).holds Record.empty := (condition.resolved_holds record).symm
    _ = (condition.resolved other).holds Record.empty := by rw [alike]
    _ = condition.holds other := condition.resolved_holds other

-- Looking up again what stands under grade would lead to bonus and to another verdict.
theorem grade_verdict_resolved :
    verdict (some (compound (.comparison .equal) (operand (.string "grade")) (operand (.string "bonus"))))
      (.ofFields [("grade",.string "x"),("x",.string "bonus"),("salary",.boolean true)]) =
    verdict (some (compound (.comparison .equal) (operand (.string "grade")) (operand (.string "bonus"))))
      (.ofFields [("grade",.string "x")]) := by
  apply (verdict_resolved _ _).2
  decide

end Condition

end Eligibility
