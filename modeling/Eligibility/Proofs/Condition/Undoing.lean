import Eligibility.Proofs.Condition.Replacing
import Eligibility.Proofs.Operator.Named

namespace Eligibility

namespace Condition

section

variable {condition changed part old expression : Condition} {path : Path}

-- What was there before may be put back if it is no deeper than what came in its place.
theorem replace_back (found : condition.at? path = some old) (accepted : condition.replace path part = .ok changed)
    (lower : old.depth ≤ part.depth) : changed.replace path old = .ok condition := by
  obtain ⟨put,fits⟩ := replace_exact.mp accepted
  rw [replace_again old put]
  exact replace_same found (by omega)

theorem operatorAt_found (found : condition.at? path = some (compound operator left right)) :
    condition.operatorAt path = .ok operator := by
  simp only [operatorAt,found,Option.bind_some,operator?]

theorem add_undone (accepted : condition.add path expression operator = .ok changed) :
    changed.remove (path ++ [.right]) = .ok condition ∧
      changed.remove (path ++ [.left]) = condition.replace path expression := by
  obtain ⟨_,_,puts,replaced⟩ := Edit.apply_sound (.add path expression operator) accepted
  cases puts with
  | add found =>
    obtain ⟨put,_⟩ := replace_exact.mp replaced
    have there := at_put _ put
    refine ⟨?_,?_⟩
    · rw [remove_snoc there rfl]
      refine replace_back found replaced ?_
      simp only [depth]
      omega
    · rw [remove_snoc there rfl,replace_again _ put]

theorem setOperator_undone (accepted : condition.setOperator path text = .ok changed) :
    ∃ operator, condition.operatorAt path = .ok operator ∧
      changed.setOperator path operator.text = .ok condition := by
  obtain ⟨_,_,puts,replaced⟩ := Edit.apply_sound (.setOperator path text) accepted
  cases puts with
  | @setOperator _ old _ _ _ operator found reads =>
    refine ⟨old,operatorAt_found found,?_⟩
    obtain ⟨same,_⟩ := Operator.read_named.mp reads
    have there := at_put _ (replace_exact.mp replaced).1
    have back : Operator.read operator.kind old.text = .ok old := by
      rw [same]
      exact old.read_text
    exact Edit.apply_complete (.setOperator there back) (replace_back found replaced (Nat.le_refl _))

theorem setOperand_undone (accepted : condition.setOperand path value = .ok changed) :
    ∃ old, condition.at? path = some (operand old) ∧
      ((∀ n, old = .number n → n.isFinite = true) → changed.setOperand path old = .ok condition) := by
  obtain ⟨_,_,puts,replaced⟩ := Edit.apply_sound (.setOperand path value) accepted
  cases puts with
  | setOperand _ found =>
    refine ⟨_,found,fun finite => ?_⟩
    have there := at_put _ (replace_exact.mp replaced).1
    have fits := setOperand.unfit_none.mpr (operand_finite.mpr finite)
    exact Edit.apply_complete (.setOperand fits there) (replace_back found replaced (Nat.le_refl _))

end

-- An operand comes back unless JSON could not hold its old value, and the way back is open at the depth limit.
theorem edits_undone (condition : Condition) (path : Path) :
    (∀ expression operator changed, condition.add path expression operator = .ok changed →
      changed.remove (path ++ [.right]) = .ok condition ∧
      changed.remove (path ++ [.left]) = condition.replace path expression) ∧
    (∀ text changed, condition.setOperator path text = .ok changed →
      ∃ operator, condition.operatorAt path = .ok operator ∧
        changed.setOperator path operator.text = .ok condition) ∧
    (∀ value changed, condition.setOperand path value = .ok changed →
      ∃ old, condition.at? path = some (operand old) ∧
        ((∀ n, old = .number n → n.isFinite = true) → changed.setOperand path old = .ok condition)) := by
  refine ⟨?_,?_,?_⟩
  · intro expression operator changed accepted
    exact add_undone accepted
  · intro text changed accepted
    exact setOperator_undone accepted
  · intro value changed accepted
    exact setOperand_undone accepted

theorem senior_edits_undone :
    ∃ whole widened eased older, whole = compound (.logical .and)
        (compound (.comparison .greater) (operand (.string "age")) (operand (.string "limit")))
        (operand (.string "member")) ∧
      whole.add [.left] (operand (.string "senior")) (some "or") = .ok widened ∧
      whole.setOperator [.left] " >= " = .ok eased ∧
      whole.setOperand [.left,.right] (.boolean true) = .ok older ∧
      widened.remove [.left,.right] = .ok whole ∧
      widened.remove [.left,.left] = whole.replace [.left] (operand (.string "senior")) ∧
      eased.setOperator [.left] ">" = .ok whole ∧
      older.setOperand [.left,.right] (.string "limit") = .ok whole := by
  have undone := edits_undone (compound (.logical .and)
    (compound (.comparison .greater) (operand (.string "age")) (operand (.string "limit")))
    (operand (.string "member")))
  obtain ⟨removed,other⟩ := (undone [.left]).1 (operand (.string "senior")) (some "or") _ rfl
  obtain ⟨_,named,back⟩ := (undone [.left]).2.1 " >= " _ rfl
  obtain ⟨_,found,restored⟩ := (undone [.left,.right]).2.2 (.boolean true) _ rfl
  cases named
  cases found
  refine ⟨_,_,_,_,rfl,rfl,rfl,rfl,removed,other,back,restored ?_⟩
  rintro _ ⟨⟩

end Condition

end Eligibility
