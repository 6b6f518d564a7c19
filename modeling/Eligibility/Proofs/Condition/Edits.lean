import Eligibility.Condition.Edit

namespace Eligibility

theorem Path.splitLast_some (found : Path.splitLast? path = some (parent,last)) : path = parent ++ [last] := by
  rcases List.eq_nil_or_concat path with rfl | ⟨front,step,rfl⟩
  · cases found
  · rw [List.concat_eq_append,Path.splitLast_snoc] at found
    cases found
    exact List.concat_eq_append

namespace Condition

variable {value : Value}

theorem setOperand.unfit_some : unfit? value = some n ↔ value = .number n ∧ n.isFinite = false := by
  cases value with
  | number other =>
    simp only [unfit?,Value.number.injEq]
    constructor
    · intro found
      split at found
      · cases found
      next unfit => cases found; exact ⟨rfl,Bool.eq_false_iff.mpr unfit⟩
    · rintro ⟨rfl,unfit⟩
      rw [if_neg (Bool.eq_false_iff.mp unfit)]
  | boolean | string => simp [unfit?]

theorem setOperand.unfit_none : unfit? value = none ↔ (operand value).isFinite = true := by
  cases value with
  | number n => simp [unfit?,isFinite]
  | boolean | string => simp [unfit?,isFinite]

theorem remove_snoc {condition : Condition} (found : condition.at? parent = some above)
    (beside : above.child? last.sibling = some sibling) :
    condition.remove (parent ++ [last]) = condition.replace parent sibling := by
  simp only [remove,Path.splitLast_snoc,found,Option.bind_some,beside]

end Condition

namespace Edit

inductive Puts (condition : Condition) : Edit → Path → Condition → Prop where
  | replace : Puts condition (.replace path part) path part
  | setOperator (found : condition.at? path = some (.compound old left right))
      (reads : Operator.read old.kind text = .ok operator) :
      Puts condition (.setOperator path text) path (.compound operator left right)
  | setOperand (fits : Condition.setOperand.unfit? value = none)
      (found : condition.at? path = some (.operand old)) :
      Puts condition (.setOperand path value) path (.operand value)
  | add (found : condition.at? path = some part)
      (named : Condition.addedConnective operator = .ok connective) :
      Puts condition (.add path expression operator) path (.compound (.logical connective) part expression)
  | remove (found : condition.at? parent = some above) (beside : above.child? last.sibling = some sibling) :
      Puts condition (.remove (parent ++ [last])) parent sibling

theorem apply_sound (edit : Edit) (accepted : Edit.apply condition edit = .ok changed) :
    ∃ path part, Puts condition edit path part ∧ condition.replace path part = .ok changed := by
  cases edit with
  | replace path part => exact ⟨path,part,.replace,accepted⟩
  | setOperator path text =>
    unfold Edit.apply Condition.setOperator at accepted
    dsimp only at accepted
    split at accepted
    next found =>
      split at accepted
      · cases accepted
      next reads => exact ⟨_,_,.setOperator found reads,accepted⟩
    · cases accepted
  | setOperand path value =>
    unfold Edit.apply Condition.setOperand at accepted
    dsimp only at accepted
    split at accepted
    · cases accepted
    next fits =>
      split at accepted
      next found => exact ⟨_,_,.setOperand fits found,accepted⟩
      · cases accepted
  | add path expression operator =>
    unfold Edit.apply Condition.add at accepted
    dsimp only at accepted
    split at accepted
    · cases accepted
    next found =>
      split at accepted
      · cases accepted
      next named => exact ⟨_,_,.add found named,accepted⟩
  | remove path =>
    unfold Edit.apply Condition.remove at accepted
    dsimp only at accepted
    split at accepted
    · cases accepted
    next parent last cut =>
      split at accepted
      · cases accepted
      next sibling found =>
        obtain ⟨above,there,beside⟩ := Option.bind_eq_some_iff.mp found
        rw [Path.splitLast_some cut]
        exact ⟨_,_,.remove there beside,accepted⟩

theorem apply_complete (puts : Puts condition edit path part) (accepted : condition.replace path part = .ok changed) :
    Edit.apply condition edit = .ok changed := by
  cases puts with
  | replace => exact accepted
  | setOperator found reads => simpa only [Edit.apply,Condition.setOperator,found,reads] using accepted
  | setOperand fits found => simpa only [Edit.apply,Condition.setOperand,fits,found] using accepted
  | add found named => simpa only [Edit.apply,Condition.add,found,named] using accepted
  | remove found beside => exact (Condition.remove_snoc found beside).trans accepted

end Edit

namespace Condition

theorem replace_exact : replace condition path part = .ok changed ↔
    condition.put? part path = some changed ∧ path.length + part.depth ≤ maxDepth := by
  unfold replace
  cases condition.put? part path with
  | none => simp
  | some other =>
    dsimp only
    split <;> simp [*]

end Condition

end Eligibility
