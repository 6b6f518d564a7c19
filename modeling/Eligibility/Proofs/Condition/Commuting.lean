import Eligibility.Proofs.Condition.Places

namespace Eligibility

namespace Edit

-- The place where an edit acts. A part is removed by what becomes of its parent.
def position : Edit → Path
  | replace path _ | setOperator path _ | setOperand path _ | add path _ _ => path
  | remove path => path.dropLast

section

variable {condition other part left right : Condition} {edit first second : Edit} {path : Path}

theorem puts_position (puts : Puts condition edit path part) : edit.position = path := by
  cases puts with
  | replace | setOperator | setOperand | add => rfl
  | remove => exact List.dropLast_concat

theorem puts_local (puts : Puts condition edit path part) (same : other.at? path = condition.at? path) :
    Puts other edit path part := by
  cases puts with
  | replace => exact .replace
  | setOperator found reads => exact .setOperator (same.trans found) reads
  | setOperand fits found => exact .setOperand fits (same.trans found)
  | add found named => exact .add (same.trans found) named
  | remove found beside => exact .remove (same.trans found) beside

theorem apply_put (accepted : Edit.apply condition edit = .ok left) :
    ∃ part, Puts condition edit edit.position part ∧ condition.put? part edit.position = some left ∧
      edit.position.length + part.depth ≤ Condition.maxDepth := by
  obtain ⟨path,part,puts,replaced⟩ := apply_sound edit accepted
  rw [puts_position puts]
  exact ⟨part,puts,Condition.replace_exact.mp replaced⟩

-- The second of two edits at places apart still finds what it would have found as the first.
theorem apply_after (apart : Path.Apart first.position second.position)
    (putFirst : condition.put? part first.position = some left) (puts : Puts condition second second.position other)
    (put : left.put? other second.position = some right)
    (fits : second.position.length + other.depth ≤ Condition.maxDepth) : Edit.apply left second = .ok right :=
  apply_complete (puts_local puts (Condition.at_put_apart part apart.symm putFirst))
    (Condition.replace_exact.mpr ⟨put,fits⟩)

end

theorem edits_commute (condition : Condition) (first second : Edit)
    (apart : Path.Apart first.position second.position) (left right : Condition)
    (one : Edit.apply condition first = .ok left) (other : Edit.apply condition second = .ok right) :
    ∃ both, Edit.apply left second = .ok both ∧ Edit.apply right first = .ok both := by
  obtain ⟨onePart,putsOne,putOne,oneFits⟩ := apply_put one
  obtain ⟨otherPart,putsOther,putOther,otherFits⟩ := apply_put other
  obtain ⟨both,otherAfter,oneAfter⟩ := Condition.put_apart onePart otherPart apart putOne putOther
  refine ⟨both,?_,?_⟩
  · exact apply_after apart putOne putsOther otherAfter otherFits
  · exact apply_after apart.symm putOther putsOne oneAfter oneFits

-- A removal below AND and an addition on the other side of OR.
theorem adult_guest_commute :
    ∃ whole shorter longer both, whole = Condition.compound (.logical .or) (.compound (.logical .and)
        (.operand (.string "member")) (.operand (.string "adult"))) (.operand (.string "staff")) ∧
      Edit.apply whole (.remove [.left,.right]) = .ok shorter ∧
      Edit.apply whole (.add [.right] (.operand (.string "guest")) (some "or")) = .ok longer ∧
      Edit.apply shorter (.add [.right] (.operand (.string "guest")) (some "or")) = .ok both ∧
      Edit.apply longer (.remove [.left,.right]) = .ok both := by
  obtain ⟨both,added,removed⟩ := edits_commute (.compound (.logical .or) (.compound (.logical .and)
    (.operand (.string "member")) (.operand (.string "adult"))) (.operand (.string "staff")))
    (.remove [.left,.right]) (.add [.right] (.operand (.string "guest")) (some "or"))
    (by decide) _ _ rfl rfl
  exact ⟨_,_,_,both,rfl,rfl,rfl,added,removed⟩

end Edit

end Eligibility
