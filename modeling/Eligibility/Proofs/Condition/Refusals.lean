import Eligibility.Proofs.Condition.Replacing
import Eligibility.Proofs.Operator.Named

namespace Eligibility

namespace Condition

section

variable {condition : Condition} {path : Path}

theorem setOperator_outcome (shallow : condition.depth ≤ maxDepth) (path : Path) (text : String) :
    ((condition.at? path = none ∨ ∃ value, condition.at? path = some (operand value)) ∧
      condition.setOperator path text = .error (.node (.operatorAt path))) ∨
    ∃ old left right, condition.at? path = some (compound old left right) ∧
      ((∀ operator : Operator, operator.kind = old.kind → ¬operator.Named text) ∧
        condition.setOperator path text = .error (.unknownOperator old.kind (Operator.canonical old.kind text)) ∨
      (∃ operator : Operator, operator.kind = old.kind ∧ operator.Named text) ∧
        ∃ changed, condition.setOperator path text = .ok changed) := by
  unfold setOperator
  cases found : condition.at? path with
  | none => exact .inl ⟨.inl rfl,rfl⟩
  | some part =>
    cases part with
    | operand value => exact .inl ⟨.inr ⟨value,rfl⟩,rfl⟩
    | compound old left right =>
      refine .inr ⟨old,left,right,rfl,?_⟩
      dsimp only
      cases reads : Operator.read old.kind text with
      | error fault =>
        obtain ⟨unnamed,rfl⟩ := Operator.read_refused.mp reads
        exact .inl ⟨unnamed,rfl⟩
      | ok operator =>
        refine .inr ⟨⟨operator,Operator.read_named.mp reads⟩,?_⟩
        exact replace_shallower shallow found (Nat.le_refl _)

theorem setOperand_outcome (shallow : condition.depth ≤ maxDepth) (path : Path) (value : Value) :
    (∃ n, value = .number n ∧ n.isFinite = false ∧ condition.setOperand path value = .error (.notFinite n)) ∨
    (operand value).isFinite = true ∧
      ((∀ old, condition.at? path ≠ some (operand old)) ∧
        condition.setOperand path value = .error (.node (.operandAt path)) ∨
      (∃ old, condition.at? path = some (operand old)) ∧
        ∃ changed, condition.setOperand path value = .ok changed) := by
  unfold setOperand
  cases fit : setOperand.unfit? value with
  | some n =>
    obtain ⟨rfl,unfit⟩ := setOperand.unfit_some.mp fit
    exact .inl ⟨n,rfl,unfit,rfl⟩
  | none =>
    refine .inr ⟨setOperand.unfit_none.mp fit,?_⟩
    dsimp only
    cases found : condition.at? path with
    | none => exact .inl ⟨by simp,rfl⟩
    | some part =>
      cases part with
      | operand old =>
        refine .inr ⟨⟨old,rfl⟩,?_⟩
        exact replace_shallower shallow found (Nat.le_refl 1)
      | compound => exact .inl ⟨by simp,rfl⟩

theorem addedConnective_outcome (operator : Option String) :
    (∃ text ∈ operator, (∀ connective : Connective, ¬connective.Named text) ∧
      addedConnective operator = .error (.unknownOperator .logical (Operator.canonical .logical text))) ∨
    (∀ text ∈ operator, ∃ connective : Connective, connective.Named text) ∧
      ∃ connective, addedConnective operator = .ok connective := by
  cases operator with
  | none => exact .inr ⟨nofun,.and,rfl⟩
  | some text =>
    by_cases named : ∃ connective : Connective, connective.Named text
    · obtain ⟨connective,reads⟩ := named
      refine .inr ⟨?_,connective,addedConnective_named ⟨text,rfl,reads⟩⟩
      rintro _ ⟨⟩
      exact ⟨connective,reads⟩
    · have unnamed := not_exists.mp named
      refine .inl ⟨text,rfl,unnamed,?_⟩
      rw [addedConnective,Connective.read_unnamed unnamed]

theorem add_outcome (condition : Condition) (path : Path) (expression : Condition) (operator : Option String) :
    (condition.at? path = none ∧ condition.add path expression operator = .error (.node (.nodeAt path))) ∨
    ∃ part, condition.at? path = some part ∧
      ((∃ text ∈ operator, (∀ connective : Connective, ¬connective.Named text) ∧
        condition.add path expression operator =
          .error (.unknownOperator .logical (Operator.canonical .logical text))) ∨
      (∀ text ∈ operator, ∃ connective : Connective, connective.Named text) ∧
        (maxDepth < path.length + 1 + max part.depth expression.depth ∧
          condition.add path expression operator = .error .tooDeep ∨
        path.length + 1 + max part.depth expression.depth ≤ maxDepth ∧
          ∃ changed, condition.add path expression operator = .ok changed)) := by
  unfold add
  cases found : condition.at? path with
  | none => exact .inl ⟨rfl,rfl⟩
  | some part =>
    refine .inr ⟨part,rfl,?_⟩
    obtain ⟨text,given,unnamed,refused⟩ | ⟨named,connective,reads⟩ := addedConnective_outcome operator
    · simp only [refused]
      exact .inl ⟨text,given,unnamed,rfl⟩
    · simp only [reads]
      refine .inr ⟨named,?_⟩
      have size : (compound (.logical connective) part expression).depth = 1 + max part.depth expression.depth := rfl
      rw [Nat.add_assoc,← size]
      obtain ⟨absent,_⟩ | ⟨_,deep,refused⟩ | ⟨_,fits,accepted⟩ :=
        replace_outcome condition path (compound (.logical connective) part expression)
      · cases found.symm.trans absent
      · exact .inl ⟨deep,refused⟩
      · exact .inr ⟨fits,accepted⟩

theorem remove_outcome (shallow : condition.depth ≤ maxDepth) (path : Path) :
    (path = [] ∧ condition.remove path = .error (.path .rootRemoval)) ∨
    path ≠ [] ∧
      (condition.at? path = none ∧ condition.remove path = .error (.node (.subExpressionAt path)) ∨
      condition.at? path ≠ none ∧ ∃ changed, condition.remove path = .ok changed) := by
  rcases List.eq_nil_or_concat path with rfl | ⟨parent,last,rfl⟩
  · exact .inl ⟨rfl,rfl⟩
  · rw [List.concat_eq_append]
    refine .inr ⟨by simp,?_⟩
    simp only [remove,Path.splitLast_snoc,at_snoc]
    cases found : condition.at? parent with
    | none => exact .inl ⟨rfl,rfl⟩
    | some above =>
      simp only [Option.bind_some]
      cases here : above.child? last with
      | none =>
        -- a part without one child is an operand and has no other child either
        cases above with
        | operand => exact .inl ⟨rfl,rfl⟩
        | compound => cases last <;> cases here
      | some part =>
        obtain ⟨beside,there⟩ := child_sibling here
        simp only [there]
        refine .inr ⟨by simp,?_⟩
        exact replace_shallower shallow found (Nat.le_of_lt (child_shallower there))

end

-- Only an added expression can be too deep, and only the root is no path that can be removed.
theorem edits_refused_exactly (condition : Condition) (shallow : condition.depth ≤ maxDepth) (path : Path) :
    (∀ text,
      (condition.setOperator path text = .error (.node (.operatorAt path)) ↔
        condition.at? path = none ∨ ∃ value, condition.at? path = some (operand value)) ∧
      ((∃ kind named, condition.setOperator path text = .error (.unknownOperator kind named)) ↔
        ∃ old left right, condition.at? path = some (compound old left right) ∧
          ∀ operator : Operator, operator.kind = old.kind → ¬operator.Named text) ∧
      ((∃ changed, condition.setOperator path text = .ok changed) ↔
        ∃ old left right, condition.at? path = some (compound old left right) ∧
          ∃ operator : Operator, operator.kind = old.kind ∧ operator.Named text) ∧
      condition.setOperator path text ≠ .error .tooDeep ∧
      ∀ cause, condition.setOperator path text ≠ .error (.path cause)) ∧
    (∀ value,
      ((∃ n, condition.setOperand path value = .error (.notFinite n)) ↔
        ∃ n, value = .number n ∧ n.isFinite = false) ∧
      (condition.setOperand path value = .error (.node (.operandAt path)) ↔
        (∀ n, value = .number n → n.isFinite = true) ∧ ∀ old, condition.at? path ≠ some (operand old)) ∧
      ((∃ changed, condition.setOperand path value = .ok changed) ↔
        (∀ n, value = .number n → n.isFinite = true) ∧ ∃ old, condition.at? path = some (operand old)) ∧
      condition.setOperand path value ≠ .error .tooDeep ∧
      ∀ cause, condition.setOperand path value ≠ .error (.path cause)) ∧
    (∀ expression operator,
      (condition.add path expression operator = .error (.node (.nodeAt path)) ↔ condition.at? path = none) ∧
      ((∃ kind named, condition.add path expression operator = .error (.unknownOperator kind named)) ↔
        condition.at? path ≠ none ∧ ∃ text ∈ operator, ∀ connective : Connective, ¬connective.Named text) ∧
      (condition.add path expression operator = .error .tooDeep ↔
        ∃ part, condition.at? path = some part ∧
          (∀ text ∈ operator, ∃ connective : Connective, connective.Named text) ∧
          maxDepth < path.length + 1 + max part.depth expression.depth) ∧
      ((∃ changed, condition.add path expression operator = .ok changed) ↔
        ∃ part, condition.at? path = some part ∧
          (∀ text ∈ operator, ∃ connective : Connective, connective.Named text) ∧
          path.length + 1 + max part.depth expression.depth ≤ maxDepth) ∧
      ∀ cause, condition.add path expression operator ≠ .error (.path cause)) ∧
    (condition.remove path = .error (.path .rootRemoval) ↔ path = []) ∧
    (condition.remove path = .error (.node (.subExpressionAt path)) ↔ path ≠ [] ∧ condition.at? path = none) ∧
    ((∃ changed, condition.remove path = .ok changed) ↔ path ≠ [] ∧ condition.at? path ≠ none) ∧
    condition.remove path ≠ .error .tooDeep ∧
    ∀ cause, path ≠ [] → condition.remove path ≠ .error (.path cause) := by
  refine ⟨fun text => ?_,fun value => ?_,fun expression operator => ?_,?_⟩
  · obtain ⟨absent | ⟨value,found⟩,refused⟩ | ⟨old,left,right,found,⟨unnamed,refused⟩ | ⟨named,changed,accepted⟩⟩ :=
      setOperator_outcome shallow path text
    · simp [absent,refused]
    · simp [found,refused]
    · simpa [found,refused] using unnamed
    · simpa [found,accepted] using named
  · obtain ⟨n,rfl,unfit,refused⟩ | ⟨fit,⟨unfound,refused⟩ | ⟨⟨old,found⟩,changed,accepted⟩⟩ :=
      setOperand_outcome shallow path value
    · simp [unfit,refused]
    · simpa [unfound,refused] using operand_finite.mp fit
    · simpa [found,accepted] using operand_finite.mp fit
  · obtain ⟨absent,refused⟩ | ⟨part,found,⟨text,rfl,unnamed,refused⟩ | ⟨named,⟨deep,refused⟩ | ⟨fits,changed,accepted⟩⟩⟩ :=
      add_outcome condition path expression operator
    · simp [absent,refused]
    · simp [found,refused,unnamed]
    · simpa [found,refused,deep] using named
    · simpa [found,accepted,fits] using named
  · obtain ⟨rfl,refused⟩ | ⟨inside,⟨absent,refused⟩ | ⟨there,changed,accepted⟩⟩ := remove_outcome shallow path
    · simp [refused]
    · simp [inside,absent,refused]
    · simp [inside,there,accepted]

-- A comparator where AND stands, another connective there, and a path that goes on behind an operand.
theorem staff_edits_refused :
    ∃ whole, whole = compound (.logical .or) (compound (.logical .and)
        (operand (.string "member")) (operand (.string "adult"))) (operand (.string "staff")) ∧
      whole.depth ≤ maxDepth ∧
      (∃ kind named, whole.setOperator [.left] ">" = .error (.unknownOperator kind named)) ∧
      (∃ changed, whole.setOperator [.left] " or " = .ok changed) ∧
      whole.remove [.right,.left] = .error (.node (.subExpressionAt [.right,.left])) := by
  have shallow : (compound (.logical .or) (compound (.logical .and) (operand (.string "member"))
      (operand (.string "adult"))) (operand (.string "staff"))).depth ≤ maxDepth := by decide
  obtain ⟨setsOperator,_⟩ := edits_refused_exactly _ shallow [.left]
  obtain ⟨_,_,_,_,removes,_⟩ := edits_refused_exactly _ shallow [.right,.left]
  refine ⟨_,rfl,shallow,(setsOperator ">").2.1.mpr ⟨_,_,_,rfl,?_⟩,?_,removes.mpr ⟨nofun,rfl⟩⟩
  · rintro (connective | comparator) same
    · cases connective <;> decide
    · cases same
  · exact (setsOperator " or ").2.2.1.mpr ⟨_,_,_,rfl,.logical .or,rfl,by decide⟩

end Condition

end Eligibility
