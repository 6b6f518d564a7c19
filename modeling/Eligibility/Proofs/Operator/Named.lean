import Eligibility.Condition.Edit

namespace Eligibility

namespace Connective

-- Neither blanks around the letters nor their case count.
def Named (connective : Connective) (text : String) : Prop :=
  (Text.trim text.toList).map Char.toUpper = connective.text.toList

instance (connective : Connective) (text : String) : Decidable (connective.Named text) :=
  inferInstanceAs (Decidable (_ = _))

variable {text : String}

theorem ofText_exact : ofText? text = some connective ↔ text = connective.text := by
  constructor
  · intro found
    unfold ofText? at found
    split at found
    · cases found
      assumption
    split at found
    · cases found
      assumption
    · cases found
  · rintro rfl
    cases connective <;> rfl

theorem named_canonical (connective : Connective) (text : String) :
    connective.Named text ↔ Operator.canonical .logical text = connective.text := by
  rw [← String.toList_inj]
  simp [Named,Operator.canonical]

theorem read_named : Connective.read text = .ok connective ↔ connective.Named text := by
  rw [named_canonical,← ofText_exact,Connective.read]
  cases ofText? (Operator.canonical .logical text) <;> simp

theorem read_unnamed (unnamed : ∀ connective : Connective, ¬connective.Named text) :
    Connective.read text = .error (.unknownOperator .logical (Operator.canonical .logical text)) := by
  cases found : ofText? (Operator.canonical .logical text) with
  | none => simp only [Connective.read,found]
  | some connective => exact absurd ((named_canonical _ _).mpr (ofText_exact.mp found)) (unnamed connective)

end Connective

namespace Comparator

-- Blanks around the signs do not count, and equality may be written with one sign.
def Named (comparator : Comparator) (text : String) : Prop :=
  Text.trim text.toList = comparator.text.toList ∨ comparator = .equal ∧ Text.trim text.toList = ['=']

instance (comparator : Comparator) (text : String) : Decidable (comparator.Named text) :=
  inferInstanceAs (Decidable (_ ∨ _))

variable {text : String}

theorem ofText_exact : ofText? text = some comparator ↔ text = comparator.text ∨ comparator = .equal ∧ text = "=" := by
  constructor
  · intro found
    unfold ofText? at found
    repeat'
      split at found
    all_goals cases found
    · exact .inl ‹_›
    · exact .inl ‹_›
    · exact .inl ‹_›
    · exact .inl ‹_›
    next either => exact either.imp_right fun same => ⟨rfl,same⟩
  · rintro (rfl | ⟨rfl,rfl⟩)
    · cases comparator <;> rfl
    · rfl

theorem named_canonical (comparator : Comparator) (text : String) :
    comparator.Named text ↔ Operator.canonical .comparison text = comparator.text ∨
      comparator = .equal ∧ Operator.canonical .comparison text = "=" := by
  simp only [← String.toList_inj]
  simp [Named,Operator.canonical,trimmed]

theorem read_named : Comparator.read text = .ok comparator ↔ comparator.Named text := by
  rw [named_canonical,← ofText_exact,Comparator.read]
  cases ofText? (Operator.canonical .comparison text) <;> simp

end Comparator

namespace Operator

def Named : Operator → String → Prop
  | logical connective, text => connective.Named text
  | comparison comparator, text => comparator.Named text

instance (operator : Operator) (text : String) : Decidable (operator.Named text) :=
  match operator with
  | logical connective => inferInstanceAs (Decidable (connective.Named text))
  | comparison comparator => inferInstanceAs (Decidable (comparator.Named text))

variable {kind : OperatorKind} {text : String}

theorem read_named : Operator.read kind text = .ok operator ↔ operator.kind = kind ∧ operator.Named text := by
  cases kind with
  | logical =>
    cases operator with
    | logical connective =>
      rw [Named,← Connective.read_named,Operator.read]
      cases Connective.read text <;> simp [Except.map,Operator.kind]
    | comparison comparator =>
      rw [Operator.read]
      cases Connective.read text <;> simp [Except.map,Operator.kind]
  | comparison =>
    cases operator with
    | logical connective =>
      rw [Operator.read]
      cases Comparator.read text <;> simp [Except.map,Operator.kind]
    | comparison comparator =>
      rw [Named,← Comparator.read_named,Operator.read]
      cases Comparator.read text <;> simp [Except.map,Operator.kind]

theorem read_text (operator : Operator) : Operator.read operator.kind operator.text = .ok operator := by
  cases operator with
  | logical connective => cases connective <;> rfl
  | comparison comparator => cases comparator <;> rfl

theorem read_fault (refused : Operator.read kind text = .error fault) :
    fault = .unknownOperator kind (canonical kind text) := by
  cases kind with
  | logical =>
    unfold Operator.read Connective.read at refused
    cases found : Connective.ofText? (canonical .logical text) <;> simp_all [Except.map]
  | comparison =>
    unfold Operator.read Comparator.read at refused
    cases found : Comparator.ofText? (canonical .comparison text) <;> simp_all [Except.map]

theorem read_refused : Operator.read kind text = .error fault ↔
    (∀ operator : Operator, operator.kind = kind → ¬operator.Named text) ∧
      fault = .unknownOperator kind (canonical kind text) := by
  constructor
  · intro refused
    refine ⟨fun operator same named => ?_,read_fault refused⟩
    rw [read_named.mpr ⟨same,named⟩] at refused
    cases refused
  · rintro ⟨unnamed,rfl⟩
    cases reads : Operator.read kind text with
    | error fault => rw [read_fault reads]
    | ok operator =>
      obtain ⟨same,named⟩ := read_named.mp reads
      exact absurd named (unnamed operator same)

end Operator

namespace Condition

theorem addedConnective_and (named : ∀ text ∈ operator, Connective.and.Named text) :
    addedConnective operator = .ok .and := by
  cases operator with
  | none => rfl
  | some text =>
    rw [addedConnective,Connective.read_named]
    exact named text rfl

theorem addedConnective_named {connective : Connective} (named : ∃ text ∈ operator, connective.Named text) :
    addedConnective operator = .ok connective := by
  obtain ⟨text,rfl,named⟩ := named
  rw [addedConnective,Connective.read_named]
  exact named

end Condition

end Eligibility
