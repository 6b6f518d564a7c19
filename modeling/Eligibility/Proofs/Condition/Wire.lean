import Eligibility.Condition.Wire

namespace Eligibility

namespace Wire

def isFinite : Wire → Bool
  | absent => true
  | node _ _ left right value =>
    left.isFinite && right.isFinite && value.all fun held => (Condition.operand held).isFinite

def childOf? (slot : Option Json) : Option Wire :=
  match Json.given slot with
  | none => some absent
  | some child => ofJson? child

theorem value_finite {slot : Option Json} {value : Option Value} (found : Value.ofSlot? slot = some value) :
    (value.all fun held => (Condition.operand held).isFinite) = true := by
  unfold Value.ofSlot? at found
  split at found
  · cases found; rfl
  · obtain ⟨held,read,rfl⟩ := Option.map_eq_some_iff.mp found
    unfold Value.ofJson? at read
    split at read
    · cases read; rfl
    · split at read
      next finite => cases read; exact finite
      · cases read
    · cases read; rfl
    · cases read

theorem slots_finite {type operator value : Option Json} {left right : Option Wire} {wire : Wire}
    (found : ofSlots? type operator left right value = some wire)
    (finiteLeft : ∀ child, left = some child → child.isFinite = true)
    (finiteRight : ∀ child, right = some child → child.isFinite = true) : wire.isFinite = true := by
  unfold ofSlots? at found
  split at found
  · obtain ⟨_,_,found⟩ := Option.bind_eq_some_iff.mp found
    obtain ⟨leftSide,hasLeft,found⟩ := Option.bind_eq_some_iff.mp found
    obtain ⟨rightSide,hasRight,found⟩ := Option.bind_eq_some_iff.mp found
    obtain ⟨held,read,rfl⟩ := Option.map_eq_some_iff.mp found
    simp only [isFinite,finiteLeft leftSide hasLeft,finiteRight rightSide hasRight,value_finite read,
      Bool.and_true]
  · cases found

theorem ofJson_finite (json : Json) (found : ofJson? json = some wire) : wire.isFinite = true := by
  fun_induction ofJson? json generalizing wire with
  | case1 json type operator left right value slots leftSide rightSide ihLeft =>
    rename_i ihRight
    apply slots_finite found
    · intro child there
      unfold leftSide at there
      split at there
      · cases there; rfl
      next given => exact ihLeft _ given there
    · intro child there
      unfold rightSide at there
      split at there
      · cases there; rfl
      next given => exact ihRight _ given there
  | case2 => cases found

-- What a stored node has to be for a condition to come of it.
theorem toCondition_node {type : String} {text : Option String} {left right : Wire} {value : Option Value}
    (read : (node type text left right value).toCondition level = .ok condition) :
    level ≤ Condition.maxDepth ∧
    ((∃ operator leftSide rightSide, condition = .compound operator leftSide rightSide ∧
        left.toCondition (level + 1) = .ok leftSide ∧ right.toCondition (level + 1) = .ok rightSide) ∨
      ∃ held, value = some held ∧ condition = .operand held) := by
  unfold toCondition at read
  split at read
  · cases read
  next shallow =>
    refine ⟨Nat.le_of_not_lt shallow,?_⟩
    split at read
    · split at read
      · cases read
      split at read
      · cases read
      split at read
      · cases read
      split at read
      · cases read
      split at read
      · cases read
      next leftSide readLeft =>
        split at read
        · cases read
        next rightSide readRight =>
          cases read
          exact .inl ⟨_,leftSide,rightSide,rfl,readLeft,readRight⟩
    · split at read
      · split at read
        next held => cases read; exact .inr ⟨held,rfl,rfl⟩
        · cases read
      · cases read

-- The level of a node is checked before all else, so nothing that is read passes the deepest one.
theorem toCondition_depth (wire : Wire) (level : Nat) (read : wire.toCondition level = .ok condition) :
    level + condition.depth ≤ Condition.maxDepth + 1 := by
  induction wire generalizing level condition with
  | absent => cases read
  | node type text left right value ihLeft ihRight =>
    obtain ⟨shallow,⟨operator,leftSide,rightSide,rfl,readLeft,readRight⟩ | ⟨held,_,rfl⟩⟩ :=
      toCondition_node read
    · have := ihLeft _ readLeft
      have := ihRight _ readRight
      simp only [Condition.depth]
      omega
    · exact Nat.add_le_add_right shallow 1

theorem toCondition_finite (wire : Wire) (level : Nat) (read : wire.toCondition level = .ok condition)
    (finite : wire.isFinite = true) : condition.isFinite = true := by
  induction wire generalizing level condition with
  | absent => cases read
  | node type text left right value ihLeft ihRight =>
    simp only [isFinite,Bool.and_eq_true] at finite
    obtain ⟨_,⟨operator,leftSide,rightSide,rfl,readLeft,readRight⟩ | ⟨held,rfl,rfl⟩⟩ :=
      toCondition_node read
    · exact (Bool.and_eq_true _ _).mpr ⟨ihLeft _ readLeft finite.1.1,ihRight _ readRight finite.1.2⟩
    · exact finite.2

end Wire

end Eligibility
