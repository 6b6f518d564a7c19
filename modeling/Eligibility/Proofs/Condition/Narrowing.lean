import Eligibility.Proofs.Condition.Edits
import Eligibility.Proofs.Condition.Parts
import Eligibility.Proofs.Operator.Named
import Eligibility.Verdict

namespace Eligibility

-- Relations of a verdict before to one after that pass from the sides of a connective to the whole.
structure Carried (relation : Bool → Bool → Prop) : Prop where
  same (verdict : Bool) : relation verdict verdict
  joined (connective : Connective) (left : relation a b) (right : relation c d) :
    relation (connective.apply a c) (connective.apply b d)

theorem carried_implied : Carried fun before after => before = true → after = true where
  same _ holds := holds
  joined connective := by
    cases connective <;> simp only [Connective.apply,Bool.and_eq_true,Bool.or_eq_true]
    · exact fun left right both => ⟨left both.1,right both.2⟩
    · exact fun left right either => either.imp left right

theorem carried_equal : Carried Eq where
  same _ := rfl
  joined connective left right := by rw [left,right]

theorem Carried.reversed (carried : Carried relation) : Carried fun before after => relation after before where
  same := carried.same
  joined := carried.joined

namespace Condition

-- Only connectives stand above a place.
def Connected (condition : Condition) (path : Path) : Prop :=
  ∀ above : Path, above <+: path → above ≠ path →
    ∃ connective left right, condition.at? above = some (compound (.logical connective) left right)

theorem connected_root (condition : Condition) : Connected condition [] := by
  intro above within other
  exact absurd (List.prefix_nil.mp within) other

theorem connected_cons (condition : Condition) (step : Branch) (rest : Path) :
    Connected condition (step :: rest) ↔
      ∃ connective left right, condition = compound (.logical connective) left right ∧
        ∀ child, condition.child? step = some child → Connected child rest := by
  constructor
  · intro connected
    obtain ⟨connective,left,right,here⟩ := connected [] List.nil_prefix nofun
    refine ⟨connective,left,right,Option.some.inj here,?_⟩
    intro child found above within other
    have reached := connected (step :: above) (List.cons_prefix_cons.mpr ⟨rfl,within⟩)
      fun same => other (List.cons.inj same).2
    simpa only [at?,found,Option.bind_some] using reached
  · rintro ⟨connective,left,right,rfl,deeper⟩ above within other
    cases above with
    | nil => exact ⟨connective,left,right,rfl⟩
    | cons first above =>
      obtain ⟨rfl,inside⟩ := List.cons_prefix_cons.mp within
      have beside : above ≠ rest := fun same => other (congrArg (first :: ·) same)
      cases first with
      | left => exact deeper left rfl above inside beside
      | right => exact deeper right rfl above inside beside

theorem connected_parent (connected : Connected condition (parent ++ [last])) : Connected condition parent := by
  intro above within other
  apply connected above (within.trans (List.prefix_append _ _))
  rintro rfl
  exact absurd within.length_le (by simp)

theorem put_carried (carried : Carried relation) (record : Record) (connected : Connected condition path)
    (found : condition.at? path = some old) (put : condition.put? part path = some changed)
    (change : relation (old.holds record) (part.holds record)) :
    relation (condition.holds record) (changed.holds record) := by
  induction path generalizing condition changed with
  | nil =>
    cases found
    cases put
    exact change
  | cons step rest ih =>
    obtain ⟨connective,left,right,rfl,deeper⟩ := (connected_cons _ _ _).mp connected
    obtain ⟨_,_,_,same,⟨rfl,child,inside,rfl⟩ | ⟨rfl,child,inside,rfl⟩⟩ := put_step part put
    · cases same
      exact carried.joined connective (ih (deeper left rfl) found inside) (carried.same _)
    · cases same
      exact carried.joined connective (carried.same _) (ih (deeper right rfl) found inside)

theorem add_carried (carried : Carried relation) (record : Record) (connected : Connected condition path)
    (named : addedConnective operator = .ok connective)
    (accepted : condition.add path expression operator = .ok changed)
    (change : ∀ verdict, relation verdict (connective.apply verdict (expression.holds record))) :
    relation (condition.holds record) (changed.holds record) := by
  obtain ⟨_,_,puts,replaced⟩ := Edit.apply_sound (.add path expression operator) accepted
  cases puts with
  | add found read =>
    cases named.symm.trans read
    exact put_carried carried record connected found (replace_exact.mp replaced).1 (change _)

theorem remove_carried (carried : Carried relation) (record : Record) (connected : Connected condition path)
    (cut : path = parent ++ [last])
    (above : condition.at? parent = some (compound (.logical connective) left right))
    (accepted : condition.remove path = .ok changed)
    (change : ∀ first second, relation (connective.apply first second) first ∧
      relation (connective.apply first second) second) :
    relation (condition.holds record) (changed.holds record) := by
  obtain ⟨_,_,puts,replaced⟩ := Edit.apply_sound (.remove path) accepted
  cases puts with
  | remove found beside =>
    obtain ⟨rfl,same⟩ := List.append_inj' cut rfl
    cases same
    cases above.symm.trans found
    refine put_carried carried record (connected_parent connected) found (replace_exact.mp replaced).1 ?_
    cases last with
    | left => cases beside; exact (change _ _).2
    | right => cases beside; exact (change _ _).1

-- Where an added expression is true AND changes nothing, and OR where it is false.
theorem edits_narrow_or_widen (condition : Condition) (path : Path) (connected : Connected condition path)
    (record : Record) :
    (∀ expression operator changed, condition.add path expression operator = .ok changed →
      ((∀ text ∈ operator, Connective.and.Named text) →
        (changed.holds record = true → condition.holds record = true) ∧
        (expression.holds record = true → changed.holds record = condition.holds record)) ∧
      ((∃ text ∈ operator, Connective.or.Named text) →
        (condition.holds record = true → changed.holds record = true) ∧
        (expression.holds record = false → changed.holds record = condition.holds record))) ∧
    ∀ parent last connective left right changed, path = parent ++ [last] →
      condition.at? parent = some (compound (.logical connective) left right) →
      condition.remove path = .ok changed →
        (connective = .and → condition.holds record = true → changed.holds record = true) ∧
        (connective = .or → changed.holds record = true → condition.holds record = true) := by
  refine ⟨?_,?_⟩
  · intro expression operator changed accepted
    refine ⟨fun named => ⟨?_,fun met => ?_⟩,fun named => ⟨?_,fun unmet => ?_⟩⟩
    · apply add_carried carried_implied.reversed record connected (addedConnective_and named) accepted
      simp [Connective.apply]
    · apply add_carried carried_equal.reversed record connected (addedConnective_and named) accepted
      simp [Connective.apply,met]
    · apply add_carried carried_implied record connected (addedConnective_named named) accepted
      simp +contextual [Connective.apply]
    · apply add_carried carried_equal.reversed record connected (addedConnective_named named) accepted
      simp [Connective.apply,unmet]
  · intro parent last connective left right changed cut above accepted
    refine ⟨?_,?_⟩
    · rintro rfl
      apply remove_carried carried_implied record connected cut above accepted
      simp +contextual [Connective.apply]
    · rintro rfl
      apply remove_carried carried_implied.reversed record connected cut above accepted
      simp +contextual [Connective.apply]

theorem member_edits_narrow_or_widen :
    ∃ whole narrowed widened freed, whole = compound (.logical .or) (compound (.logical .and)
        (operand (.string "member")) (operand (.string "adult"))) (operand (.string "staff")) ∧
      whole.add [.left,.right] (operand (.string "paid")) none = .ok narrowed ∧
      whole.add [.left,.right] (operand (.string "senior")) (some " or ") = .ok widened ∧
      whole.remove [.left,.right] = .ok freed ∧ ∀ record,
        (narrowed.holds record = true → whole.holds record = true) ∧
        (whole.holds record = true → widened.holds record = true) ∧
        (whole.holds record = true → freed.holds record = true) := by
  refine ⟨_,_,_,_,rfl,rfl,rfl,rfl,fun record => ?_⟩
  have connected : Connected (compound (.logical .or) (compound (.logical .and) (operand (.string "member"))
      (operand (.string "adult"))) (operand (.string "staff"))) [.left,.right] := by
    rw [connected_cons]
    refine ⟨_,_,_,rfl,fun child found => ?_⟩
    cases found
    rw [connected_cons]
    exact ⟨_,_,_,rfl,fun child _ => connected_root child⟩
  obtain ⟨added,removed⟩ := edits_narrow_or_widen _ _ connected record
  have narrows := (added (operand (.string "paid")) none _ rfl).1 nofun
  have widens := (added (operand (.string "senior")) (some " or ") _ rfl).2 ⟨_,rfl,by decide⟩
  exact ⟨narrows.1,widens.1,(removed [.left] .right .and _ _ _ rfl rfl rfl).1 rfl⟩

end Condition

end Eligibility
