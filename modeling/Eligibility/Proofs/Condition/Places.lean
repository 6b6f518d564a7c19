import Eligibility.Proofs.Condition.Edits
import Eligibility.Proofs.Condition.Parts

namespace Eligibility

namespace Path

def Apart (first second : Path) : Prop := ¬first <+: second ∧ ¬second <+: first

instance (first second : Path) : Decidable (Apart first second) := inferInstanceAs (Decidable (_ ∧ _))

theorem Apart.symm (apart : Apart first second) : Apart second first := ⟨apart.2,apart.1⟩

theorem Apart.forks (apart : Apart first second) :
    ∃ step rest next beside, first = step :: rest ∧ second = next :: beside ∧ (step = next → Apart rest beside) := by
  cases first with
  | nil => exact absurd List.nil_prefix apart.1
  | cons step rest =>
    cases second with
    | nil => exact absurd List.nil_prefix apart.2
    | cons next beside =>
      refine ⟨step,rest,next,beside,rfl,rfl,?_⟩
      rintro rfl
      simpa only [Apart,List.cons_prefix_cons,true_and] using apart

end Path

namespace Condition

section

variable {condition changed part old left right : Condition} {path first second above other : Path}

theorem put_left (operator : Operator) (left right part : Condition) (rest : Path) :
    (compound operator left right).put? part (.left :: rest) =
      (left.put? part rest).map (compound operator · right) := Option.map_eq_bind.symm

theorem put_right (operator : Operator) (left right part : Condition) (rest : Path) :
    (compound operator left right).put? part (.right :: rest) =
      (right.put? part rest).map (compound operator left ·) := Option.map_eq_bind.symm

theorem at_append (condition : Condition) (front rest : Path) :
    condition.at? (front ++ rest) = (condition.at? front).bind (at? · rest) := by
  induction front generalizing condition with
  | nil => rfl
  | cons step front ih =>
    simp only [List.cons_append,at?]
    cases condition.child? step with
    | none => rfl
    | some child => exact ih child

theorem at_snoc (condition : Condition) (parent : Path) (last : Branch) :
    condition.at? (parent ++ [last]) = (condition.at? parent).bind (·.child? last) := by
  rw [at_append]
  congr
  funext above
  exact Option.bind_fun_some _

theorem put_isSome (condition part : Condition) (path : Path) :
    (condition.put? part path).isSome = (condition.at? path).isSome := by
  induction path generalizing condition with
  | nil => rfl
  | cons step rest ih =>
    cases condition with
    | operand => rfl
    | compound operator left right =>
      cases step with
      | left => rw [put_left,Option.isSome_map,ih]; rfl
      | right => rw [put_right,Option.isSome_map,ih]; rfl

theorem put_found (part : Condition) (found : condition.at? path = some old) :
    ∃ changed, condition.put? part path = some changed := by
  rw [← Option.isSome_iff_exists,put_isSome,found,Option.isSome_some]

theorem put_absent (part : Condition) (absent : condition.at? path = none) : condition.put? part path = none := by
  rw [← Option.isNone_iff_eq_none,← Option.not_isSome,put_isSome,absent]
  rfl

theorem at_put (part : Condition) (put : condition.put? part path = some changed) :
    changed.at? path = some part := by
  induction path generalizing condition changed with
  | nil => exact put.symm
  | cons step rest ih =>
    obtain ⟨_,_,_,rfl,⟨rfl,_,inside,rfl⟩ | ⟨rfl,_,inside,rfl⟩⟩ := put_step part put
    · exact ih inside
    · exact ih inside

theorem at_put_apart (part : Condition) (apart : Path.Apart other path)
    (put : condition.put? part path = some changed) : changed.at? other = condition.at? other := by
  induction path generalizing condition changed other with
  | nil => exact absurd List.nil_prefix apart.2
  | cons step rest ih =>
    obtain ⟨next,beside,_,_,rfl,same,deeper⟩ := apart.forks
    cases same
    obtain ⟨_,_,_,rfl,⟨rfl,_,inside,rfl⟩ | ⟨rfl,_,inside,rfl⟩⟩ := put_step part put
    · cases next with
      | left =>
        have kept := ih (deeper rfl) inside
        exact kept
      | right => rfl
    · cases next with
      | left => rfl
      | right =>
        have kept := ih (deeper rfl) inside
        exact kept

theorem at_put_above (part : Condition) (within : above <+: path) (other : above ≠ path)
    (put : condition.put? part path = some changed) :
    ∃ operator left right newLeft newRight, condition.at? above = some (compound operator left right) ∧
      changed.at? above = some (compound operator newLeft newRight) := by
  induction path generalizing condition changed above with
  | nil => exact absurd (List.prefix_nil.mp within) other
  | cons step rest ih =>
    obtain ⟨operator,left,right,rfl,place⟩ := put_step part put
    cases above with
    | nil =>
      obtain ⟨_,_,_,rfl⟩ | ⟨_,_,_,rfl⟩ := place
      all_goals exact ⟨operator,left,right,_,_,rfl,rfl⟩
    | cons first above =>
      obtain ⟨rfl,inside⟩ := List.cons_prefix_cons.mp within
      have beside : above ≠ rest := fun same => other (congrArg (first :: ·) same)
      obtain ⟨rfl,_,changes,rfl⟩ | ⟨rfl,_,changes,rfl⟩ := place
      all_goals
        have kept := ih inside beside changes
        exact kept

-- Of two parts put at one place the later one counts.
theorem put_put (part next : Condition) (put : condition.put? part path = some changed) :
    changed.put? next path = condition.put? next path := by
  induction path generalizing condition changed with
  | nil => rfl
  | cons step rest ih =>
    obtain ⟨_,_,_,rfl,⟨rfl,_,inside,rfl⟩ | ⟨rfl,_,inside,rfl⟩⟩ := put_step part put
    · rw [put_left,put_left,ih inside]
    · rw [put_right,put_right,ih inside]

theorem put_same (found : condition.at? path = some part) : condition.put? part path = some condition := by
  induction path generalizing condition with
  | nil => exact found.symm
  | cons step rest ih =>
    obtain ⟨child,inside,deeper⟩ := Option.bind_eq_some_iff.mp found
    cases condition with
    | operand value => cases inside
    | compound operator left right =>
      cases step with
      | left => cases inside; rw [put_left,ih deeper,Option.map_some]
      | right => cases inside; rw [put_right,ih deeper,Option.map_some]

theorem put_apart (one other : Condition) (apart : Path.Apart first second)
    (putOne : condition.put? one first = some left) (putOther : condition.put? other second = some right) :
    ∃ both, left.put? other second = some both ∧ right.put? one first = some both := by
  induction first generalizing condition left right second with
  | nil => exact absurd List.nil_prefix apart.1
  | cons step rest ih =>
    obtain ⟨_,_,next,beside,same,rfl,deeper⟩ := apart.forks
    cases same
    obtain ⟨_,_,_,rfl,⟨rfl,_,insideOne,rfl⟩ | ⟨rfl,_,insideOne,rfl⟩⟩ := put_step one putOne
    all_goals
      obtain ⟨_,_,_,same,⟨rfl,_,insideOther,rfl⟩ | ⟨rfl,_,insideOther,rfl⟩⟩ := put_step other putOther
      all_goals cases same
    · obtain ⟨_,putSecond,putFirst⟩ := ih (deeper rfl) insideOne insideOther
      simp [put_left,putSecond,putFirst]
    · simp [put_left,put_right,insideOne,insideOther]
    · simp [put_left,put_right,insideOne,insideOther]
    · obtain ⟨_,putSecond,putFirst⟩ := ih (deeper rfl) insideOne insideOther
      simp [put_right,putSecond,putFirst]

theorem at_depth (found : condition.at? path = some part) : path.length + part.depth ≤ condition.depth := by
  induction path generalizing condition with
  | nil =>
    cases found
    simp only [List.length_nil]
    omega
  | cons step rest ih =>
    obtain ⟨child,inside,deeper⟩ := Option.bind_eq_some_iff.mp found
    have bound := ih deeper
    cases condition with
    | operand value => cases inside
    | compound operator left right =>
      cases step with
      | left => cases inside; simp only [depth,List.length_cons]; omega
      | right => cases inside; simp only [depth,List.length_cons]; omega

theorem child_shallower (found : condition.child? step = some part) : part.depth < condition.depth := by
  have within := at_depth (show condition.at? [step] = some part by rw [at?,found]; rfl)
  simp only [List.length_singleton] at within
  omega

theorem child_sibling (found : condition.child? step = some part) :
    ∃ beside, condition.child? step.sibling = some beside := by
  cases condition with
  | operand => cases found
  | compound operator left right =>
    cases step with
    | left => exact ⟨right,rfl⟩
    | right => exact ⟨left,rfl⟩

end

end Condition

end Eligibility
