import Eligibility.Proofs.Condition.Places
import Mathlib.Algebra.GroupWithZero.Nat

namespace Eligibility

namespace Condition

def leavesBefore : Condition → Path → List Value
  | compound _ left _, .left :: rest => left.leavesBefore rest
  | compound _ left right, .right :: rest => left.leaves ++ right.leavesBefore rest
  | _, _ => []

def leavesBehind : Condition → Path → List Value
  | compound _ left right, .left :: rest => left.leavesBehind rest ++ right.leaves
  | compound _ _ right, .right :: rest => right.leavesBehind rest
  | _, _ => []

-- Additions made one after the other, with the expressions in the order they came in.
inductive Added (start : Condition) : List Condition → Condition → Prop where
  | start : Added start [] start
  | add (added : Added start expressions condition)
      (accepted : condition.add path expression operator = .ok changed) :
      Added start (expressions ++ [expression]) changed

section

variable {condition changed part old left right expression : Condition} {path parent rest : Path}

theorem leavesBefore_root (condition : Condition) : condition.leavesBefore [] = [] := by
  cases condition <;> rfl

theorem leavesBehind_root (condition : Condition) : condition.leavesBehind [] = [] := by
  cases condition <;> rfl

theorem put_leaves (part : Condition) (put : condition.put? part path = some changed) :
    changed.leaves = condition.leavesBefore path ++ part.leaves ++ condition.leavesBehind path := by
  induction path generalizing condition changed with
  | nil =>
    cases put
    rw [leavesBefore_root,leavesBehind_root,List.nil_append,List.append_nil]
  | cons step rest ih =>
    obtain ⟨_,_,_,rfl,⟨rfl,_,inside,rfl⟩ | ⟨rfl,_,inside,rfl⟩⟩ := put_step part put
    all_goals
      simp only [leaves,leavesBefore,leavesBehind,ih inside,List.append_assoc]

theorem leaves_parted (found : condition.at? path = some part) :
    condition.leaves = condition.leavesBefore path ++ part.leaves ++ condition.leavesBehind path :=
  put_leaves part (put_same found)

-- What stands beside a part of a part stands beside it in the whole, nearer than what stands beside that part.
theorem leaves_append (rest : Path) (found : condition.at? parent = some part) :
    condition.leavesBefore (parent ++ rest) = condition.leavesBefore parent ++ part.leavesBefore rest ∧
      condition.leavesBehind (parent ++ rest) = part.leavesBehind rest ++ condition.leavesBehind parent := by
  induction parent generalizing condition with
  | nil =>
    cases found
    simp [leavesBefore_root,leavesBehind_root]
  | cons step parent ih =>
    obtain ⟨child,inside,deeper⟩ := Option.bind_eq_some_iff.mp found
    cases condition with
    | operand => cases inside
    | compound operator left right =>
      obtain ⟨before,behind⟩ := ih deeper
      cases step
      all_goals
        cases inside
        simp only [List.cons_append,leavesBefore,leavesBehind,before,behind,List.append_assoc,and_self]

theorem put_size (found : condition.at? path = some old) (put : condition.put? part path = some changed) :
    changed.size + old.size = condition.size + part.size := by
  induction path generalizing condition changed with
  | nil =>
    cases found
    cases put
    exact Nat.add_comm _ _
  | cons step rest ih =>
    obtain ⟨_,_,_,rfl,⟨rfl,_,inside,rfl⟩ | ⟨rfl,_,inside,rfl⟩⟩ := put_step part put
    all_goals
      have grows := ih found inside
      simp only [size]
      omega

theorem add_leaves (found : condition.at? path = some part)
    (accepted : condition.add path expression operator = .ok changed) :
    changed.leaves = condition.leavesBefore path ++ part.leaves ++ expression.leaves ++ condition.leavesBehind path ∧
      changed.size = condition.size + 1 + expression.size := by
  obtain ⟨_,_,puts,replaced⟩ := Edit.apply_sound (.add path expression operator) accepted
  cases puts with
  | add there named =>
    cases found.symm.trans there
    obtain ⟨put,_⟩ := replace_exact.mp replaced
    have grows := put_size found put
    refine ⟨?_,?_⟩
    · simp only [put_leaves _ put,leaves,List.append_assoc]
    · simp only [size] at grows
      omega

theorem remove_leaves (found : condition.at? path = some part) (accepted : condition.remove path = .ok changed) :
    changed.leaves = condition.leavesBefore path ++ condition.leavesBehind path ∧
      changed.size + 1 + part.size = condition.size := by
  obtain ⟨_,_,puts,replaced⟩ := Edit.apply_sound (.remove path) accepted
  cases puts with
  | @remove parent above sibling last there beside =>
    obtain ⟨put,_⟩ := replace_exact.mp replaced
    have grows := put_size there put
    obtain ⟨before,behind⟩ := leaves_append [last] there
    rw [put_leaves _ put,before,behind]
    rw [at_snoc,there,Option.bind_some] at found
    cases above with
    | operand => cases found
    | compound operator left right =>
      simp only [size] at grows
      cases last
      all_goals
        cases found
        cases beside
        refine ⟨?_,by omega⟩
        simp [leavesBefore,leavesBehind,leavesBefore_root,leavesBehind_root]

-- Where the additions are made shows in the order of the operands only.
theorem added_leaves (added : Added condition expressions changed) :
    changed.leaves.Perm (condition.leaves ++ expressions.flatMap leaves) ∧
      changed.size = condition.size + (expressions.map fun expression => 1 + expression.size).sum := by
  induction added with
  | start => simp
  | @add expressions before path expression operator changed added accepted ih =>
    obtain ⟨ordered,sized⟩ := ih
    obtain ⟨_,_,puts,_⟩ := Edit.apply_sound (.add path expression operator) accepted
    cases puts with
    | add found named =>
      obtain ⟨extended,grows⟩ := add_leaves found accepted
      refine ⟨?_,?_⟩
      · have parted := leaves_parted found
        rw [extended,List.flatMap_append,List.flatMap_singleton,← List.append_assoc]
        refine .trans ?_ (ordered.append_right _)
        rw [parted]
        simpa only [List.append_assoc] using (List.perm_append_comm.append_left _).append_left _
      · rw [grows,sized]
        simp only [List.map_append,List.sum_append,List.map_cons,List.map_nil,List.sum_cons,List.sum_nil]
        omega

end

-- Every addition counts, whatever others were made before it.
theorem edits_keep_operands (condition : Condition) :
    (∀ path part, condition.at? path = some part →
      ∃ before behind, condition.leaves = before ++ part.leaves ++ behind ∧
        (∀ expression operator changed, condition.add path expression operator = .ok changed →
          changed.leaves = before ++ part.leaves ++ expression.leaves ++ behind ∧
          changed.size = condition.size + 1 + expression.size) ∧
        ∀ changed, condition.remove path = .ok changed →
          changed.leaves = before ++ behind ∧ changed.size + 1 + part.size = condition.size) ∧
    ∀ expressions changed, Added condition expressions changed →
      changed.leaves.Perm (condition.leaves ++ expressions.flatMap leaves) ∧
      changed.size = condition.size + (expressions.map fun expression => 1 + expression.size).sum := by
  refine ⟨fun path part found => ?_,fun expressions changed added => added_leaves added⟩
  refine ⟨condition.leavesBefore path,condition.leavesBehind path,leaves_parted found,?_,?_⟩
  · exact fun expression operator changed accepted => add_leaves found accepted
  · exact fun changed accepted => remove_leaves found accepted

-- An operand between two others gets a third one behind it, and one behind all of them; or is taken out.
theorem adult_edits_keep_operands :
    ∃ whole longer longest shorter before behind, whole = compound (.logical .or) (compound (.logical .and)
        (operand (.string "member")) (operand (.string "adult"))) (operand (.string "staff")) ∧
      whole.add [.left,.right] (operand (.string "guest")) none = .ok longer ∧
      longer.add [] (operand (.string "retired")) (some "or") = .ok longest ∧ whole.remove [.left,.right] = .ok shorter ∧
      whole.leaves = before ++ [.string "adult"] ++ behind ∧
      longer.leaves = before ++ [.string "adult"] ++ [.string "guest"] ++ behind ∧
      shorter.leaves = before ++ behind ∧ shorter.size + 1 + 1 = whole.size ∧
      longest.size = whole.size + 4 := by
  obtain ⟨longer,longest,shorter,first,second,third⟩ : ∃ longer longest shorter : Condition,
      (compound (.logical .or) (compound (.logical .and) (operand (.string "member")) (operand (.string "adult")))
        (operand (.string "staff"))).add [.left,.right] (operand (.string "guest")) none = .ok longer ∧
      longer.add [] (operand (.string "retired")) (some "or") = .ok longest ∧
      (compound (.logical .or) (compound (.logical .and) (operand (.string "member")) (operand (.string "adult")))
        (operand (.string "staff"))).remove [.left,.right] = .ok shorter := ⟨_,_,_,rfl,rfl,rfl⟩
  obtain ⟨parted,sized⟩ := edits_keep_operands (compound (.logical .or) (compound (.logical .and)
    (operand (.string "member")) (operand (.string "adult"))) (operand (.string "staff")))
  obtain ⟨before,behind,split,added,removed⟩ := parted [.left,.right] _ rfl
  obtain ⟨without,less⟩ := removed _ third
  exact ⟨_,longer,longest,shorter,before,behind,rfl,first,second,third,split,(added _ _ _ first).1,without,less,
    (sized _ _ (.add (.add .start first) second)).2⟩

end Condition

end Eligibility
