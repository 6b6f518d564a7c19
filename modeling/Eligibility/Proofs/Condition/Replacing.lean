import Eligibility.Proofs.Condition.Places

namespace Eligibility

namespace Condition

section

variable {condition changed part old : Condition} {path : Path}

theorem replace_absent (part : Condition) (absent : condition.at? path = none) :
    condition.replace path part = .error (.path (.absent path)) := by
  simp only [replace,put_absent part absent]

theorem replace_deep (found : condition.at? path = some old) (deep : maxDepth < path.length + part.depth) :
    condition.replace path part = .error .tooDeep := by
  obtain ⟨changed,put⟩ := put_found part found
  simp only [replace,put]
  rw [if_neg (Nat.not_le.mpr deep)]

theorem replace_fits (found : condition.at? path = some old) (fits : path.length + part.depth ≤ maxDepth) :
    ∃ changed, condition.replace path part = .ok changed := by
  obtain ⟨changed,put⟩ := put_found part found
  exact ⟨changed,replace_exact.mpr ⟨put,fits⟩⟩

-- All that replacing can answer: the place is looked for first, then the depth counts.
theorem replace_outcome (condition : Condition) (path : Path) (part : Condition) :
    (condition.at? path = none ∧ condition.replace path part = .error (.path (.absent path))) ∨
    (condition.at? path ≠ none ∧ maxDepth < path.length + part.depth ∧
      condition.replace path part = .error .tooDeep) ∨
    (condition.at? path ≠ none ∧ path.length + part.depth ≤ maxDepth ∧
      ∃ changed, condition.replace path part = .ok changed) := by
  cases found : condition.at? path with
  | none => exact .inl ⟨rfl,replace_absent part found⟩
  | some old =>
    by_cases fits : path.length + part.depth ≤ maxDepth
    · exact .inr (.inr ⟨nofun,fits,replace_fits found fits⟩)
    · have deep := Nat.not_le.mp fits
      exact .inr (.inl ⟨nofun,deep,replace_deep found deep⟩)

theorem replace_again (next : Condition) (put : condition.put? part path = some changed) :
    changed.replace path next = condition.replace path next := by
  simp only [replace,put_put part next put]

theorem replace_same (found : condition.at? path = some part) (fits : path.length + part.depth ≤ maxDepth) :
    condition.replace path part = .ok condition := replace_exact.mpr ⟨put_same found,fits⟩

theorem replace_shallower (shallow : condition.depth ≤ maxDepth) (found : condition.at? path = some old)
    (lower : part.depth ≤ old.depth) : ∃ changed, condition.replace path part = .ok changed := by
  have within := at_depth found
  exact replace_fits found (by omega)

end

-- Refused for no other reasons than these, the missing place first.
theorem replace_lawful (condition : Condition) (path : Path) (part : Condition) :
    ((condition.replace path part = .error (.path (.absent path)) ↔ condition.at? path = none) ∧
      (condition.replace path part = .error .tooDeep ↔
        condition.at? path ≠ none ∧ maxDepth < path.length + part.depth) ∧
      ((∃ changed, condition.replace path part = .ok changed) ↔
        condition.at? path ≠ none ∧ path.length + part.depth ≤ maxDepth)) ∧
    (∀ changed, condition.replace path part = .ok changed →
      changed.at? path = some part ∧
      (∀ other, Path.Apart other path → changed.at? other = condition.at? other) ∧
      (∀ above, above <+: path → above ≠ path →
        ∃ operator left right newLeft newRight, condition.at? above = some (compound operator left right) ∧
          changed.at? above = some (compound operator newLeft newRight)) ∧
      ∀ next, changed.replace path next = condition.replace path next) ∧
    (condition.at? path = some part → condition.depth ≤ maxDepth → condition.replace path part = .ok condition) := by
  refine ⟨?_,?_,?_⟩
  · obtain ⟨absent,refused⟩ | ⟨there,deep,refused⟩ | ⟨there,fits,_,accepted⟩ := replace_outcome condition path part
    · simp [absent,refused]
    · simp [there,deep,refused]
    · simp [there,fits,accepted]
  · intro changed accepted
    obtain ⟨put,_⟩ := replace_exact.mp accepted
    exact ⟨at_put part put,fun other apart => at_put_apart part apart put,
      fun above within beside => at_put_above part within beside put,fun next => replace_again next put⟩
  · intro found shallow
    exact replace_same found (Nat.le_trans (at_depth found) shallow)

theorem adult_replaced_lawful :
    ∃ whole changed, whole = compound (.logical .or) (compound (.logical .and)
        (operand (.string "member")) (operand (.string "adult"))) (operand (.string "staff")) ∧
      whole.replace [.left,.right] (operand (.string "senior")) = .ok changed ∧
      changed.at? [.left,.right] = some (operand (.string "senior")) ∧
      changed.at? [.right] = some (operand (.string "staff")) ∧
      (changed.at? [.left]).bind operator? = some (.logical .and) ∧
      changed.replace [.left,.right] (operand (.string "adult")) = .ok whole := by
  refine ⟨_,_,rfl,rfl,?_⟩
  have lawful := replace_lawful (compound (.logical .or) (compound (.logical .and)
    (operand (.string "member")) (operand (.string "adult"))) (operand (.string "staff"))) [.left,.right]
  obtain ⟨there,elsewhere,above,again⟩ := (lawful (operand (.string "senior"))).2.1 _ rfl
  have back := (lawful (operand (.string "adult"))).2.2 rfl (by decide)
  refine ⟨there,elsewhere [.right] (by decide),?_,(again _).trans back⟩
  obtain ⟨_,_,_,_,_,before,after⟩ := above [.left] (by decide) (by decide)
  cases before
  rw [after]
  rfl

end Condition

end Eligibility
