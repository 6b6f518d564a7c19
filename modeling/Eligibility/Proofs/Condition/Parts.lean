import Eligibility.Fault

namespace Eligibility

theorem bind_ok {outcome : Except Fault α} {next : α → Except Fault β}
    (accepted : outcome.bind next = .ok result) : ∃ inner, outcome = .ok inner ∧ next inner = .ok result := by
  cases outcome with
  | error fault => cases accepted
  | ok inner => exact ⟨inner,rfl,accepted⟩

theorem mapM_ok_cons {read : α → Except Fault β} (accepted : (item :: items).mapM read = .ok results) :
    ∃ first rest, read item = .ok first ∧ items.mapM read = .ok rest ∧ results = first :: rest := by
  rw [List.mapM_cons] at accepted
  obtain ⟨first,front,further⟩ := bind_ok accepted
  obtain ⟨rest,behind,same⟩ := bind_ok further
  exact ⟨first,rest,front,behind,(Except.ok.inj same).symm⟩

theorem mapM_results {read : α → Except Fault β} {items : List α} (accepted : items.mapM read = .ok results) :
    ∀ result ∈ results, ∃ item ∈ items, read item = .ok result := by
  induction items generalizing results with
  | nil =>
    cases accepted
    exact List.forall_mem_nil _
  | cons item items ih =>
    obtain ⟨first,rest,front,behind,rfl⟩ := mapM_ok_cons accepted
    refine List.forall_mem_cons.mpr ⟨⟨item,List.mem_cons_self ..,front⟩,?_⟩
    intro result member
    obtain ⟨other,present,reads⟩ := ih behind result member
    exact ⟨other,List.mem_cons_of_mem _ present,reads⟩

theorem mapM_accepted (change : α → Except ε β) (items : List α) :
    (∃ results, items.mapM change = .ok results) ↔ ∀ item ∈ items, ∃ result, change item = .ok result := by
  induction items with
  | nil => simp [pure,Except.pure]
  | cons item items ih =>
    rw [List.mapM_cons,List.forall_mem_cons,← ih]
    cases change item with
    | error fault => simp [bind,Except.bind]
    | ok result => cases items.mapM change <;> simp [bind,Except.bind,pure,Except.pure]

-- The first item that is refused decides.
theorem mapM_error (change : α → Except ε β) (items : List α) (reason : ε) :
    items.mapM change = .error reason ↔ ∃ before bad behind, items = before ++ bad :: behind ∧
      (∀ item ∈ before, ∃ result, change item = .ok result) ∧ change bad = .error reason := by
  induction items with
  | nil => simp [pure,Except.pure]
  | cons item items ih =>
    rw [List.mapM_cons]
    cases found : change item with
    | error own =>
      constructor
      · rintro ⟨⟩
        exact ⟨[],item,items,rfl,nofun,found⟩
      · rintro ⟨before,bad,behind,parts,fine,refused⟩
        rcases List.append_eq_cons_iff.mp parts.symm with ⟨rfl,same⟩ | ⟨more,rfl,_⟩
        · cases same
          cases found.symm.trans refused
          rfl
        · obtain ⟨result,accepted⟩ := fine item (List.mem_cons_self ..)
          cases found.symm.trans accepted
    | ok result =>
      have further : (do let rest ← items.mapM change; pure (result :: rest)) = Except.error reason ↔
          items.mapM change = .error reason := by
        cases items.mapM change <;> simp [bind,Except.bind,pure,Except.pure]
      refine further.trans (ih.trans ⟨?_,?_⟩)
      · rintro ⟨before,bad,behind,rfl,fine,refused⟩
        exact ⟨item :: before,bad,behind,rfl,List.forall_mem_cons.mpr ⟨⟨result,found⟩,fine⟩,refused⟩
      · rintro ⟨before,bad,behind,parts,fine,refused⟩
        rcases List.append_eq_cons_iff.mp parts.symm with ⟨rfl,same⟩ | ⟨more,rfl,rest⟩
        · cases same
          cases found.symm.trans refused
        · exact ⟨more,bad,behind,rest,(List.forall_mem_cons.mp fine).2,refused⟩

namespace Condition

theorem depth_parts {limit : Nat} (shallow : (compound operator left right).depth ≤ limit) :
    left.depth ≤ limit ∧ right.depth ≤ limit := by
  unfold depth at shallow
  omega

def limited (condition : Condition) : Except Fault Condition :=
  if condition.depth ≤ maxDepth then .ok condition else .error .tooDeep

theorem Measured.condition_measured (known : Measured) : known.condition.measured = known := by
  obtain ⟨condition,_,rfl⟩ := known
  rfl

-- The depth that is carried along decides as the depth of the joined condition would.
theorem Measured.join_limited (operator : Operator) (left right : Measured) :
    join operator left right = (compound operator left.condition right.condition).limited.map measured := by
  unfold join limited
  simp only [join_depth operator]
  split <;> rfl

theorem limited_shallow {condition : Condition} (shallow : condition.depth ≤ maxDepth) :
    condition.limited = .ok condition := if_pos shallow

theorem limited_ok {condition result : Condition} (accepted : condition.limited = .ok result) :
    result = condition ∧ condition.depth ≤ maxDepth := by
  unfold limited at accepted
  split at accepted
  next shallow => exact ⟨(Except.ok.inj accepted).symm,shallow⟩
  · cases accepted

theorem put_step (part : Condition) (accepted : put? condition part (step :: rest) = some changed) :
    ∃ operator left right, condition = compound operator left right ∧
      ((step = .left ∧ ∃ child, left.put? part rest = some child ∧ changed = compound operator child right) ∨
       (step = .right ∧ ∃ child, right.put? part rest = some child ∧ changed = compound operator left child)) := by
  cases condition with
  | operand value => cases accepted
  | compound operator left right =>
    refine ⟨operator,left,right,rfl,?_⟩
    cases step with
    | left =>
      obtain ⟨child,inside,put⟩ := Option.bind_eq_some_iff.mp accepted
      exact .inl ⟨rfl,child,inside,(Option.some.inj put).symm⟩
    | right =>
      obtain ⟨child,inside,put⟩ := Option.bind_eq_some_iff.mp accepted
      exact .inr ⟨rfl,child,inside,(Option.some.inj put).symm⟩

-- The new part counts from where it stands; beside it nothing gets deeper.
theorem put_depth (part : Condition) (path : Path) (accepted : put? condition part path = some changed) :
    changed.depth ≤ max condition.depth (path.length + part.depth) := by
  induction path generalizing condition changed with
  | nil =>
    cases accepted
    simp only [List.length_nil]
    omega
  | cons step rest ih =>
    obtain ⟨operator,left,right,rfl,⟨_,child,inside,rfl⟩ | ⟨_,child,inside,rfl⟩⟩ := put_step part accepted
    all_goals
      have bound := ih inside
      simp only [depth,List.length_cons]
      omega

theorem put_finite (part : Condition) (path : Path) (accepted : put? condition part path = some changed)
    (whole : condition.isFinite = true) (finite : part.isFinite = true) : changed.isFinite = true := by
  induction path generalizing condition changed with
  | nil => cases accepted; exact finite
  | cons step rest ih =>
    obtain ⟨operator,left,right,rfl,⟨_,child,inside,rfl⟩ | ⟨_,child,inside,rfl⟩⟩ := put_step part accepted
    all_goals
      obtain ⟨finiteLeft,finiteRight⟩ := (Bool.and_eq_true _ _).mp whole
    · exact (Bool.and_eq_true _ _).mpr ⟨ih inside finiteLeft,finiteRight⟩
    · exact (Bool.and_eq_true _ _).mpr ⟨finiteLeft,ih inside finiteRight⟩

theorem child_finite (step : Branch) (found : child? condition step = some child)
    (whole : condition.isFinite = true) : child.isFinite = true := by
  cases condition with
  | operand value => cases found
  | compound operator left right =>
    obtain ⟨finiteLeft,finiteRight⟩ := (Bool.and_eq_true _ _).mp whole
    cases step with
    | left => cases found; exact finiteLeft
    | right => cases found; exact finiteRight

theorem at_finite (path : Path) (found : at? condition path = some part)
    (whole : condition.isFinite = true) : part.isFinite = true := by
  induction path generalizing condition with
  | nil => cases found; exact whole
  | cons step rest ih =>
    obtain ⟨child,inside,deeper⟩ := Option.bind_eq_some_iff.mp found
    exact ih deeper (child_finite step inside whole)

theorem operand_finite {value : Value} :
    (operand value).isFinite = true ↔ ∀ n, value = .number n → n.isFinite = true := by
  cases value <;> simp [isFinite]

theorem isFinite_leaves (condition : Condition) :
    condition.isFinite = true ↔ ∀ n, Value.number n ∈ condition.leaves → n.isFinite = true := by
  induction condition with
  | operand value => cases value <;> simp [isFinite,leaves]
  | compound operator left right ihLeft ihRight =>
    simp only [isFinite,leaves,Bool.and_eq_true,ihLeft,ihRight,List.mem_append]
    constructor
    · intro both n member
      rcases member with member | member
      · exact both.1 n member
      · exact both.2 n member
    · intro all
      exact ⟨fun n member => all n (.inl member),fun n member => all n (.inr member)⟩

end Condition

end Eligibility
