import Eligibility.Proofs.Condition.Built
import Eligibility.Proofs.Operator.Named
import Mathlib.Data.List.Forall2

namespace Eligibility

def Connective.overall (connective : Connective) (verdicts : List Bool) : Bool :=
  match connective with
  | and => verdicts.all id
  | or => verdicts.any id

theorem Connective.overall_single (connective : Connective) (verdict : Bool) : connective.overall [verdict] = verdict := by
  cases connective <;> simp [overall]

theorem Connective.overall_joined (connective : Connective) (first second : Bool) (rest : List Bool) :
    connective.overall (connective.apply first second :: rest) = connective.overall (first :: second :: rest) := by
  cases connective <;> simp [overall,apply,Bool.and_assoc,Bool.or_assoc]

theorem Connective.overall_perm (connective : Connective) (same : List.Perm verdicts others) :
    connective.overall verdicts = connective.overall others := by
  cases connective with
  | and => exact same.all_eq
  | or => exact same.any_eq

def OnlyTooDeep (answer : Except Fault α) : Prop := ∀ fault, answer = .error fault → fault = .tooDeep

theorem OnlyTooDeep.bind {answer : Except Fault α} {next : α → Except Fault β} (first : OnlyTooDeep answer)
    (further : ∀ result, OnlyTooDeep (next result)) : OnlyTooDeep (answer.bind next) := by
  intro fault refused
  cases answer with
  | error other => exact first fault (congrArg Except.error (Except.error.inj refused))
  | ok result => exact further result fault refused

theorem OnlyTooDeep.map {answer : Except Fault α} (first : OnlyTooDeep answer) (change : α → β) :
    OnlyTooDeep (answer.map change) := by
  intro fault refused
  cases answer with
  | error other => exact first fault (congrArg Except.error (Except.error.inj refused))
  | ok result => cases refused

theorem mapM_change (read : α → Except Fault β) (change : β → γ) (items : List α) :
    items.mapM (fun item => (read item).map change) = (items.mapM read).map (List.map change) := by
  induction items with
  | nil => rfl
  | cons item items ih =>
    rw [List.mapM_cons,List.mapM_cons,ih]
    cases read item with
    | error fault => rfl
    | ok result => cases items.mapM read <;> rfl

theorem mapM_refused (read : α → Except Fault β) (items : List α) (refused : ∀ item ∈ items, OnlyTooDeep (read item)) :
    OnlyTooDeep (items.mapM read) := by
  intro fault whole
  obtain ⟨before,bad,behind,rfl,_,blamed⟩ := (mapM_error read items fault).mp whole
  exact refused bad (by simp) fault blamed

namespace Condition

theorem limited_refused (condition : Condition) : OnlyTooDeep condition.limited := by
  intro fault refused
  unfold limited at refused
  split at refused
  · cases refused
  · exact (Except.error.inj refused).symm

theorem limited_plain (condition : Condition) : condition.plain.limited = condition.limited.map plain := by
  unfold limited
  rw [condition.plain_depth]
  split <;> rfl

structure Group where
  first : Condition
  rest : List Condition

namespace Group

def parts (group : Group) : List Condition := group.first :: group.rest

def joined (connective : Connective) (group : Group) : Except Fault Condition :=
  group.rest.foldlM (join connective) group.first

-- The tree that grows to the left, whatever its depth.
def chain (connective : Connective) (group : Group) : Condition :=
  group.rest.foldl (compound (.logical connective)) group.first

def plain (group : Group) : Group := ⟨group.first.plain,group.rest.map Condition.plain⟩

theorem of_lists (groups : List (List Condition)) (nonempty : ∀ group ∈ groups, group ≠ []) :
    ∃ found : List Group, found.map parts = groups := by
  induction groups with
  | nil => exact ⟨[],rfl⟩
  | cons group groups ih =>
    obtain ⟨found,rfl⟩ := ih fun other member => nonempty other (List.mem_cons_of_mem _ member)
    obtain ⟨first,rest,rfl⟩ := List.exists_cons_of_ne_nil (nonempty group (List.mem_cons_self ..))
    exact ⟨⟨first,rest⟩ :: found,rfl⟩

theorem joined_cons (connective : Connective) (first next : Condition) (rest : List Condition) :
    joined connective ⟨first,next :: rest⟩ =
      (join connective first next).bind fun left => joined connective ⟨left,rest⟩ := rfl

theorem chain_cons (connective : Connective) (first next : Condition) (rest : List Condition) :
    chain connective ⟨first,next :: rest⟩ = chain connective ⟨compound (.logical connective) first next,rest⟩ := rfl

theorem chain_deepens (connective : Connective) (first : Condition) (rest : List Condition) :
    first.depth ≤ (chain connective ⟨first,rest⟩).depth := by
  induction rest generalizing first with
  | nil => exact Nat.le_refl _
  | cons next rest ih =>
    have further := ih (compound (.logical connective) first next)
    rw [depth] at further
    rw [chain_cons]
    omega

-- What is too deep on the way is too deep in the end, so the end alone decides.
theorem joined_limited (connective : Connective) (first next : Condition) (rest : List Condition) :
    joined connective ⟨first,next :: rest⟩ = (chain connective ⟨first,next :: rest⟩).limited := by
  induction rest generalizing first next with
  | nil =>
    rw [joined_cons,join,chain_cons]
    change _ = (compound (.logical connective) first next).limited
    cases (compound (.logical connective) first next).limited <;> rfl
  | cons further rest ih =>
    rw [joined_cons,chain_cons]
    by_cases shallow : (compound (.logical connective) first next).depth ≤ maxDepth
    · rw [join,limited_shallow shallow]
      exact ih _ further
    · have refused : join connective first next = .error .tooDeep := if_neg shallow
      have deepens := chain_deepens connective (compound (.logical connective) first next) (further :: rest)
      have deep : ¬(chain connective ⟨compound (.logical connective) first next,further :: rest⟩).depth ≤ maxDepth := by
        omega
      rw [refused]
      exact (if_neg deep).symm

theorem joined_exact (connective : Connective) (group : Group) :
    group.joined connective = if group.rest = [] ∨ (group.chain connective).depth ≤ maxDepth
      then .ok (group.chain connective) else .error .tooDeep := by
  obtain ⟨first,rest⟩ := group
  cases rest with
  | nil => exact (if_pos (.inl rfl)).symm
  | cons next rest => simp only [joined_limited,limited,reduceCtorEq,false_or]

theorem joined_chain (connective : Connective) (group : Group) (accepted : group.joined connective = .ok whole) :
    whole = group.chain connective := by
  rw [joined_exact] at accepted
  split at accepted
  · exact (Except.ok.inj accepted).symm
  · cases accepted

theorem joined_refused (connective : Connective) (group : Group) : OnlyTooDeep (group.joined connective) := by
  intro fault refused
  rw [joined_exact] at refused
  split at refused
  · cases refused
  · exact (Except.error.inj refused).symm

theorem joined_plain (connective : Connective) (group : Group) :
    group.plain.joined connective = (group.joined connective).map Condition.plain := by
  obtain ⟨first,rest⟩ := group
  induction rest generalizing first with
  | nil => rfl
  | cons next rest ih =>
    have once : join connective first.plain next.plain = (join connective first next).map Condition.plain :=
      limited_plain (.compound (.logical connective) first next)
    rw [plain,List.map_cons,joined_cons,joined_cons,once]
    cases join connective first next with
    | error fault => rfl
    | ok left => exact ih left

theorem chain_holds (connective : Connective) (group : Group) (record : Record) :
    (group.chain connective).holds record = connective.overall (group.parts.map (·.holds record)) := by
  obtain ⟨first,rest⟩ := group
  induction rest generalizing first with
  | nil => exact (connective.overall_single _).symm
  | cons next rest ih =>
    rw [chain_cons,ih]
    exact connective.overall_joined _ _ _

theorem joined_holds (connective : Connective) (group : Group) (accepted : group.joined connective = .ok whole)
    (record : Record) : whole.holds record = connective.overall (group.parts.map (·.holds record)) := by
  rw [group.joined_chain connective accepted]
  exact group.chain_holds connective record

theorem joined_fits (connective : Connective) (group : Group) (all : ∀ part ∈ group.parts, Storable part)
    (accepted : group.joined connective = .ok whole) : Storable whole := by
  apply joined_storable connective group.rest _ _ accepted
  · exact all group.first (List.mem_cons_self ..)
  · intro part member
    exact all part (List.mem_cons_of_mem _ member)

theorem each_fits (connective : Connective) (groups : List Group)
    (all : ∀ group ∈ groups, ∀ part ∈ group.parts, Storable part)
    (accepted : groups.mapM (joined connective) = .ok wholes) : ∀ whole ∈ wholes, Storable whole := by
  intro whole member
  obtain ⟨group,present,joins⟩ := mapM_results accepted whole member
  exact group.joined_fits connective (all group present) joins

theorem each_holds (connective : Connective) (groups : List Group)
    (accepted : groups.mapM (joined connective) = .ok wholes) (record : Record) :
    wholes.map (·.holds record) = groups.map fun group => connective.overall (group.parts.map (·.holds record)) := by
  induction groups generalizing wholes with
  | nil => cases accepted; rfl
  | cons group groups ih =>
    obtain ⟨first,rest,joins,each,rfl⟩ := mapM_ok_cons accepted
    rw [List.map_cons,List.map_cons,ih each,group.joined_holds connective joins record]

end Group

theorem combine_named {connective : Connective} (named : connective.Named operator) (group : Group) :
    combine group.parts operator = (group.joined connective).map some := by
  rw [Group.parts,combine_join,Connective.read_named.mpr named]
  rfl

theorem combine_ok {connective : Connective} (named : connective.Named operator) (group : Group)
    (accepted : combine group.parts operator = .ok (some whole)) : group.joined connective = .ok whole := by
  rw [combine_named named] at accepted
  cases joined : group.joined connective with
  | error fault => rw [joined] at accepted; cases accepted
  | ok tree => rw [joined] at accepted; cases accepted; rfl

-- The operator has to name a connective, and then the depth of the whole is all that can be against it.
theorem combine_exact (operator : String) :
    combine [] operator = .ok none ∧ ∀ first rest,
      ((∀ connective : Connective, ¬connective.Named operator) → combine (first :: rest) operator =
        .error (.unknownOperator .logical (Operator.canonical .logical operator))) ∧
      ∀ connective : Connective, connective.Named operator →
        (combine (first :: rest) operator = .error .tooDeep ↔
          rest ≠ [] ∧ maxDepth < (Group.chain connective ⟨first,rest⟩).depth) ∧
        (rest = [] ∨ (Group.chain connective ⟨first,rest⟩).depth ≤ maxDepth →
          combine (first :: rest) operator = .ok (some (Group.chain connective ⟨first,rest⟩))) ∧
        ∀ whole, combine (first :: rest) operator = .ok (some whole) → ∀ record,
          whole.holds record = connective.overall ((first :: rest).map (·.holds record)) ∧
          ∀ others other, (first :: rest).Perm others → combine others operator = .ok (some other) →
            other.holds record = whole.holds record := by
  refine ⟨rfl,fun first rest => ⟨?_,?_⟩⟩
  · intro unnamed
    rw [combine_join,Connective.read_unnamed unnamed]
    rfl
  intro connective named
  have answer : combine (first :: rest) operator =
      if rest = [] ∨ (Group.chain connective ⟨first,rest⟩).depth ≤ maxDepth
        then .ok (some (Group.chain connective ⟨first,rest⟩)) else .error .tooDeep := by
    refine (combine_named named ⟨first,rest⟩).trans ?_
    rw [Group.joined_exact]
    exact apply_ite (Except.map some) _ _ _
  refine ⟨?_,?_,?_⟩
  · rw [answer,← Nat.not_le,ne_eq,← not_or]
    split
    next fits => simp [fits]
    next deep => simp [deep]
  · intro fits
    rw [answer,if_pos fits]
  · intro whole accepted record
    have verdict := Group.joined_holds connective ⟨first,rest⟩ (combine_ok named ⟨first,rest⟩ accepted) record
    refine ⟨verdict,?_⟩
    intro others other same again
    have nonempty : others ≠ [] := fun empty => nomatch (empty ▸ same.length_eq)
    obtain ⟨front,more,rfl⟩ := List.exists_cons_of_ne_nil nonempty
    rw [Group.joined_holds connective ⟨front,more⟩ (combine_ok named ⟨front,more⟩ again) record,verdict]
    exact connective.overall_perm (same.symm.map _)

-- Three conditions of unlike depth under an operator in mixed case, and the same ones from the back.
theorem three_combine_exact :
    combine [operand (.boolean false)] "xor" = .error (.unknownOperator .logical "XOR") ∧
    ∃ whole, combine [operand (.boolean false),compound (.comparison .equal) (operand (.string "age"))
        (operand (.number Double.zero)),operand (.string "member")] " oR " = .ok (some whole) ∧
      ∀ record other, combine [operand (.string "member"),compound (.comparison .equal) (operand (.string "age"))
        (operand (.number Double.zero)),operand (.boolean false)] " oR " = .ok (some other) →
        other.holds record = whole.holds record := by
  have unnamed : ∀ connective : Connective, ¬connective.Named "xor" := by
    intro connective
    cases connective <;> decide
  have joined := ((combine_exact " oR ").2 (operand (.boolean false)) [compound (.comparison .equal)
    (operand (.string "age")) (operand (.number Double.zero)),operand (.string "member")]).2 .or (by decide)
  have taken := joined.2.1 (.inr (by decide))
  refine ⟨((combine_exact "xor").2 _ _).1 unnamed,_,taken,?_⟩
  intro record other again
  exact (joined.2.2 _ taken record).2 _ other (List.reverse_perm _).symm again

-- The conditions of each group joined by AND, and what comes of the groups joined by OR.
def combineGroups (groups : List (List Condition)) : Except Fault (Option Condition) := do
  let joined ← groups.mapM (combine · "AND")
  combine (joined.filterMap id) "OR"

def joinGroups (first : Group) (rest : List Group) : Except Fault Condition :=
  (first.joined .and).bind fun left => (rest.mapM (Group.joined .and)).bind fun others =>
    Group.joined .or ⟨left,others⟩

theorem combineGroups_join (first : Group) (rest : List Group) :
    combineGroups ((first :: rest).map Group.parts) = (joinGroups first rest).map some := by
  have named (group : Group) : combine group.parts "AND" = (group.joined .and).map some :=
    combine_named (by decide) group
  have each : ((first :: rest).map Group.parts).mapM (combine · "AND") =
      ((first :: rest).mapM (Group.joined .and)).map (List.map some) := by
    rw [List.mapM_map,← mapM_change]
    exact congrArg (fun read => (first :: rest).mapM read) (funext named)
  unfold combineGroups joinGroups
  rw [each,List.mapM_cons]
  cases first.joined .and with
  | error fault => rfl
  | ok left =>
    cases rest.mapM (Group.joined .and) with
    | error fault => rfl
    | ok others =>
      have kept : (some left :: others.map some).filterMap id = Group.parts ⟨left,others⟩ := by
        simp [Group.parts]
      change combine ((some left :: others.map some).filterMap id) "OR" = _
      rw [kept,combine_named (by decide : Connective.or.Named "OR")]
      rfl

theorem joinGroups_refused (first : Group) (rest : List Group) : OnlyTooDeep (joinGroups first rest) := by
  apply (first.joined_refused .and).bind
  intro left
  have each := mapM_refused (Group.joined .and) rest fun group _ => group.joined_refused .and
  exact each.bind fun others => Group.joined_refused .or _

theorem joinGroups_holds (first : Group) (rest : List Group) (accepted : joinGroups first rest = .ok whole)
    (record : Record) :
    whole.holds record = ((first :: rest).map Group.parts).any fun group => group.all (·.holds record) := by
  obtain ⟨left,joins,further⟩ := bind_ok accepted
  obtain ⟨others,each,whole⟩ := bind_ok further
  rw [Group.joined_holds .or _ whole record,Group.parts,List.map_cons,Group.joined_holds .and first joins record,
    Group.each_holds .and rest each record]
  simp only [Connective.overall,List.map_cons,List.any_cons,List.any_map,List.all_map]
  rfl

theorem joinGroups_storable (first : Group) (rest : List Group)
    (all : ∀ group ∈ first :: rest, ∀ part ∈ group.parts, Storable part)
    (accepted : joinGroups first rest = .ok whole) : Storable whole := by
  obtain ⟨left,joins,further⟩ := bind_ok accepted
  obtain ⟨others,each,whole⟩ := bind_ok further
  apply Group.joined_fits .or _ _ whole
  intro part member
  rcases List.mem_cons.mp member with rfl | behind
  · exact first.joined_fits .and (all first (List.mem_cons_self ..)) joins
  · exact Group.each_fits .and rest (fun group present => all group (List.mem_cons_of_mem _ present)) each part behind

end Condition

end Eligibility
