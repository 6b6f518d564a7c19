import Eligibility.Proofs.Condition.Combined

namespace Eligibility

namespace Grammar

open Condition (maxDepth Group Storable)

-- What the readers of a phrase answer to some tokens, if no operator goes on with the phrase.
def Answers (catalog : Catalog) (room : Nat) (phrase : Phrase) (taken : List Token)
    (answer : Except Fault Condition) : Prop :=
  ∀ role lexemes rest, tokens lexemes = taken →
    (∀ level, phrase.rank ≤ level.rank → Stops (jointOf level) rest) →
    outcome (readerOf catalog room phrase role (lexemes ++ rest)) = answer.map (·,rest)

def addOperand (operator : Operator) (left : Condition) (right : Except Fault Condition) : Except Fault Condition :=
  right.bind fun operand => (Condition.compound operator left operand).limited

theorem rule_answers (catalog : Catalog) (condition : Condition) (phrase : Phrase)
    (shallow : condition.depth ≤ maxDepth) :
    Answers catalog maxDepth phrase (condition.ruleTokens catalog) (.ok condition.plain) := by
  intro role lexemes rest spelled ends
  rw [rule_read catalog condition phrase role (Nat.zero_add _) shallow (by omega) lexemes rest spelled
      (fun level tighter => ends level (Nat.le_of_lt tighter)),outcome_extend_stop _ _ (ends phrase (Nat.le_refl _))]
  rfl

theorem stops_parts (above : Over phrase operand) (joins : Joins phrase sign operator) (taken : List (List Token))
    (lexemes rest : List Lexeme) (spelled : tokens lexemes = taken.flatMap (sign :: ·))
    (ends : ∀ level, phrase.rank ≤ level.rank → Stops (jointOf level) rest) (level : Phrase)
    (within : operand.rank ≤ level.rank) : Stops (jointOf level) (lexemes ++ rest) := by
  have tighter := rank_over above
  cases taken with
  | nil =>
    cases List.map_eq_nil_iff.mp spelled
    exact ends level (by omega)
  | cons =>
    obtain ⟨lexeme,behind,rfl,rfl,_⟩ := List.map_eq_cons_iff.mp spelled
    exact stops_operator joins level (by omega)

theorem extend_answers (above : Over phrase operand) (joins : Joins phrase sign operator)
    (parts : List.Forall₂ (Answers catalog room operand) taken answers) (left : Condition)
    (lexemes rest : List Lexeme) (spelled : tokens lexemes = taken.flatMap (sign :: ·))
    (ends : ∀ level, phrase.rank ≤ level.rank → Stops (jointOf level) rest) :
    outcome (extend (jointOf phrase) (furtherOf catalog room operand) left.measured (lexemes ++ rest)) =
      (answers.foldlM (addOperand operator) left).map (·,rest) := by
  induction parts generalizing left lexemes with
  | nil =>
    cases List.map_eq_nil_iff.mp spelled
    exact outcome_extend_stop _ left (ends phrase (Nat.le_refl _))
  | @cons part answer taken answers first further ih =>
    obtain ⟨lexeme,behind,rfl,token,spelledBehind⟩ := List.map_eq_cons_iff.mp spelled
    obtain ⟨front,back,rfl,spelledFront,spelledBack⟩ := List.map_eq_append_iff.mp spelledBehind
    have stops := stops_parts above joins taken back rest spelledBack ends
    have found : jointOf phrase lexeme.token = some operator := (jointOf_exact _ _ _).mpr (token ▸ joins)
    rw [List.cons_append,List.append_assoc,outcome_extend_further _ _ found,furtherOf,
      first _ front (back ++ rest) spelledFront stops,List.foldlM_cons]
    cases answer with
    | error fault => rfl
    | ok right =>
      change (Condition.compound operator left right).limited.bind _ =
        ((Condition.compound operator left right).limited.bind _).map _
      cases (Condition.compound operator left right).limited with
      | error fault => rfl
      | ok joined => exact ih joined back spelledBack

theorem intercalate_flatMap (sign : Token) (first : List Token) (taken : List (List Token)) :
    [sign].intercalate (first :: taken) = first ++ taken.flatMap (sign :: ·) := by
  induction taken generalizing first with
  | nil => simp
  | cons next taken ih => simp [List.intercalate_cons_cons,ih]

theorem intercalate_nonempty (sign : Token) (nonempty : first ≠ []) (taken : List (List Token)) :
    [sign].intercalate (first :: taken) ≠ [] := by
  rw [intercalate_flatMap]
  exact List.append_ne_nil_of_left_ne_nil nonempty _

theorem forall₂_maps {related : β → γ → Prop} {one : α → β} {other : α → γ} {items : List α}
    (each : ∀ item ∈ items, related (one item) (other item)) :
    List.Forall₂ related (items.map one) (items.map other) :=
  List.forall₂_map_left_iff.mpr (List.forall₂_map_right_iff.mpr (List.forall₂_same.mpr each))

theorem chain_answers (above : Over phrase operand) (joins : Joins phrase sign operator)
    (start : Answers catalog room operand first answer)
    (parts : List.Forall₂ (Answers catalog room operand) taken answers) :
    Answers catalog room phrase ([sign].intercalate (first :: taken))
      (answer.bind fun left => answers.foldlM (addOperand operator) left) := by
  intro role lexemes rest spelled ends
  rw [intercalate_flatMap] at spelled
  obtain ⟨front,back,rfl,spelledFront,spelledBack⟩ := List.map_eq_append_iff.mp spelled
  have stops := stops_parts above joins taken back rest spelledBack ends
  rw [List.append_assoc,readerOf_chain catalog room role above,outcome_chain,
    start _ front (back ++ rest) spelledFront stops]
  cases answer with
  | error fault => rfl
  | ok left => exact extend_answers above joins parts left back rest spelledBack ends

end Grammar

namespace Token

theorem spaced_intercalate (operator : Spells token sign) (parts : List.Forall₂ Spaced taken texts)
    (filled : ∀ part ∈ taken, part ≠ []) :
    Spaced ([token].intercalate taken) ((' ' :: (sign ++ [' '])).intercalate texts) := by
  induction parts with
  | nil => exact .none
  | @cons part text taken texts first further ih =>
    have behind := ih fun other member => filled other (List.mem_cons_of_mem _ member)
    cases further with
    | nil => simpa using first
    | @cons next _ taken texts _ _ =>
      have nonempty := Grammar.intercalate_nonempty token (filled next (by simp)) taken
      have joined := spaced_join operator first (filled part (List.mem_cons_self ..)) behind nonempty
      simpa [List.intercalate_cons_cons] using joined

end Token

namespace Condition

open Grammar
open Token (Spaced Written)

-- The rule of some groups: their conditions joined by AND, and the groups joined by OR.
def renderGroups (catalog : Catalog) (groups : List (List Condition)) : String :=
  " OR ".intercalate (groups.map fun group => " AND ".intercalate (group.map (render catalog)))

def groupTokens (catalog : Catalog) (group : List Condition) : List Token :=
  [.connective .and].intercalate (group.map (ruleTokens catalog))

def groupsTokens (catalog : Catalog) (groups : List (List Condition)) : List Token :=
  [.connective .or].intercalate (groups.map (groupTokens catalog))

theorem groupTokens_nonempty (catalog : Catalog) (group : Group) : groupTokens catalog group.parts ≠ [] :=
  intercalate_nonempty _ (group.first.ruleTokens_nonempty catalog) _

theorem joined_spaced (found : Connective) (taken : α → List Token) (text : α → String) (parts : List α)
    (filled : ∀ part ∈ parts, taken part ≠ []) (each : ∀ part ∈ parts, Spaced (taken part) (text part).toList) :
    Spaced ([.connective found].intercalate (parts.map taken))
      ((" " ++ found.text ++ " ").intercalate (parts.map text)).toList := by
  have texts : List.Forall₂ Spaced (parts.map taken) ((parts.map text).map String.toList) := by
    rw [List.map_map]
    exact forall₂_maps each
  have nonempty : ∀ one ∈ parts.map taken, one ≠ [] := by
    intro one member
    obtain ⟨part,present,rfl⟩ := List.mem_map.mp member
    exact filled part present
  rw [String.toList_intercalate,String.toList_append,String.toList_append]
  exact Token.spaced_intercalate (Token.operator_spells (.logical found)) texts nonempty

theorem renderGroups_written (readable : catalog.Readable) (groups : List Group)
    (finite : ∀ group ∈ groups, ∀ part ∈ group.parts, part.isFinite = true) :
    Written (groupsTokens catalog (groups.map Group.parts)) (renderGroups catalog (groups.map Group.parts)).toList := by
  have inner (group : Group) (member : group ∈ groups) : Spaced (groupTokens catalog group.parts)
      (" AND ".intercalate (group.parts.map (render catalog))).toList := by
    apply joined_spaced .and
    · exact fun part _ => part.ruleTokens_nonempty catalog
    · intro part present
      rw [render,String.toList_ofList]
      exact part.ruleChars_spaced readable (finite group member part present)
  unfold groupsTokens renderGroups
  rw [List.map_map,List.map_map]
  apply Token.spaced_written
  exact joined_spaced .or _ _ groups (fun group _ => groupTokens_nonempty catalog group) inner

theorem answers_ofLexemes (answers : Answers catalog maxDepth .disjunction (tokens lexemes) answer) :
    ofLexemes catalog lexemes = answer := by
  have whole := answers .subject lexemes [] rfl fun level _ => stops_nil (jointOf level)
  rw [List.append_nil] at whole
  rw [ofLexemes_settled,whole]
  cases answer <;> rfl

-- Where there is but one fault, all operands may be there before they are joined.
theorem operands_awaited (connective : Connective) (answers : List (Except Fault Condition))
    (refused : ∀ answer ∈ answers, OnlyTooDeep answer) (left : Condition) :
    answers.foldlM (addOperand (.logical connective)) left =
      (answers.mapM id).bind fun rest => Group.joined connective ⟨left,rest⟩ := by
  induction answers generalizing left with
  | nil => rfl
  | cons answer answers ih =>
    have behind : ∀ other ∈ answers, OnlyTooDeep other :=
      fun other member => refused other (List.mem_cons_of_mem _ member)
    rw [List.foldlM_cons,List.mapM_cons]
    cases answer with
    | error fault => rfl
    | ok right =>
      change (join connective left right).bind (answers.foldlM (addOperand (.logical connective))) =
        ((answers.mapM id).bind fun rest => .ok (right :: rest)).bind fun rest => Group.joined connective ⟨left,rest⟩
      cases joins : join connective left right with
      | error fault =>
        cases awaited : answers.mapM id with
        | error other =>
          rw [limited_refused _ fault joins,mapM_refused id answers behind other awaited]
          rfl
        | ok rest =>
          have stopped : Group.joined connective ⟨left,right :: rest⟩ = .error fault := by
            rw [Group.joined_cons,joins]
            rfl
          exact stopped.symm
      | ok joined =>
        change answers.foldlM (addOperand (.logical connective)) joined = _
        rw [ih behind joined]
        cases answers.mapM id with
        | error fault => rfl
        | ok rest =>
          have further := Group.joined_cons connective left right rest
          rw [joins] at further
          exact further.symm

theorem group_answers (catalog : Catalog) (group : Group) (shallow : ∀ part ∈ group.parts, part.depth ≤ maxDepth) :
    Answers catalog maxDepth .conjunction (groupTokens catalog group.parts) ((group.joined .and).map plain) := by
  have start := rule_answers catalog group.first .comparison (shallow _ (List.mem_cons_self ..))
  have parts : List.Forall₂ (Answers catalog maxDepth .comparison) (group.rest.map (ruleTokens catalog))
      (group.rest.map fun part => .ok part.plain) := by
    apply forall₂_maps
    intro part member
    exact rule_answers catalog part .comparison (shallow part (List.mem_cons_of_mem _ member))
  have joined : (group.rest.map fun part => .ok part.plain).foldlM (addOperand (.logical .and)) group.first.plain =
      (group.joined .and).map plain := by
    rw [← group.joined_plain,Group.joined,Group.plain,List.foldlM_map,List.foldlM_map]
    rfl
  rw [← joined]
  exact chain_answers .conjunction .and start parts

-- A reader that joins each group as it comes reaches what joining all of them reaches.
theorem groups_awaited (first : Group) (rest : List Group) :
    (((first.joined .and).map plain).bind fun left =>
      (rest.map fun group => (group.joined .and).map plain).foldlM (addOperand (.logical .or)) left) =
      (joinGroups first rest).map plain := by
  have refused : ∀ answer ∈ rest.map fun group => (group.joined .and).map plain, OnlyTooDeep answer := by
    intro answer member
    obtain ⟨group,_,rfl⟩ := List.mem_map.mp member
    exact (group.joined_refused .and).map plain
  have each : (rest.map fun group => (group.joined .and).map plain).mapM id =
      (rest.mapM (Group.joined .and)).map (List.map plain) := by
    rw [List.mapM_map,← mapM_change]
    rfl
  unfold joinGroups
  cases first.joined .and with
  | error fault => rfl
  | ok left =>
    change (rest.map fun group => (group.joined .and).map plain).foldlM (addOperand (.logical .or)) left.plain = _
    rw [operands_awaited .or _ refused,each]
    cases rest.mapM (Group.joined .and) with
    | error fault => rfl
    | ok others => exact Group.joined_plain .or ⟨left,others⟩

theorem groups_answers (catalog : Catalog) (first : Group) (rest : List Group)
    (shallow : ∀ group ∈ first :: rest, ∀ part ∈ group.parts, part.depth ≤ maxDepth) :
    Answers catalog maxDepth .disjunction (groupsTokens catalog ((first :: rest).map Group.parts))
      ((joinGroups first rest).map plain) := by
  have start := group_answers catalog first (shallow first (List.mem_cons_self ..))
  have parts : List.Forall₂ (Answers catalog maxDepth .conjunction)
      ((rest.map Group.parts).map (groupTokens catalog)) (rest.map fun group => (group.joined .and).map plain) := by
    rw [List.map_map]
    apply forall₂_maps
    intro group member
    exact group_answers catalog group (shallow group (List.mem_cons_of_mem _ member))
  rw [← groups_awaited first rest]
  exact chain_answers .disjunction .or start parts

theorem renderGroups_read (readable : catalog.Readable) (first : Group) (rest : List Group)
    (storable : ∀ group ∈ first :: rest, ∀ part ∈ group.parts, Storable part) :
    read catalog (renderGroups catalog ((first :: rest).map Group.parts)) = (joinGroups first rest).map plain := by
  have written := renderGroups_written readable (first :: rest)
    fun group member part present => (storable group member part present).finite
  have answers := groups_answers catalog first rest
    fun group member part present => (storable group member part present).shallow
  have nonempty : groupsTokens catalog ((first :: rest).map Group.parts) ≠ [] :=
    intercalate_nonempty _ (groupTokens_nonempty catalog first) _
  obtain ⟨lexemes,same,reads⟩ := read_written written nonempty
  rw [reads]
  exact answers_ofLexemes (same ▸ answers)

-- Refused just where joining the conditions is.
theorem read_groups (readable : catalog.Readable) (groups : List (List Condition)) (filled : groups ≠ [])
    (nonempty : ∀ group ∈ groups, group ≠ [])
    (storable : ∀ group ∈ groups, ∀ part ∈ group, part.depth ≤ maxDepth ∧ part.isFinite = true) :
    (read catalog (renderGroups catalog groups) = .error .tooDeep ∧ combineGroups groups = .error .tooDeep) ∨
    ∃ whole again, combineGroups groups = .ok (some whole) ∧
      read catalog (renderGroups catalog groups) = .ok again ∧ whole.agrees again = true ∧
      ∀ record, again.holds record = groups.any fun group => group.all (·.holds record) := by
  obtain ⟨found,rfl⟩ := Group.of_lists groups nonempty
  obtain ⟨first,rest,rfl⟩ := List.exists_cons_of_ne_nil fun empty => filled (congrArg (List.map Group.parts) empty)
  have all : ∀ group ∈ first :: rest, ∀ part ∈ group.parts, Storable part := by
    intro group member part present
    obtain ⟨shallow,finite⟩ := storable group.parts (List.mem_map_of_mem member) part present
    exact ⟨shallow,finite⟩
  rw [renderGroups_read readable first rest all,combineGroups_join]
  cases joined : joinGroups first rest with
  | error fault =>
    rw [joinGroups_refused first rest fault joined]
    exact .inl ⟨rfl,rfl⟩
  | ok whole =>
    refine .inr ⟨whole,whole.plain,rfl,rfl,whole.plain_agrees (joinGroups_storable first rest all joined).finite,?_⟩
    intro record
    rw [whole.plain_holds,joinGroups_holds first rest joined]

-- What is between parentheses, by itself in one group, and two conditions in the other.
theorem income_or_member_read_groups :
    ∃ again, read (NameSet.ofList ["income"]) "(income > 0) OR true AND \"member\"" = .ok again ∧
      ∀ record, again.holds record = [[compound (.comparison .greater) (operand (.string "income"))
        (operand (.number Double.zero))],[operand (.boolean true),operand (.string "member")]].any
          fun group => group.all (·.holds record) := by
  have readable : Catalog.Readable (NameSet.ofList ["income"]) := by
    intro name known
    rw [NameSet.contains_ofList,List.mem_singleton] at known
    subst known
    exact ⟨⟨rfl,List.all_eq_true.mp rfl⟩,by decide⟩
  rcases read_groups readable [[compound (.comparison .greater) (operand (.string "income"))
    (operand (.number Double.zero))],[operand (.boolean true),operand (.string "member")]] nofun (by decide) (by decide)
    with ⟨_,deep⟩ | ⟨whole,again,_,reads,_,holds⟩
  · cases deep
  · exact ⟨again,reads,holds⟩

end Condition

end Eligibility
