import Eligibility.Proofs.Condition.Stored

namespace Eligibility

namespace Wire

-- What is wrong with one node at its level. Each fault supposes that none of the earlier ones is there.
inductive Faulty (level : Nat) : Wire → Fault → Prop where
  | tooDeep (deep : Condition.maxDepth < level) : Faulty level (node type text left right value) .tooDeep
  | unknownNode (within : level ≤ Condition.maxDepth) (noOperand : type ≠ "operand")
      (noOperator : ∀ kind : OperatorKind, type ≠ kind.name) :
      Faulty level (node type text left right value) (.unknownNode type)
  | lacksOperator (within : level ≤ Condition.maxDepth) (typed : type = OperatorKind.name kind) :
      Faulty level (node type none left right value) (.wire (.lacks kind .operator))
  | unknownOperator (within : level ≤ Condition.maxDepth) (typed : type = OperatorKind.name kind)
      (unnamed : ∀ operator : Operator, operator.kind = kind → ¬operator.Named text) :
      Faulty level (node type (some text) left right value) (.unknownOperator kind (Operator.canonical kind text))
  | lacksLeft (within : level ≤ Condition.maxDepth) (typed : type = operator.kind.name)
      (named : Operator.Named operator text) :
      Faulty level (node type (some text) absent right value) (.wire (.lacks operator.kind .leftChild))
  | lacksRight (within : level ≤ Condition.maxDepth) (typed : type = operator.kind.name)
      (named : Operator.Named operator text) (hasLeft : left.isAbsent = false) :
      Faulty level (node type (some text) left absent value) (.wire (.lacks operator.kind .rightChild))
  | lacksValue (within : level ≤ Condition.maxDepth) :
      Faulty level (node "operand" text left right none) (.wire .operandLacksValue)

-- The nodes that count, with their levels. What hangs from a node without an operator does not.
def visited (level : Nat) : Wire → List (Nat × Wire)
  | absent => []
  | node type text left right value =>
    (level,node type text left right value) ::
      match kindOf? type with
      | some _ => left.visited (level + 1) ++ right.visited (level + 1)
      | none => []

def Faultless (nodes : List (Nat × Wire)) : Prop := ∀ seen ∈ nodes, ∀ fault, ¬Faulty seen.1 seen.2 fault

inductive FirstFault : List (Nat × Wire) → Fault → Prop where
  | here (faulty : Faulty level wire fault) : FirstFault ((level,wire) :: nodes) fault
  | later (sound : ∀ own, ¬Faulty level wire own) (further : FirstFault nodes fault) :
      FirstFault ((level,wire) :: nodes) fault

-- The condition of the same shape, with the operators that the texts name and the same values.
inductive Holds : Wire → Condition → Prop where
  | operand : Holds (node "operand" text left right (some held)) (.operand held)
  | compound (typed : type = operator.kind.name) (named : Operator.Named operator text)
      (holdsLeft : Holds left leftSide) (holdsRight : Holds right rightSide) :
      Holds (node type (some text) left right value) (.compound operator leftSide rightSide)

-- The tree without the fields that its nodes have no use for.
def bare : Wire → Wire
  | absent => absent
  | node type text left right value =>
    match kindOf? type with
    | some _ => node type text left.bare right.bare none
    | none => node type none absent absent value

section

variable {level : Nat} {wire left right : Wire} {type : String} {text : Option String} {value : Option Value}
  {nodes front rest : List (Nat × Wire)} {fault other : Fault}

theorem kindOf_name : kindOf? type = some kind ↔ type = kind.name := by
  constructor
  · intro found
    unfold kindOf? at found
    split at found
    next logical => cases found; exact logical
    · split at found
      next comparison => cases found; exact comparison
      · cases found
  · rintro rfl
    exact Condition.kind_reads kind

theorem kindOf_unnamed (unnamed : ∀ kind : OperatorKind, type ≠ kind.name) : kindOf? type = none := by
  rw [← Option.not_isSome_iff_eq_none,Option.isSome_iff_exists]
  rintro ⟨kind,found⟩
  exact unnamed kind (kindOf_name.mp found)

theorem operand_noKind (kind : OperatorKind) : "operand" ≠ kind.name := by
  cases kind <;> decide

theorem toCondition_unknown (within : level ≤ Condition.maxDepth) (noOperand : type ≠ "operand")
    (noKind : kindOf? type = none) :
    (node type text left right value).toCondition level = .error (.unknownNode type) := by
  rw [toCondition.eq_def]
  dsimp only
  rw [if_neg (Nat.not_lt.mpr within),noKind]
  exact if_neg noOperand

theorem faulty_refused (faulty : Faulty level wire fault) : wire.toCondition level = .error fault := by
  cases faulty with
  | tooDeep deep => exact toCondition_below deep
  | unknownNode within noOperand noOperator => exact toCondition_unknown within noOperand (kindOf_unnamed noOperator)
  | lacksValue within => exact toCondition_operand within
  | lacksOperator within typed =>
    rw [toCondition.eq_def]
    simp only [Nat.not_lt.mpr within,kindOf_name.mpr typed,↓reduceIte]
  | unknownOperator within typed unnamed =>
    rw [toCondition.eq_def]
    simp only [Nat.not_lt.mpr within,kindOf_name.mpr typed,Operator.read_refused.mpr ⟨unnamed,rfl⟩,↓reduceIte]
  | lacksLeft within typed named =>
    have noLeft : absent.isAbsent = true := rfl
    rw [toCondition.eq_def]
    simp only [Nat.not_lt.mpr within,kindOf_name.mpr typed,Operator.read_named.mpr ⟨rfl,named⟩,noLeft,↓reduceIte]
  | lacksRight within typed named hasLeft =>
    have noRight : absent.isAbsent = true := rfl
    rw [toCondition.eq_def]
    simp only [Nat.not_lt.mpr within,kindOf_name.mpr typed,Operator.read_named.mpr ⟨rfl,named⟩,hasLeft,noRight,
      Bool.false_eq_true,↓reduceIte]

theorem faultless_append (sound : Faultless front) (further : Faultless rest) : Faultless (front ++ rest) := by
  intro seen member
  exact (List.mem_append.mp member).elim (sound seen) (further seen)

theorem first_front (rest : List (Nat × Wire)) (first : FirstFault front fault) : FirstFault (front ++ rest) fault := by
  induction first with
  | here faulty => exact .here faulty
  | later sound _ ih => exact .later sound ih

theorem first_behind (sound : Faultless front) (first : FirstFault rest fault) : FirstFault (front ++ rest) fault := by
  induction front with
  | nil => exact first
  | cons seen front ih =>
    refine .later (sound seen (List.mem_cons_self ..)) (ih ?_)
    exact fun later member => sound later (List.mem_cons_of_mem _ member)

theorem first_faulty (first : FirstFault nodes fault) : ¬Faultless nodes := by
  intro sound
  induction first with
  | here faulty => exact sound _ (List.mem_cons_self ..) _ faulty
  | later _ _ ih => exact ih fun seen member => sound seen (List.mem_cons_of_mem _ member)

theorem first_unique (first : FirstFault nodes fault) (again : FirstFault nodes other) : fault = other := by
  induction first with
  | here faulty =>
    cases again with
    | here same => exact Except.error.inj ((faulty_refused faulty).symm.trans (faulty_refused same))
    | later sound => exact absurd faulty (sound _)
  | later sound _ ih =>
    cases again with
    | here faulty => exact absurd faulty (sound _)
    | later _ further => exact ih further

theorem holds_unique (holds : Holds wire condition) (also : Holds wire same) : condition = same := by
  induction holds generalizing same with
  | operand =>
    cases also with
    | operand => rfl
    | compound typed => exact absurd typed (operand_noKind _)
  | @compound type operator text left leftSide right rightSide value typed named _ _ ihLeft ihRight =>
    cases also with
    | operand => exact absurd typed (operand_noKind _)
    | @compound _ other _ _ _ _ _ _ typedToo namedToo alsoLeft alsoRight =>
      have kinds : kindOf? type = some other.kind := kindOf_name.mpr typedToo
      have reads := Operator.read_named.mpr ⟨rfl,named⟩
      rw [Option.some.inj ((kindOf_name.mpr typed).symm.trans kinds)] at reads
      cases reads.symm.trans (Operator.read_named.mpr ⟨rfl,namedToo⟩)
      rw [ihLeft alsoLeft,ihRight alsoRight]

theorem sound_compound (sound : ∀ fault, ¬Faulty level (node type text left right value) fault)
    (kinds : kindOf? type = some kind) : ∃ operator spelled, text = some spelled ∧ type = operator.kind.name ∧
      Operator.Named operator spelled ∧ Operator.read kind spelled = .ok operator ∧
      left.isAbsent = false ∧ right.isAbsent = false := by
  have within : level ≤ Condition.maxDepth := Nat.le_of_not_lt fun deep => sound _ (.tooDeep deep)
  have typed := kindOf_name.mp kinds
  cases text with
  | none => exact absurd (.lacksOperator within typed) (sound _)
  | some spelled =>
    cases reads : Operator.read kind spelled with
    | error fault => exact absurd (.unknownOperator within typed (Operator.read_refused.mp reads).1) (sound _)
    | ok operator =>
      obtain ⟨rfl,named⟩ := Operator.read_named.mp reads
      have hasLeft : left.isAbsent = false := by
        cases left with
        | absent => exact absurd (.lacksLeft within typed named) (sound _)
        | node => rfl
      cases right with
      | absent => exact absurd (.lacksRight within typed named hasLeft) (sound _)
      | node => exact ⟨operator,spelled,rfl,typed,named,reads,hasLeft,rfl⟩

theorem sound_operand (sound : ∀ fault, ¬Faulty level (node type text left right value) fault)
    (kinds : kindOf? type = none) : type = "operand" ∧ ∃ held, value = some held := by
  have within : level ≤ Condition.maxDepth := Nat.le_of_not_lt fun deep => sound _ (.tooDeep deep)
  by_cases typed : type = "operand"
  · subst typed
    cases value with
    | none => exact absurd (.lacksValue within) (sound _)
    | some held => exact ⟨rfl,held,rfl⟩
  · refine absurd (.unknownNode within typed fun kind same => ?_) (sound _)
    rw [kindOf_name.mpr same] at kinds
    cases kinds

theorem faultless_node (sound : ∀ fault, ¬Faulty level wire fault) (below : Faultless nodes) :
    Faultless ((level,wire) :: nodes) := by
  intro seen member
  rcases List.mem_cons.mp member with rfl | later
  · exact sound
  · exact below seen later

theorem toCondition_visited (wire : Wire) (level : Nat) (there : wire.isAbsent = false) :
    (∃ condition, wire.toCondition level = .ok condition ∧ Holds wire condition ∧ Faultless (wire.visited level)) ∨
    ∃ fault, wire.toCondition level = .error fault ∧ FirstFault (wire.visited level) fault := by
  induction wire generalizing level with
  | absent => cases there
  | node type text left right value ihLeft ihRight =>
    by_cases faulty : ∃ fault, Faulty level (node type text left right value) fault
    · obtain ⟨fault,faulty⟩ := faulty
      exact .inr ⟨fault,faulty_refused faulty,.here faulty⟩
    have sound : ∀ fault, ¬Faulty level (node type text left right value) fault := not_exists.mp faulty
    have within : level ≤ Condition.maxDepth := Nat.le_of_not_lt fun deep => sound _ (.tooDeep deep)
    cases kinds : kindOf? type with
    | none =>
      obtain ⟨rfl,held,rfl⟩ := sound_operand sound kinds
      refine .inl ⟨.operand held,toCondition_operand within,.operand,?_⟩
      rw [visited,kinds]
      exact faultless_node sound nofun
    | some kind =>
      obtain ⟨operator,spelled,rfl,typed,named,reads,hasLeft,hasRight⟩ := sound_compound sound kinds
      rw [toCondition_compound within kinds reads hasLeft hasRight,visited,kinds]
      dsimp only
      obtain ⟨leftSide,readLeft,holdsLeft,soundLeft⟩ | ⟨fault,refused,first⟩ := ihLeft (level + 1) hasLeft
      · obtain ⟨rightSide,readRight,holdsRight,soundRight⟩ | ⟨fault,refused,first⟩ := ihRight (level + 1) hasRight
        · rw [readLeft,readRight]
          exact .inl ⟨_,rfl,.compound typed named holdsLeft holdsRight,
            faultless_node sound (faultless_append soundLeft soundRight)⟩
        · rw [readLeft,refused]
          exact .inr ⟨fault,rfl,.later sound (first_behind soundLeft first)⟩
      · rw [refused]
        exact .inr ⟨fault,rfl,.later sound (first_front _ first)⟩

theorem bare_absent (wire : Wire) : wire.bare.isAbsent = wire.isAbsent := by
  cases wire with
  | absent => rfl
  | node type text left right value =>
    unfold bare
    split <;> rfl

theorem toCondition_bare (wire : Wire) (level : Nat) : wire.bare.toCondition level = wire.toCondition level := by
  induction wire generalizing level with
  | absent => rfl
  | node type text left right value ihLeft ihRight =>
    rw [bare]
    cases kinds : kindOf? type with
    | none => simp only [toCondition,kinds]
    | some kind => simp only [toCondition,kinds,bare_absent,ihLeft,ihRight]

end

-- Just the nodes that count decide, and the first faulty one of them is answered.
theorem toCondition_first_fault (wire : Wire) (there : wire.isAbsent = false) :
    (∀ condition, wire.toCondition 1 = .ok condition ↔ Faultless (wire.visited 1) ∧ Holds wire condition) ∧
    ((∃ condition, wire.toCondition 1 = .ok condition) ↔ Faultless (wire.visited 1)) ∧
    (∀ fault, wire.toCondition 1 = .error fault ↔ FirstFault (wire.visited 1) fault) ∧
    ∀ other : Wire, other.bare = wire.bare → other.toCondition 1 = wire.toCondition 1 := by
  have same (other : Wire) (alike : other.bare = wire.bare) : other.toCondition 1 = wire.toCondition 1 := by
    rw [← toCondition_bare other,alike,toCondition_bare]
  obtain ⟨condition,reads,holds,sound⟩ | ⟨fault,refused,first⟩ := toCondition_visited wire 1 there
  · refine ⟨fun other => ?_,⟨fun _ => sound,fun _ => ⟨condition,reads⟩⟩,fun fault => ?_,same⟩
    · rw [reads]
      constructor
      · rintro ⟨⟩
        exact ⟨sound,holds⟩
      · rintro ⟨_,also⟩
        rw [holds_unique holds also]
    · rw [reads]
      exact ⟨nofun,fun first => absurd sound (first_faulty first)⟩
  · refine ⟨fun other => ?_,?_,fun other => ?_,same⟩
    · rw [refused]
      exact ⟨nofun,fun both => absurd both.1 (first_faulty first)⟩
    · rw [refused]
      exact ⟨nofun,fun sound => absurd sound (first_faulty first)⟩
    · rw [refused]
      constructor
      · rintro ⟨⟩
        exact first
      · intro also
        rw [first_unique first also]

-- A value that is missing on the left counts before an unknown type on the right, and a value of the root not at all.
theorem lacking_left_first_fault :
    ∃ wire other : Wire, wire = node "logical" (some " And ") (node "operand" none absent absent none)
        (node "group" none absent absent none) (some (.boolean true)) ∧
      other = node "logical" (some " And ") (node "operand" (some "+") absent absent none)
        (node "group" none absent absent none) none ∧
      wire.isAbsent = false ∧ FirstFault (wire.visited 1) (.wire .operandLacksValue) ∧
      ¬Faultless (wire.visited 1) ∧ other.toCondition 1 = wire.toCondition 1 := by
  obtain ⟨_,sound,first,extra⟩ := toCondition_first_fault (node "logical" (some " And ")
    (node "operand" none absent absent none) (node "group" none absent absent none) (some (.boolean true))) rfl
  refine ⟨_,_,rfl,rfl,rfl,(first _).mp rfl,?_,extra _ rfl⟩
  intro all
  obtain ⟨_,reads⟩ := sound.mpr all
  cases reads

end Wire

end Eligibility
