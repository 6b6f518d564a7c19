import Eligibility.Proofs.Condition.Parts
import Eligibility.Proofs.Condition.Wire
import Eligibility.Proofs.Json.RoundTrip
import Eligibility.Proofs.Operator.Named

namespace Eligibility

namespace Wire

theorem ofJson_slots {json : Json} {type operator left right value : Option Json}
    (slots : json.slots? slotNames 1 = some [type,operator,left,right,value]) :
    ofJson? json = ofSlots? type operator (childOf? left) (childOf? right) value := by
  unfold childOf?
  rw [ofJson?]
  split
  next found =>
    cases slots.symm.trans found
    dsimp only
    split <;> split <;> simp_all
  next other => exact absurd slots (other _ _ _ _ _)

theorem toCondition_below (below : Condition.maxDepth < level) :
    (node type text left right value).toCondition level = .error .tooDeep := if_pos below

theorem toCondition_operand (within : level ≤ Condition.maxDepth) :
    (node "operand" text left right value).toCondition level =
      value.elim (.error (.wire .operandLacksValue)) fun held => .ok (.operand held) := by
  have noKind : kindOf? "operand" = none := rfl
  rw [toCondition.eq_def]
  dsimp only
  rw [if_neg (Nat.not_lt.mpr within),noKind]
  cases value <;> rfl

theorem toCondition_compound (within : level ≤ Condition.maxDepth) (named : kindOf? type = some kind)
    (reads : Operator.read kind text = .ok operator) (hasLeft : left.isAbsent = false)
    (hasRight : right.isAbsent = false) :
    (node type (some text) left right value).toCondition level =
      (left.toCondition (level + 1)).bind fun leftSide =>
        (right.toCondition (level + 1)).bind fun rightSide => .ok (.compound operator leftSide rightSide) := by
  rw [toCondition.eq_def]
  dsimp only
  rw [if_neg (Nat.not_lt.mpr within),named]
  simp only [reads,hasLeft,hasRight,Bool.false_eq_true,↓reduceIte]
  cases left.toCondition (level + 1) with
  | error fault => rfl
  | ok leftSide => cases right.toCondition (level + 1) <;> rfl

end Wire

namespace Condition

-- NaN and the infinities have no text in a document.
def storedValue : Value → Option Value
  | .number n => if n.isFinite then some (.number n) else none
  | value => some value

def wire : Condition → Wire
  | operand value => .node "operand" none .absent .absent (storedValue value)
  | compound operator left right =>
    .node operator.kind.name (some operator.text) left.wire right.wire none

theorem wire_levels (condition : Condition) : condition.wire.levels = condition.depth := by
  induction condition with
  | operand => rfl
  | compound operator left right ihLeft ihRight => simp only [wire,Wire.levels,depth,ihLeft,ihRight]

theorem storedValue_slot (value : Value) :
    Value.ofSlot? (some value.toJson.written) = some (storedValue value) := by
  cases value with
  | boolean | string => rfl
  | number n => cases n <;> rfl

theorem given_written (condition : Condition) :
    Json.given (some condition.toJson.written) = some condition.toJson.written := by
  cases condition <;> rfl

theorem ofJson_wire (condition : Condition) : Wire.ofJson? condition.toJson.written = some condition.wire := by
  induction condition with
  | operand value =>
    have slots : (operand value).toJson.written.slots? Wire.slotNames 1 =
        some [some (.string "operand"),none,none,none,some value.toJson.written] := by
      simp [toJson,Json.written,Json.writtenFields,Json.slots?,Json.slot?,Wire.slotNames]
    rw [Wire.ofJson_slots slots]
    simp [Wire.ofSlots?,Wire.childOf?,Json.given,Json.optionalText?,storedValue_slot,wire]
  | compound operator left right ihLeft ihRight =>
    have slots : (compound operator left right).toJson.written.slots? Wire.slotNames 1 =
        some [some (.string operator.kind.name),some (.string operator.text),some left.toJson.written,
          some right.toJson.written,none] := by
      simp [toJson,Json.written,Json.writtenFields,Json.slots?,Json.slot?,Wire.slotNames]
    rw [Wire.ofJson_slots slots]
    simp only [Wire.ofSlots?,Wire.childOf?,given_written,ihLeft,ihRight,wire]
    rfl

theorem kind_reads (kind : OperatorKind) : Wire.kindOf? kind.name = some kind := by
  cases kind <;> rfl

theorem wire_present (condition : Condition) : condition.wire.isAbsent = false := by
  cases condition <;> rfl

theorem wire_compound (operator : Operator) (left right : Condition) (within : level ≤ maxDepth) :
    (compound operator left right).wire.toCondition level =
      (left.wire.toCondition (level + 1)).bind fun leftSide =>
        (right.wire.toCondition (level + 1)).bind fun rightSide => .ok (compound operator leftSide rightSide) :=
  Wire.toCondition_compound within (kind_reads operator.kind) operator.read_text left.wire_present right.wire_present

theorem wire_below (condition : Condition) (below : maxDepth < level) :
    condition.wire.toCondition level = .error .tooDeep := by
  cases condition <;> exact Wire.toCondition_below below

theorem storedValue_finite (finite : (operand value).isFinite = true) : storedValue value = some value := by
  cases value with
  | number n => exact if_pos finite
  | boolean | string => rfl

theorem storedValue_none (infinite : (operand value).isFinite = false) : storedValue value = none := by
  cases value with
  | number n => exact if_neg (by rw [← Bool.not_eq_false]; exact not_not_intro infinite)
  | boolean | string => cases infinite

theorem levels_within {limit : Nat} (shallow : level + (compound operator left right).depth ≤ limit + 1) :
    level ≤ limit ∧ level + 1 + left.depth ≤ limit + 1 ∧ level + 1 + right.depth ≤ limit + 1 := by
  unfold depth at shallow
  omega

theorem wire_reads (condition : Condition) (level : Nat) (shallow : level + condition.depth ≤ maxDepth + 1)
    (finite : condition.isFinite = true) : condition.wire.toCondition level = .ok condition := by
  induction condition generalizing level with
  | operand value =>
    rw [wire,Wire.toCondition_operand (Nat.le_of_succ_le_succ shallow),storedValue_finite finite]
    rfl
  | compound operator left right ihLeft ihRight =>
    obtain ⟨finiteLeft,finiteRight⟩ := (Bool.and_eq_true _ _).mp finite
    obtain ⟨within,inLeft,inRight⟩ := levels_within shallow
    rw [wire_compound operator left right within,ihLeft _ inLeft finiteLeft,ihRight _ inRight finiteRight]
    rfl

theorem wire_lacks (condition : Condition) (level : Nat) (shallow : level + condition.depth ≤ maxDepth + 1)
    (infinite : condition.isFinite = false) :
    condition.wire.toCondition level = .error (.wire .operandLacksValue) := by
  induction condition generalizing level with
  | operand value =>
    rw [wire,Wire.toCondition_operand (Nat.le_of_succ_le_succ shallow),storedValue_none infinite]
    rfl
  | compound operator left right ihLeft ihRight =>
    obtain ⟨within,inLeft,inRight⟩ := levels_within shallow
    rw [wire_compound operator left right within]
    cases finiteLeft : left.isFinite with
    | false =>
      rw [ihLeft _ inLeft finiteLeft]
      rfl
    | true =>
      have infiniteRight : right.isFinite = false := by simpa [isFinite,finiteLeft] using infinite
      rw [wire_reads left _ inLeft finiteLeft,ihRight _ inRight infiniteRight]
      rfl

-- A node comes before its sides, and the left side before the right one.
theorem wire_tooDeep (condition : Condition) (level : Nat) (deep : maxDepth + 1 < level + condition.depth)
    (finite : condition.isFinite = true) : condition.wire.toCondition level = .error .tooDeep := by
  induction condition generalizing level with
  | operand value => exact wire_below _ (Nat.lt_of_succ_lt_succ deep)
  | compound operator left right ihLeft ihRight =>
    obtain ⟨finiteLeft,finiteRight⟩ := (Bool.and_eq_true _ _).mp finite
    by_cases below : maxDepth < level
    · exact wire_below _ below
    · rw [wire_compound operator left right (Nat.le_of_not_lt below)]
      by_cases deepLeft : maxDepth + 1 < level + 1 + left.depth
      · rw [ihLeft _ deepLeft finiteLeft]
        rfl
      · have deepRight : maxDepth + 1 < level + 1 + right.depth := by
          unfold depth at deep
          omega
        rw [wire_reads left _ (Nat.le_of_not_lt deepLeft) finiteLeft,ihRight _ deepRight finiteRight]
        rfl

-- Every number of the condition that has a text is read back from it.
def Legible (condition : Condition) : Prop :=
  ∀ n, Value.number n ∈ condition.leaves → n.isFinite = true → Json.number? (Json.numberChars n) = some n

theorem toJson_legible (condition : Condition) (legible : condition.Legible) : condition.toJson.Legible := by
  induction condition with
  | operand value =>
    refine ⟨trivial,?_,trivial⟩
    cases value with
    | number n => exact legible n (List.mem_singleton_self _)
    | boolean | string => trivial
  | compound operator left right ihLeft ihRight =>
    have inLeft : left.Legible := fun n member => legible n (List.mem_append_left _ member)
    have inRight : right.Legible := fun n member => legible n (List.mem_append_right _ member)
    exact ⟨trivial,trivial,ihLeft inLeft,ihRight inRight,trivial⟩

-- The text is read as a tree first, which may nest deeper than a condition.
theorem ofText_written (layout : Json.Layout) (condition : Condition) (legible : condition.Legible) :
    ofText (String.ofList (condition.toJson.chars layout 0)) =
      if condition.depth ≤ Wire.textLevels then condition.wire.toCondition 1 else .error (.wire .notJson) := by
  have tree : (Json.read? (String.ofList (condition.toJson.chars layout 0))).bind (Wire.inText? 0) =
      if condition.depth ≤ Wire.textLevels then some condition.wire else none := by
    rw [Json.read_chars layout _ (condition.toJson_legible legible),Option.bind_some,Wire.inText?,
      condition.ofJson_wire]
    simp [Option.filter,condition.wire_levels]
  unfold ofText
  rw [tree]
  split <;> rfl

-- Three things refuse a text: too many levels for a condition, too many for a document, or a number that no
-- document holds.
theorem ofText_toJson (condition : Condition) (legible : condition.Legible) (text : String)
    (written : text = condition.toJson.render ∨ text = condition.toJson.renderPretty) :
    (condition.isFinite = true →
      (condition.depth ≤ maxDepth → ofText text = .ok condition) ∧
      (maxDepth < condition.depth → condition.depth ≤ Wire.textLevels → ofText text = .error .tooDeep) ∧
      (Wire.textLevels < condition.depth → ofText text = .error (.wire .notJson))) ∧
    (condition.depth ≤ maxDepth → condition.isFinite = false →
      ofText text = .error (.wire .operandLacksValue)) := by
  have outcome : ofText text =
      if condition.depth ≤ Wire.textLevels then condition.wire.toCondition 1 else .error (.wire .notJson) := by
    rcases written with rfl | rfl
    · exact ofText_written .compact condition legible
    · exact ofText_written .pretty condition legible
  have limits : maxDepth < Wire.textLevels := by decide
  rw [outcome]
  refine ⟨fun finite => ⟨?_,?_,?_⟩,?_⟩
  · intro shallow
    rw [if_pos (by omega)]
    exact condition.wire_reads 1 (by omega) finite
  · intro deep within
    rw [if_pos within]
    exact condition.wire_tooDeep 1 (by omega) finite
  · intro beyond
    rw [if_neg (by omega)]
  · intro shallow infinite
    rw [if_pos (by omega)]
    exact condition.wire_lacks 1 (by omega) infinite

def overTenth : Condition :=
  compound (.comparison .greater) (operand (.string "salary")) (operand (.number (Decimal.toDouble false ⟨1,-1⟩)))

theorem overTenth_comes_back :
    overTenth.Legible ∧ ofText overTenth.toJson.render = .ok overTenth ∧
      ofText overTenth.toJson.renderPretty = .ok overTenth := by
  have reads : Json.number? (Json.numberChars (Decimal.toDouble false ⟨1,-1⟩)) =
      some (Decimal.toDouble false ⟨1,-1⟩) := by decide +kernel
  have finite : overTenth.isFinite = true := by decide +kernel
  have shallow : overTenth.depth ≤ maxDepth := by decide
  have legible : overTenth.Legible := by
    intro n member _
    have same : n = Decimal.toDouble false ⟨1,-1⟩ := by simpa [overTenth,leaves] using member
    rw [same,reads]
  exact ⟨legible,((ofText_toJson overTenth legible _ (.inl rfl)).1 finite).1 shallow,
    ((ofText_toJson overTenth legible _ (.inr rfl)).1 finite).1 shallow⟩

end Condition

end Eligibility
