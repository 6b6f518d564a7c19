import Eligibility.Proofs.Condition.Built
import Eligibility.Proofs.Condition.Stored
import Eligibility.StoredRule

namespace Eligibility

namespace Json

theorem legibleFields_append (fields : List (String × Json)) (first : LegibleFields fields)
    (second : LegibleFields more) : LegibleFields (fields ++ more) := by
  induction fields with
  | nil => exact second
  | cons field rest ih => exact ⟨first.1,ih first.2⟩

end Json

theorem RuleKind.ofJson_toJson (kind : RuleKind) : ofJson? kind.toJson = some kind := by
  cases kind <;> rfl

theorem Connective.ofJson_toJson (connective : Connective) : ofJson? connective.toJson = some connective := by
  cases connective <;> rfl

namespace StoredRule

open Condition (maxDepth Storable)

-- Every number of the condition that has a text is read back from it.
def Legible (rule : StoredRule) : Prop := ∀ condition ∈ rule.condition, condition.Legible

theorem toJson_legible (rule : StoredRule) (legible : rule.Legible) : rule.toJson.Legible := by
  have ast : (conditionJson rule.condition).Legible := by
    cases held : rule.condition with
    | none => trivial
    | some condition => exact condition.toJson_legible (legible condition held)
  have join : Json.LegibleFields (connectiveFields rule.connective) := by
    cases rule.connective with
    | none => trivial
    | some connective => exact ⟨trivial,trivial⟩
  refine Json.legibleFields_append _ (Json.legibleFields_append _ ?_ join) ⟨ast,trivial⟩
  exact ⟨trivial,trivial,Json.legibleItems_strings rule.texts,trivial⟩

-- A rule is read slot by slot; only the condition may be refused.
theorem ofJson_written (rule : StoredRule) :
    ofJson? rule.toJson.written = (conditionOf? (some (conditionJson rule.condition).written)).map
      fun condition => ⟨rule.key,rule.texts,rule.connective,condition⟩ := by
  obtain ⟨⟨kind,name⟩,texts,connective,condition⟩ := rule
  have slots : (toJson ⟨⟨kind,name⟩,texts,connective,condition⟩).written.slots? slotNames slotNames.length =
      some [some (.string name),some kind.toJson,some (.array (texts.map .string)),
        connective.map Connective.toJson,some (conditionJson condition).written] := by
    cases connective <;>
      simp [toJson,connectiveFields,RuleKind.toJson,Connective.toJson,Json.written,Json.writtenFields,
        Json.writtenItems_strings,Json.slots?,Json.slot?,slotNames]
  have join : connectiveOf? (connective.map Connective.toJson) = some connective := by
    cases connective with
    | none => rfl
    | some connective => exact congrArg (Option.map some) connective.ofJson_toJson
  unfold ofJson?
  rw [slots]
  simp only [kind.ofJson_toJson,textsOf_strings,join,Option.bind_some]

theorem conditionOf_written (condition : Condition) :
    conditionOf? (some condition.toJson.written) =
      if 1 + condition.depth ≤ Wire.textLevels then (condition.wire.toCondition 1).toOption.map some
      else none := by
  have tree : Wire.inText? 1 condition.toJson.written =
      if 1 + condition.depth ≤ Wire.textLevels then some condition.wire else none := by
    simp [Wire.inText?,condition.ofJson_wire,Option.filter,condition.wire_levels]
  unfold conditionOf?
  rw [condition.given_written]
  dsimp only
  rw [tree]
  split <;> rfl

theorem conditionOf_storable (stored : Option Condition) (storable : ∀ condition ∈ stored, condition.Storable) :
    conditionOf? (some (conditionJson stored).written) = some stored := by
  cases stored with
  | none => rfl
  | some condition =>
    obtain ⟨shallow,finite⟩ := storable condition rfl
    have limits : 1 + maxDepth ≤ Wire.textLevels := by decide
    change conditionOf? (some condition.toJson.written) = _
    rw [conditionOf_written,if_pos (by omega),condition.wire_reads 1 (by omega) finite]
    rfl

theorem conditionOf_tooDeep (condition : Condition) (finite : condition.isFinite = true)
    (deep : maxDepth < condition.depth) : conditionOf? (some condition.toJson.written) = none := by
  rw [conditionOf_written]
  split
  · rw [condition.wire_tooDeep 1 (by omega) finite]
    rfl
  · rfl

-- A rule with a condition that is too deep has a text that is refused.
theorem ofText_render (rule : StoredRule) (legible : rule.Legible) (text : String)
    (written : text = rule.toJson.render ∨ text = rule.toJson.renderPretty) :
    ((∀ condition ∈ rule.condition, condition.Storable) → ofText? text = some rule) ∧
    ∀ condition ∈ rule.condition, condition.isFinite = true → maxDepth < condition.depth →
      ofText? text = none := by
  have read : ofText? text = (conditionOf? (some (conditionJson rule.condition).written)).map
      fun condition => ⟨rule.key,rule.texts,rule.connective,condition⟩ := by
    have inLayout (layout : Json.Layout) := Json.read_chars layout _ (rule.toJson_legible legible)
    rw [← rule.ofJson_written]
    unfold ofText?
    rcases written with rfl | rfl
    · exact congrArg (Option.bind · ofJson?) (inLayout .compact)
    · exact congrArg (Option.bind · ofJson?) (inLayout .pretty)
  rw [read]
  refine ⟨?_,?_⟩
  · intro storable
    rw [conditionOf_storable rule.condition storable]
    rfl
  · intro condition held finite deep
    rw [held]
    change Option.map _ (conditionOf? (some condition.toJson.written)) = none
    rw [conditionOf_tooDeep condition finite deep]
    rfl

def bonusRule : StoredRule :=
  ⟨⟨.combined,"prime \"26\"\n"⟩,["salary > 0.1","department == 'R&D'"],some .or,
    some (.compound (.logical .or)
      (.compound (.comparison .greater) (.operand (.string "salary")) (.operand (.number (Decimal.toDouble false ⟨1,-1⟩))))
      (.compound (.comparison .equal) (.operand (.string "department")) (.operand (.string "R&D"))))⟩

theorem bonusRule_comes_back : bonusRule.Legible ∧ ofText? bonusRule.toJson.render = some bonusRule := by
  have reads : Json.number? (Json.numberChars (Decimal.toDouble false ⟨1,-1⟩)) =
      some (Decimal.toDouble false ⟨1,-1⟩) := by decide +kernel
  have legible : bonusRule.Legible := by
    intro condition held n member _
    cases held
    have same : n = Decimal.toDouble false ⟨1,-1⟩ := by simpa [Condition.leaves] using member
    rw [same,reads]
  refine ⟨legible,(ofText_render bonusRule legible _ (.inl rfl)).1 ?_⟩
  intro condition held
  cases held
  exact ⟨by decide,by decide +kernel⟩

end StoredRule

end Eligibility
