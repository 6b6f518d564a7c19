import Eligibility.Json.Forms
import Eligibility.Verdict

namespace Eligibility

structure StoredRule where
  key : RuleKey
  texts : List String
  connective : Option Connective
  -- None for a rule made from no texts.
  condition : Option Condition
deriving DecidableEq

namespace StoredRule

def verdict (rule : StoredRule) (record : Record) : Bool := Eligibility.verdict rule.condition record

def connectiveFields : Option Connective → List (String × Json)
  | none => []
  | some connective => [("operator",connective.toJson)]

def conditionJson : Option Condition → Json
  | none => .null
  | some condition => condition.toJson

def toJson (rule : StoredRule) : Json :=
  .object ([("name",.string rule.key.name),("kind",rule.key.kind.toJson),
    ("rule_strings",.array (rule.texts.map .string))] ++ connectiveFields rule.connective ++
    [("ast",conditionJson rule.condition)])

def slotNames : List String := ["name","kind","rule_strings","operator","ast"]

def connectiveOf? (slot : Option Json) : Option (Option Connective) :=
  match Json.given slot with
  | none => some none
  | some json => (Connective.ofJson? json).map some

def conditionOf? (slot : Option Json) : Option (Option Condition) :=
  match Json.given slot with
  | none => some none
  | some json => (Condition.ofWire (Wire.inText? 1 json)).toOption.map some

-- As an array a rule has all its parts; as an object it may lack the last two.
def ofJson? (json : Json) : Option StoredRule :=
  match json.slots? slotNames slotNames.length with
  | some [some (.string name),some kind,some texts,connective,condition] =>
    (RuleKind.ofJson? kind).bind fun kind => (textsOf? texts).bind fun texts =>
      (connectiveOf? connective).bind fun connective =>
        (conditionOf? condition).map fun condition => ⟨⟨kind,name⟩,texts,connective,condition⟩
  | _ => none

def ofText? (text : String) : Option StoredRule := (Json.read? text).bind ofJson?

end StoredRule

end Eligibility
