import Eligibility.Condition.Wire
import Eligibility.Catalog
import Eligibility.Value

namespace Eligibility

-- A choice is read by its exact name only.
def exactly? {α : Type} (ofText? : String → Option α) (text : α → String) (json : Json) : Option α :=
  json.choice?.bind fun name => (ofText? name).filter fun found => text found == name

namespace Branch

def toJson (branch : Branch) : Json := .string branch.text

def ofJson? : Json → Option Branch := exactly? ofText? text

end Branch

namespace Connective

def toJson (connective : Connective) : Json := .string connective.text

def ofJson? : Json → Option Connective := exactly? ofText? text

end Connective

namespace Comparator

def toJson (comparator : Comparator) : Json := .string comparator.text

def ofJson? : Json → Option Comparator := exactly? ofText? text

end Comparator

namespace RuleKind

def text : RuleKind → String
  | single => "single"
  | combined => "combined"

def ofText? (text : String) : Option RuleKind :=
  if text = "single" then some single
  else if text = "combined" then some combined
  else none

def toJson (kind : RuleKind) : Json := .string kind.text

def ofJson? : Json → Option RuleKind := exactly? ofText? text

end RuleKind

def textsOf? : Json → Option (List String)
  | .array items => items.mapM Json.text?
  | _ => none

theorem textsOf_strings (texts : List String) : textsOf? (.array (texts.map .string)) = some texts := by
  change (texts.map Json.string).mapM Json.text? = some texts
  induction texts with
  | nil => rfl
  | cons text rest ih => simp [Json.text?,ih]

namespace Path

def toJson (path : Path) : Json := .array (path.map Branch.toJson)

def ofJson? : Json → Option Path
  | .string text => (read text).toOption
  | json => (textsOf? json).bind fun segments => (ofSegments segments).toOption

end Path

namespace Record

def toJson (record : Record) : Json :=
  let names := (NameSet.ofList (record.fields.map (·.1))).names
  .object (names.filterMap fun name => (record.find? name).map fun value => (name,value.toJson))

def ofJson? : Json → Option Record
  | .object fields =>
    (fields.mapM fun (field : String × Json) =>
      (Value.ofJson? field.2).map fun value => (field.1,value)).map ofFields
  | _ => none

end Record

end Eligibility
