import Eligibility.Double.Layout
import Eligibility.Double.Reading

namespace Eligibility

inductive Value where
  | boolean (truth : Bool)
  | number (number : Double)
  | string (text : String)
deriving DecidableEq

namespace Value

def toNumber : Value → Double
  | number n => n
  | boolean truth => if truth then Double.ofNat 1 else Double.zero
  | string text => Double.ofChars text.toList

-- Zero, NaN and the empty text are not true.
def isTruthy : Value → Bool
  | boolean truth => truth
  | number n => match n.rank with
    | some position => position != 0
    | none => false
  | string text => !text.isEmpty

def text? : Value → Option String
  | string text => some text
  | _ => none

def typeName : Value → String
  | boolean _ => "boolean"
  | number _ => "number"
  | string _ => "string"

-- The text of a value, which is also the key that an operand looks up.
def display : Value → String
  | boolean truth => if truth then "true" else "false"
  | number n => String.ofList n.plainChars
  | string text => text

end Value

-- Named values. The first one given for a name counts.
structure Record where
  fields : List (String × Value)

namespace Record

def empty : Record := ⟨[]⟩

def find? (record : Record) (name : String) : Option Value := record.fields.lookup name

-- Of several values for one name the last one counts.
def ofFields (fields : List (String × Value)) : Record := ⟨fields.reverse⟩

end Record

end Eligibility
