import Eligibility.Catalog
import Eligibility.Condition

namespace Eligibility

namespace Rule

def escapeChar (c : Char) : List Char :=
  if c = '"' ∨ c = '\\' then ['\\',c]
  else if c = '\n' then ['\\','n']
  else if c = '\t' then ['\\','t']
  else if c = '\r' then ['\\','r']
  else [c]

def quote (text : List Char) : List Char := '"' :: (text.flatMap escapeChar ++ ['"'])

-- Attributes stand bare, other texts in quotes.
def valueChars (catalog : Catalog) : Value → List Char
  | .string text => if catalog.contains text then text.toList else quote text.toList
  | value => value.display.toList

end Rule

namespace Condition

def ruleChars (catalog : Catalog) : Condition → List Char
  | operand value => Rule.valueChars catalog value
  | compound operator left right =>
    '(' :: (left.ruleChars catalog ++ ' ' :: (operator.text.toList ++ ' ' ::
      (right.ruleChars catalog ++ [')'])))

def render (catalog : Catalog) (condition : Condition) : String :=
  String.ofList (condition.ruleChars catalog)

end Condition

end Eligibility
