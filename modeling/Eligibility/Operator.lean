import Eligibility.Text

namespace Eligibility

inductive Connective where
  | and
  | or
deriving DecidableEq

inductive Comparator where
  | greater
  | greaterEqual
  | less
  | lessEqual
  | equal
deriving DecidableEq

inductive OperatorKind where
  | logical
  | comparison
deriving DecidableEq

inductive Operator where
  | logical (connective : Connective)
  | comparison (comparator : Comparator)
deriving DecidableEq

def OperatorKind.name : OperatorKind → String
  | logical => "logical"
  | comparison => "comparison"

namespace Connective

def text : Connective → String
  | and => "AND"
  | or => "OR"

def apply : Connective → Bool → Bool → Bool
  | and, left, right => left && right
  | or, left, right => left || right

def ofText? (text : String) : Option Connective :=
  if text = "AND" then some and
  else if text = "OR" then some or
  else none

end Connective

namespace Comparator

def text : Comparator → String
  | greater => ">"
  | greaterEqual => ">="
  | less => "<"
  | lessEqual => "<="
  | equal => "=="

def ofText? (text : String) : Option Comparator :=
  if text = ">" then some greater
  else if text = ">=" then some greaterEqual
  else if text = "<" then some less
  else if text = "<=" then some lessEqual
  else if text = "==" ∨ text = "=" then some equal
  else none

end Comparator

namespace Operator

def kind : Operator → OperatorKind
  | logical _ => .logical
  | comparison _ => .comparison

def text : Operator → String
  | logical connective => connective.text
  | comparison comparator => comparator.text

-- Blanks around an operator do not count, nor does the case of the letters of a connective.
def canonical (kind : OperatorKind) (text : String) : String :=
  match kind with
  | .logical => String.ofList ((Text.trim text.toList).map Char.toUpper)
  | .comparison => trimmed text

end Operator

end Eligibility
