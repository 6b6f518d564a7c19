import Eligibility.Json
import Eligibility.Json.Number
import Eligibility.Json.Text

namespace Eligibility

namespace Json

structure Taken (α : Type) (bound : Nat) where
  value : α
  rest : List Char
  fewer : rest.length < bound

def Taken.widen {α : Type} {bound wider : Nat} (taken : Taken α bound) (within : bound ≤ wider) :
    Taken α wider := ⟨taken.value,taken.rest,Nat.lt_of_lt_of_le taken.fewer within⟩

def Taken.change {α β : Type} {bound : Nat} (taken : Taken α bound) (change : α → β) :
    Taken β bound := ⟨change taken.value,taken.rest,taken.fewer⟩

abbrev Reader (α : Type) := (text : List Char) → Option (Taken α text.length)

def isSpace (c : Char) : Bool := c == ' ' || c == '\t' || c == '\n' || c == '\r'

def skip (text : List Char) : List Char := text.dropWhile isSpace

theorem skip_length (text : List Char) : (skip text).length ≤ text.length :=
  (List.dropWhile_suffix isSpace).length_le

def places? : List Char → Option (List Char × List Char)
  | '.' :: rest =>
    if (rest.takeWhile Char.isDigit).isEmpty then none
    else some (rest.takeWhile Char.isDigit,rest.dropWhile Char.isDigit)
  | text => some ([],text)

-- No number begins with a needless zero. A number too large for a double reads as infinity.
def unsigned? (negative : Bool) (text : List Char) : Option Double :=
  let whole := text.takeWhile Char.isDigit
  if whole.isEmpty || (whole.head? == some '0' && whole.length != 1) then none
  else
    (places? (text.dropWhile Char.isDigit)).bind fun (fraction,rest) =>
      (Numeral.scale? rest).map fun power =>
        Double.orInfinite negative (magnitudeOf? whole fraction power)

def number? : List Char → Option Double
  | '-' :: rest => unsigned? true rest
  | text => unsigned? false text

def isNumberChar (c : Char) : Bool :=
  c.isDigit || c == '.' || c == 'e' || c == 'E' || c == '+' || c == '-'

def items (inside : Reader Json) (text : List Char) : Option (Taken (List Json) text.length) :=
  match inside text with
  | none => none
  | some first =>
    have shorter := first.fewer
    have skipped := skip_length first.rest
    match reached : skip first.rest with
    | ']' :: rest => some ⟨[first.value],rest,by simp [reached] at skipped; omega⟩
    | ',' :: rest =>
      have : rest.length < text.length := by simp [reached] at skipped; omega
      (items inside rest).map fun more => (more.change (first.value :: ·)).widen (by omega)
    | _ => none
termination_by text.length

-- A name and the colon behind it. None stands for a name that spells no text.
def fieldName? (text : List Char) : Option (Taken (Option String) text.length) :=
  match opened : skip text with
  | '"' :: quoted =>
    match taken : unquote? quoted with
    | none => none
    | some (pieces,after) =>
      match reached : skip after with
      | ':' :: rest => some ⟨(spelled? pieces).map String.ofList,rest,by
          have before := skip_length text
          have within := unquote_shorter quoted (pieces,after) taken
          have behind := skip_length after
          simp only [opened,reached,List.length_cons] at *
          omega⟩
      | _ => none
  | _ => none

def fields (inside : Reader Json) (text : List Char) :
    Option (Taken (List (Option String × Json)) text.length) :=
  match fieldName? text with
  | none => none
  | some name =>
    have named := name.fewer
    match inside name.rest with
    | none => none
    | some first =>
      have shorter := first.fewer
      have skipped := skip_length first.rest
      match reached : skip first.rest with
      | '}' :: rest => some ⟨[(name.value,first.value)],rest,by simp [reached] at skipped; omega⟩
      | ',' :: rest =>
        have : rest.length < text.length := by simp [reached] at skipped; omega
        (fields inside rest).map fun more =>
          (more.change ((name.value,first.value) :: ·)).widen (by omega)
      | _ => none
termination_by text.length

def arrayRest (inside : Reader Json) (text : List Char) : Option (Taken Json (text.length + 1)) :=
  match reached : skip text with
  | ']' :: rest => some ⟨array [],rest,by
      have skipped := skip_length text
      simp only [reached,List.length_cons] at skipped
      omega⟩
  | _ => (items inside text).map fun found => (found.change array).widen (Nat.le_succ _)

-- One name without a text takes the meaning from the whole object.
def ofFields (fields : List (Option String × Json)) : Json :=
  match fields.mapM fun field => field.1.map (·,field.2) with
  | some named => object named
  | none => meaningless

def objectRest (inside : Reader Json) (text : List Char) : Option (Taken Json (text.length + 1)) :=
  match reached : skip text with
  | '}' :: rest => some ⟨object [],rest,by
      have skipped := skip_length text
      simp only [reached,List.length_cons] at skipped
      omega⟩
  | _ => (fields inside text).map fun found => (found.change ofFields).widen (Nat.le_succ _)

def word (json : Json) (letters : List Char) (text : List Char) :
    Option (Taken Json (text.length + 1)) :=
  if letters.isPrefixOf text then
    some ⟨json,text.drop letters.length,by rw [List.length_drop]; omega⟩
  else none

def ofPieces (pieces : List Piece) : Json :=
  match spelled? pieces with
  | some text => string (String.ofList text)
  | none => meaningless

def stringRest (text : List Char) : Option (Taken Json (text.length + 1)) :=
  match taken : unquote? text with
  | none => none
  | some (pieces,rest) => some ⟨ofPieces pieces,rest,by
      have shorter := unquote_shorter text (pieces,rest) taken
      simp only at shorter
      omega⟩

def numberRest (c : Char) (text : List Char) : Option (Taken Json (text.length + 1)) :=
  (number? (c :: text.takeWhile isNumberChar)).map fun n =>
    ⟨number n,text.dropWhile isNumberChar,by
      have left := (List.dropWhile_suffix (l := text) isNumberChar).length_le
      omega⟩

-- Without a reader for what is inside, arrays and objects are refused.
def valueFrom (inside : Option (Reader Json)) (c : Char) (text : List Char) :
    Option (Taken Json (text.length + 1)) :=
  if c = '"' then stringRest text
  else if c = '[' then inside.bind (arrayRest · text)
  else if c = '{' then inside.bind (objectRest · text)
  else if c = 'n' then word null ['u','l','l'] text
  else if c = 't' then word (boolean true) ['r','u','e'] text
  else if c = 'f' then word (boolean false) ['a','l','s','e'] text
  else if c.isDigit || c == '-' then numberRest c text
  else none

def valueOver (inside : Option (Reader Json)) : Reader Json := fun text =>
  match reached : skip text with
  | [] => none
  | c :: rest => (valueFrom inside c rest).map (·.widen (by
      have skipped := skip_length text
      simpa [reached] using skipped))

def value : (nesting : Nat) → Reader Json
  | 0 => valueOver none
  | nesting + 1 => valueOver (some (value nesting))

def readChars? (text : List Char) : Option Json :=
  -- No text nests deeper than it is long.
  match value text.length text with
  | none => none
  | some found => if (skip found.rest).isEmpty then some found.value else none

def read? (text : String) : Option Json := readChars? text.toList

end Json

end Eligibility
