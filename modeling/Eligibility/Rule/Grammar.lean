import Eligibility.Catalog
import Eligibility.Fault

namespace Eligibility

namespace Grammar

open Condition (Measured)

structure Reading (bound : Nat) where
  parsed : Measured
  rest : List Lexeme
  fewer : rest.length < bound

def Reading.widen {bound wider : Nat} (reading : Reading bound) (within : bound ≤ wider) :
    Reading wider := ⟨reading.parsed,reading.rest,Nat.lt_of_lt_of_le reading.fewer within⟩

abbrev Reader := (lexemes : List Lexeme) → Except Fault (Reading lexemes.length)

-- How an operand is read may depend on what stands to its left.
def extend (joint : Token → Option Operator) (operand : Operator → Condition → Reader)
    (left : Measured) : (lexemes : List Lexeme) → Except Fault (Reading (lexemes.length + 1))
  | [] => .ok ⟨left,[],Nat.lt_succ_self _⟩
  | lexeme :: rest =>
    match joint lexeme.token with
    | none => .ok ⟨left,lexeme :: rest,Nat.lt_succ_self _⟩
    | some operator =>
      match operand operator left.condition rest with
      | .error fault => .error fault
      | .ok right =>
        match Measured.join operator left right.parsed with
        | .error fault => .error fault
        | .ok joined =>
          have shorter := right.fewer
          (extend joint operand joined right.rest).map
            (·.widen (by simp only [List.length_cons]; omega))
termination_by lexemes => lexemes.length
decreasing_by simp only [List.length_cons]; omega

def chain (joint : Token → Option Operator) (first : Reader)
    (operand : Operator → Condition → Reader) : Reader := fun lexemes =>
  match first lexemes with
  | .error fault => .error fault
  | .ok left => (extend joint operand left.parsed left.rest).map (·.widen left.fewer)

-- Where a bare word stands. Right of an equality with an attribute it is a value, and unknown
-- words are texts there; anywhere else it has to be an attribute.
inductive Role where
  | subject
  | equalityValue
deriving DecidableEq

def isAttribute (catalog : Catalog) : Condition → Bool
  | .operand (.string name) => catalog.contains name
  | _ => false

def rightRole (catalog : Catalog) (operator : Operator) (left : Condition) : Role :=
  if operator = .comparison .equal ∧ isAttribute catalog left = true then .equalityValue
  else .subject

def connectiveJoint (connective : Connective) : Token → Option Operator
  | .connective found => if found = connective then some (.logical connective) else none
  | _ => none

def comparatorJoint : Token → Option Operator
  | .comparator comparator => some (.comparison comparator)
  | _ => none

def comparison (catalog : Catalog) (primary : Role → Reader) : Reader :=
  chain comparatorJoint (primary .subject) fun operator left =>
    primary (rightRole catalog operator left)

def conjunction (catalog : Catalog) (primary : Role → Reader) : Reader :=
  chain (connectiveJoint .and) (comparison catalog primary) fun _ _ => comparison catalog primary

def disjunction (catalog : Catalog) (primary : Role → Reader) : Reader :=
  chain (connectiveJoint .or) (conjunction catalog primary) fun _ _ => conjunction catalog primary

def single (value : Value) (rest : List Lexeme) : Reading (rest.length + 1) :=
  ⟨(Condition.operand value).measured,rest,Nat.lt_succ_self _⟩

-- One operand, or what stands between parentheses and is read by `inside`.
def primaryOver (catalog : Catalog) (inside : Reader) (role : Role) : Reader
  | [] => .error (.syntactic .unexpectedEnd)
  | lexeme :: rest =>
    match lexeme.token with
    | .number n => .ok (single (.number n) rest)
    | .string text => .ok (single (.string text) rest)
    | .boolean truth => .ok (single (.boolean truth) rest)
    | .word name =>
      if catalog.contains name || role = .equalityValue then .ok (single (.string name) rest)
      else .error (.unknownAttribute name)
    | .openParen =>
      match inside rest with
      | .error fault => .error fault
      | .ok inner =>
        match remaining : inner.rest with
        | ⟨.closeParen,_⟩ :: after =>
          have shorter := inner.fewer
          .ok ⟨inner.parsed,after,by simp only [remaining,List.length_cons] at *; omega⟩
        | _ => .error (.syntactic (.unclosedParen lexeme.offset))
    | _ => .error (.syntactic (.unexpectedToken lexeme))

def primary (catalog : Catalog) : (room : Nat) → Role → Reader
  | 0 => primaryOver catalog fun _ => .error .tooDeep
  | room + 1 => primaryOver catalog (disjunction catalog (primary catalog room))

end Grammar

namespace Condition

def ofLexemes (catalog : Catalog) (lexemes : List Lexeme) : Except Fault Condition :=
  match Grammar.disjunction catalog (Grammar.primary catalog maxDepth) lexemes with
  | .error fault => .error fault
  | .ok reading =>
    match reading.rest with
    | [] => .ok reading.parsed.condition
    | next :: _ => .error (.syntactic (.unexpectedToken next))

def read (catalog : Catalog) (rule : String) : Except Fault Condition :=
  match Text.trim rule.toList with
  | [] => .error (.syntactic .emptyRule)
  | c :: rest =>
    match Lexeme.ofChars 0 (c :: rest) with
    | .error cause => .error (.syntactic cause)
    | .ok lexemes => ofLexemes catalog lexemes

end Condition

end Eligibility
