import Eligibility.Operator
import Eligibility.Text.Alphanumeric
import Eligibility.Text.Shown
import Eligibility.Value

namespace Eligibility

inductive Token where
  | number (number : Double)
  | string (text : String)
  | boolean (truth : Bool)
  | word (name : String)
  | connective (connective : Connective)
  | comparator (comparator : Comparator)
  | openParen
  | closeParen
deriving DecidableEq

-- A token and the byte at which it begins, counted in the trimmed rule.
structure Lexeme where
  token : Token
  offset : Nat
deriving DecidableEq

def Token.describe : Token → String
  | number n => "number " ++ (Value.number n).display
  | string text => "string " ++ String.ofList (Text.shown text.toList)
  | boolean truth => "boolean " ++ (Value.boolean truth).display
  | word name => "identifier '" ++ name ++ "'"
  | connective c => c.text
  | comparator c => "operator '" ++ c.text ++ "'"
  | openParen => "'('"
  | closeParen => "')'"

-- A text that is no rule. Offsets count bytes of the trimmed text.
inductive SyntaxFault where
  | emptyRule
  | unexpectedEnd
  | unexpectedToken (lexeme : Lexeme)
  | unclosedParen (offset : Nat)
  | unexpectedCharacter (character : Char) (offset : Nat)
  | invalidEscape (character : Char) (offset : Nat)
  | unterminatedString (offset : Nat)
  | invalidNumber (text : String) (offset : Nat)
deriving DecidableEq

def SyntaxFault.message : SyntaxFault → String
  | emptyRule => "Empty rule string"
  | unexpectedEnd => "Unexpected end of rule string"
  | unexpectedToken lexeme => "Unexpected " ++ lexeme.token.describe ++ place lexeme.offset
  | unclosedParen offset => "Unclosed '('" ++ place offset
  | unexpectedCharacter c offset => "Unexpected character '" ++ c.toString ++ "'" ++ place offset
  | invalidEscape c offset => "Invalid escape sequence \\" ++ c.toString ++ place offset
  | unterminatedString offset => "Unterminated string starting" ++ place offset
  | invalidNumber text offset => "Invalid number '" ++ text ++ "'" ++ place offset
where
  place (offset : Nat) : String := " at character " ++ offset.repr

namespace Token

structure Scan where
  token : Token
  stop : Nat
  rest : List Char

def isWordStart (c : Char) : Bool := Text.isAlphabetic c || c == '_'

def isWordPart (c : Char) : Bool := Text.isAlphabetic c || Text.isNumeric c || c == '_'

-- Four words are reserved, in any case of their letters.
def ofWord (word : List Char) : Token :=
  let folded := String.ofList (word.map Char.toLower)
  if folded = "and" then connective .and
  else if folded = "or" then connective .or
  else if folded = "true" then boolean true
  else if folded = "false" then boolean false
  else Token.word (String.ofList word)

def unescape? (mark : Char) : Option Char :=
  if mark = 'n' then some '\n'
  else if mark = 't' then some '\t'
  else if mark = 'r' then some '\r'
  else if mark = '\\' ∨ mark = '"' ∨ mark = '\'' then some mark
  else none

structure Quoted where
  content : List Char
  stop : Nat
  rest : List Char

def Quoted.push (c : Char) (quoted : Quoted) : Quoted :=
  {quoted with content := c :: quoted.content}

-- The text up to the closing quote; `start` is the byte of the opening one.
def quoted (quote : Char) (start : Nat) : (position : Nat) → List Char → Except SyntaxFault Quoted
  | _, [] => .error (.unterminatedString start)
  | position, c :: rest =>
    if c = quote then .ok ⟨[],position + 1,rest⟩
    else if c = '\\' then
      match rest with
      | [] => .error (.unterminatedString start)
      | mark :: more =>
        match unescape? mark with
        | none => .error (.invalidEscape mark (position + 1))
        | some meant => (quoted quote start (position + 2) more).map (Quoted.push meant)
    else (quoted quote start (position + c.utf8Size) rest).map (Quoted.push c)

def isExponentMark (c : Char) : Bool := c == 'e' || c == 'E'

-- A number reaches as far as digits, points and exponent marks do; a sign belongs to it only
-- right behind such a mark.
def numeral : (afterMark : Bool) → List Char → List Char × List Char
  | _, [] => ([],[])
  | afterMark, c :: rest =>
    if c.isDigit || c == '.' || isExponentMark c || (afterMark && (c == '+' || c == '-')) then
      let (more,after) := numeral (isExponentMark c) rest
      (c :: more,after)
    else ([],c :: rest)

def scanNumber (offset : Nat) (text : List Char) (rest : List Char) : Except SyntaxFault Scan :=
  match (Numeral.read? text).map Numeral.toDouble with
  | some (.finite negative m) => .ok ⟨number (.finite negative m),offset + text.length,rest⟩
  | _ => .error (.invalidNumber (String.ofList text) offset)

def scanComparator (offset : Nat) (bare withEqual : Comparator) : List Char → Scan
  | '=' :: rest => ⟨comparator withEqual,offset + 2,rest⟩
  | rest => ⟨comparator bare,offset + 1,rest⟩

def scan (offset : Nat) (c : Char) (rest : List Char) : Except SyntaxFault Scan :=
  if c = '(' then .ok ⟨openParen,offset + 1,rest⟩
  else if c = ')' then .ok ⟨closeParen,offset + 1,rest⟩
  else if c = '>' then .ok (scanComparator offset .greater .greaterEqual rest)
  else if c = '<' then .ok (scanComparator offset .less .lessEqual rest)
  else if c = '=' then .ok (scanComparator offset .equal .equal rest)
  else if c = '"' ∨ c = '\'' then
    (quoted c offset (offset + 1) rest).map fun found =>
      ⟨string (String.ofList found.content),found.stop,found.rest⟩
  else if c.isDigit || c == '.' || c == '-' then
    let (more,after) := numeral false rest
    scanNumber offset (c :: more) after
  else if isWordStart c then
    let word := c :: rest.takeWhile isWordPart
    .ok ⟨ofWord word,offset + Text.bytes word,rest.dropWhile isWordPart⟩
  else .error (.unexpectedCharacter c offset)

theorem map_ok (outcome : Except SyntaxFault α) (change : α → β) (result : β)
    (accepted : outcome.map change = .ok result) : ∃ inner, outcome = .ok inner ∧ change inner = result := by
  cases outcome with
  | error fault => cases accepted
  | ok inner => exact ⟨inner,rfl,Except.ok.inj accepted⟩

theorem quoted_suffix (quote : Char) (start position : Nat) (text : List Char) (result : Quoted)
    (accepted : quoted quote start position text = .ok result) : result.rest <:+ text := by
  fun_induction quoted quote start position text generalizing result with
  | case1 => cases accepted
  | case2 => cases accepted; exact List.suffix_cons _ _
  | case3 => cases accepted
  | case4 => cases accepted
  | case5 _ _ _ _ _ _ ih =>
    obtain ⟨inner,found,rfl⟩ := map_ok _ _ _ accepted
    exact (ih inner found).trans ((List.suffix_cons _ _).trans (List.suffix_cons _ _))
  | case6 _ _ _ _ _ ih =>
    obtain ⟨inner,found,rfl⟩ := map_ok _ _ _ accepted
    exact (ih inner found).trans (List.suffix_cons _ _)

theorem numeral_parts (afterMark : Bool) (text : List Char) :
    (numeral afterMark text).1 ++ (numeral afterMark text).2 = text := by
  fun_induction numeral afterMark text with
  | case1 => rfl
  | case2 afterMark c rest _ more after found ih => simp_all
  | case3 => rfl

theorem scanComparator_suffix (offset : Nat) (bare withEqual : Comparator) (text : List Char) :
    (scanComparator offset bare withEqual text).rest <:+ text := by
  unfold scanComparator
  split
  · exact List.suffix_cons _ _
  · exact List.suffix_refl _

theorem scanNumber_rest (offset : Nat) (text rest : List Char) (result : Scan)
    (accepted : scanNumber offset text rest = .ok result) : result.rest = rest := by
  unfold scanNumber at accepted
  split at accepted
  · cases accepted; rfl
  · cases accepted

theorem scan_suffix (offset : Nat) (c : Char) (rest : List Char) (result : Scan)
    (accepted : scan offset c rest = .ok result) : result.rest <:+ rest := by
  unfold scan at accepted
  split at accepted
  · cases accepted; exact List.suffix_refl _
  split at accepted
  · cases accepted; exact List.suffix_refl _
  split at accepted
  · cases accepted; exact scanComparator_suffix _ _ _ _
  split at accepted
  · cases accepted; exact scanComparator_suffix _ _ _ _
  split at accepted
  · cases accepted; exact scanComparator_suffix _ _ _ _
  split at accepted
  · obtain ⟨inner,found,rfl⟩ := map_ok _ _ _ accepted
    exact quoted_suffix _ _ _ _ _ found
  split at accepted
  · rw [scanNumber_rest _ _ _ _ accepted]
    exact ⟨_,numeral_parts false rest⟩
  split at accepted
  · cases accepted; exact List.dropWhile_suffix _
  · cases accepted

end Token

namespace Lexeme

def ofChars (offset : Nat) : List Char → Except SyntaxFault (List Lexeme)
  | [] => .ok []
  | c :: rest =>
    if Text.isBlank c then ofChars (offset + c.utf8Size) rest
    else
      match accepted : Token.scan offset c rest with
      | .error fault => .error fault
      | .ok scan =>
        have := (Token.scan_suffix offset c rest scan accepted).length_le
        match ofChars scan.stop scan.rest with
        | .error fault => .error fault
        | .ok more => .ok (⟨scan.token,offset⟩ :: more)
termination_by text => text.length

end Lexeme

end Eligibility
