import Eligibility.Json
import Eligibility.Json.Number
import Eligibility.Json.Text

namespace Eligibility

namespace Json

inductive Layout where
  | compact
  | pretty
deriving DecidableEq

-- Where a new line may begin; nested values are moved in by two spaces.
def Layout.break (layout : Layout) (level : Nat) : List Char :=
  match layout with
  | compact => []
  | pretty => '\n' :: List.replicate (2 * level) ' '

def Layout.colon : Layout → List Char
  | compact => [':']
  | pretty => [':',' ']

mutual

-- What has no text in JSON is written as null, here as among the numbers.
def chars (layout : Layout) (level : Nat) : Json → List Char
  | null | meaningless => "null".toList
  | boolean truth => if truth then "true".toList else "false".toList
  | number n => numberChars n
  | string text => quote text.toList
  | array [] => ['[',']']
  | array (item :: items) =>
    '[' :: (layout.break (level + 1) ++ (item.chars layout (level + 1) ++
      (itemChars layout (level + 1) items ++ (layout.break level ++ [']']))))
  | object [] => ['{','}']
  | object ((name,value) :: fields) =>
    '{' :: (layout.break (level + 1) ++ (quote name.toList ++ (layout.colon ++
      (value.chars layout (level + 1) ++
        (fieldChars layout (level + 1) fields ++ (layout.break level ++ ['}']))))))

def itemChars (layout : Layout) (level : Nat) : List Json → List Char
  | [] => []
  | item :: items =>
    ',' :: (layout.break level ++ (item.chars layout level ++ itemChars layout level items))

def fieldChars (layout : Layout) (level : Nat) : List (String × Json) → List Char
  | [] => []
  | (name,value) :: fields =>
    ',' :: (layout.break level ++ (quote name.toList ++ (layout.colon ++
      (value.chars layout level ++ fieldChars layout level fields))))

end

def render (json : Json) : String := String.ofList (json.chars .compact 0)

def renderPretty (json : Json) : String := String.ofList (json.chars .pretty 0)

end Json

end Eligibility
