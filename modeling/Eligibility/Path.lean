import Eligibility.Text

namespace Eligibility

inductive Branch where
  | left
  | right
deriving DecidableEq

namespace Branch

def sibling : Branch → Branch
  | left => right
  | right => left

def text : Branch → String
  | left => "left"
  | right => "right"

def ofText? (text : String) : Option Branch :=
  if text = "left" then some left
  else if text = "right" then some right
  else none

end Branch

abbrev Path := List Branch

namespace Path

def display (path : Path) : String := ".".intercalate (path.map Branch.text)

def splitLast? : Path → Option (Path × Branch)
  | [] => none
  | [last] => some ([],last)
  | step :: next :: rest => (splitLast? (next :: rest)).map fun (parent,last) => (step :: parent,last)

theorem splitLast_snoc (parent : Path) (last : Branch) :
    splitLast? (parent ++ [last]) = some (parent,last) := by
  induction parent with
  | nil => rfl
  | cons step rest ih =>
    cases rest with
    | nil => rfl
    | cons next rest => simp only [List.cons_append,splitLast?] at ih ⊢; simp [ih]

def segments : List Char → List (List Char)
  | [] => [[]]
  | c :: rest =>
    if c = '.' then [] :: segments rest
    else match segments rest with
      | [] => [[c]]
      | segment :: more => (c :: segment) :: more

end Path

end Eligibility
