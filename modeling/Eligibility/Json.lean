import Eligibility.Double

namespace Eligibility

inductive Json where
  | null
  | boolean (truth : Bool)
  | number (number : Double)
  | string (text : String)
  | array (items : List Json)
  | object (fields : List (String × Json))
  -- A string that spells no text, or an object with such a name.
  | meaningless

namespace Json

mutual

-- Objects as tables: of several values for one name the last one stays.
def tabled : Json → Json
  | array items => array (tabledItems items)
  | object fields => object (tabledFields fields)
  | json => json

def tabledItems : List Json → List Json
  | [] => []
  | item :: rest => item.tabled :: tabledItems rest

def tabledFields : List (String × Json) → List (String × Json)
  | [] => []
  | (name,value) :: rest =>
    let later := tabledFields rest
    if later.any (·.1 == name) then later else (name,value.tabled) :: later

end

-- The value for one name, none inside if there is none. A name given twice is an error.
def slot? (name : String) (fields : List (String × Json)) : Option (Option Json) :=
  match fields.filter (·.1 == name) with
  | [] => some none
  | [(_,value)] => some (some value)
  | _ => none

-- The values in the order of the names. An array may stop early, but not before it has given the
-- least number of values, and has nothing behind the last name.
def slots? (names : List String) (least : Nat) : Json → Option (List (Option Json))
  | object fields => names.mapM (slot? · fields)
  | array items =>
    if least ≤ items.length ∧ items.length ≤ names.length then
      some (items.map some ++ List.replicate (names.length - items.length) none)
    else none
  | _ => none

def given : Option Json → Option Json
  | some null => none
  | slot => slot

theorem given_some (slot : Option Json) (value : Json) (found : given slot = some value) :
    slot = some value := by
  unfold given at found
  split at found
  · cases found
  · exact found

def text? : Json → Option String
  | string text => some text
  | _ => none

def optionalText? (slot : Option Json) : Option (Option String) :=
  match given slot with
  | none => some none
  | some json => json.text?.map some

-- A name out of a fixed choice, by itself or as the one field of an object, with null.
def choice? : Json → Option String
  | string name => some name
  | object [(name,null)] => some name
  | _ => none

theorem slot_smaller (name : String) (fields : List (String × Json)) (value : Json)
    (found : slot? name fields = some (some value)) : sizeOf value < sizeOf (object fields) := by
  unfold slot? at found
  split at found
  · cases found
  next held value' filtered =>
    cases found
    have member : (held,value) ∈ fields :=
      (List.mem_filter.mp (filtered ▸ List.mem_singleton_self _)).1
    have inside := List.sizeOf_lt_of_mem member
    simp only [Prod.mk.sizeOf_spec,object.sizeOf_spec] at *
    omega
  · cases found

theorem slots_smaller (names : List String) (least : Nat) (json value : Json)
    (slots : List (Option Json)) (found : json.slots? names least = some slots)
    (member : some value ∈ slots) : sizeOf value < sizeOf json := by
  unfold slots? at found
  split at found
  next fields =>
    induction names generalizing slots with
    | nil => simp at found; subst found; cases member
    | cons name names ih =>
      rw [List.mapM_cons] at found
      obtain ⟨first,chosen,found⟩ := Option.bind_eq_some_iff.mp found
      obtain ⟨others,rest,found⟩ := Option.bind_eq_some_iff.mp found
      cases found
      rcases List.mem_cons.mp member with rfl | later
      · exact slot_smaller _ _ _ chosen
      · exact ih others later rest
  next items =>
    split at found
    · cases found
      rcases List.mem_append.mp member with here | padding
      · obtain ⟨item,inside,same⟩ := List.mem_map.mp here
        cases same
        have smaller := List.sizeOf_lt_of_mem inside
        simp only [array.sizeOf_spec]
        omega
      · cases (List.mem_replicate.mp padding).2
    · cases found
  · cases found

end Json

end Eligibility
