import Eligibility.Proofs.Json.Numbers
import Eligibility.Proofs.Json.Strings

namespace Eligibility

namespace Json

-- What a reader takes, without the bound on what it leaves.
def parts (answer : Option (Taken α bound)) : Option (α × List Char) :=
  answer.map fun taken => (taken.value,taken.rest)

theorem parts_widen (answer : Option (Taken α bound)) (within : bound ≤ wider) :
    parts (answer.map (·.widen within)) = parts answer := by
  cases answer <;> rfl

theorem parts_some (found : parts answer = some (result,rest)) :
    ∃ taken, answer = some taken ∧ taken.value = result ∧ taken.rest = rest := by
  obtain ⟨taken,same,pair⟩ := Option.map_eq_some_iff.mp found
  cases pair
  exact ⟨taken,same,rfl,rfl⟩

def insideOf : Nat → Option (Reader Json)
  | 0 => none
  | nesting + 1 => some (value nesting)

theorem value_from (nesting : Nat) (reached : skip text = c :: rest) :
    parts (value nesting text) = parts (valueFrom (insideOf nesting) c rest) := by
  have shape : value nesting = valueOver (insideOf nesting) := by cases nesting <;> rfl
  rw [shape]
  unfold valueOver
  split
  next empty => rw [reached] at empty; cases empty
  next first behind front =>
    have same := front.symm.trans reached
    cases same
    exact parts_widen _ _

theorem items_last (inside : Reader Json) (first : parts (inside text) = some (item,after))
    (closes : skip after = ']' :: rest) : parts (items inside text) = some ([item],rest) := by
  obtain ⟨taken,found,rfl,rfl⟩ := parts_some first
  rw [items]
  split
  next failed => rw [failed] at found; cases found
  next other there =>
    cases found.symm.trans there
    split
    next behind closed =>
      cases closes.symm.trans closed
      rfl
    next behind goes => cases closes.symm.trans goes
    next notClosed _ => exact absurd closes (notClosed rest)

theorem items_more (inside : Reader Json) (first : parts (inside text) = some (item,after))
    (goes : skip after = ',' :: further) :
    parts (items inside text) = (parts (items inside further)).map fun (more,rest) => (item :: more,rest) := by
  obtain ⟨taken,found,rfl,rfl⟩ := parts_some first
  rw [items]
  split
  next failed => rw [failed] at found; cases found
  next other there =>
    cases found.symm.trans there
    split
    next behind closed => cases goes.symm.trans closed
    next behind comma =>
      cases goes.symm.trans comma
      cases items inside further <;> rfl
    next notComma => exact absurd goes (notComma further)

theorem fields_last (inside : Reader Json) (named : parts (fieldName? text) = some (name,behind))
    (first : parts (inside behind) = some (held,after)) (closes : skip after = '}' :: rest) :
    parts (fields inside text) = some ([(name,held)],rest) := by
  obtain ⟨label,spelled,rfl,rfl⟩ := parts_some named
  obtain ⟨taken,found,rfl,rfl⟩ := parts_some first
  rw [fields]
  split
  next failed => rw [failed] at spelled; cases spelled
  next other there =>
    cases spelled.symm.trans there
    split
    next failed => rw [failed] at found; cases found
    next inner read =>
      cases found.symm.trans read
      split
      next further closed =>
        cases closes.symm.trans closed
        rfl
      next further goes => cases closes.symm.trans goes
      next notClosed _ => exact absurd closes (notClosed rest)

theorem fields_more (inside : Reader Json) (named : parts (fieldName? text) = some (name,behind))
    (first : parts (inside behind) = some (held,after)) (goes : skip after = ',' :: further) :
    parts (fields inside text) =
      (parts (fields inside further)).map fun (more,rest) => ((name,held) :: more,rest) := by
  obtain ⟨label,spelled,rfl,rfl⟩ := parts_some named
  obtain ⟨taken,found,rfl,rfl⟩ := parts_some first
  rw [fields]
  split
  next failed => rw [failed] at spelled; cases spelled
  next other there =>
    cases spelled.symm.trans there
    split
    next failed => rw [failed] at found; cases found
    next inner read =>
      cases found.symm.trans read
      split
      next further closed => cases goes.symm.trans closed
      next further comma =>
        cases goes.symm.trans comma
        cases fields inside further <;> rfl
      next notComma => exact absurd goes (notComma further)

theorem arrayRest_items (inside : Reader Json) (opens : ∀ rest, skip text ≠ ']' :: rest) :
    parts (arrayRest inside text) = (parts (items inside text)).map fun (found,rest) => (array found,rest) := by
  unfold arrayRest
  split
  next rest closed => exact absurd closed (opens rest)
  next => cases items inside text <;> rfl

theorem objectRest_fields (inside : Reader Json) (opens : ∀ rest, skip text ≠ '}' :: rest) :
    parts (objectRest inside text) =
      (parts (fields inside text)).map fun (found,rest) => (ofFields found,rest) := by
  unfold objectRest
  split
  next rest closed => exact absurd closed (opens rest)
  next => cases fields inside text <;> rfl

theorem stringRest_quoted (text : String) (rest : List Char) :
    parts (stringRest (text.toList.flatMap escapeChar ++ '"' :: rest)) = some (string text,rest) := by
  have taken := unquote_escapes text.toList rest
  unfold stringRest
  split
  next failed => rw [taken] at failed; cases failed
  next pieces behind there =>
    cases taken.symm.trans there
    simp [parts,ofPieces,spelled_whole]

theorem fieldName_quoted (name : String)
    (opens : skip text = '"' :: (name.toList.flatMap escapeChar ++ '"' :: ':' :: rest)) :
    parts (fieldName? text) = some (some name,rest) := by
  have taken := unquote_escapes name.toList (':' :: rest)
  have colon : skip (':' :: rest) = ':' :: rest := rfl
  unfold fieldName?
  split
  next quoted front =>
    cases opens.symm.trans front
    split
    next failed => rw [taken] at failed; cases failed
    next pieces behind there =>
      cases taken.symm.trans there
      split
      next further reached =>
        cases colon.symm.trans reached
        simp [parts,spelled_whole]
      next noColon => exact absurd colon (noColon rest)
  next notQuoted => exact absurd opens (notQuoted _)

-- A number is taken up to the first character that no number has.
theorem numberRest_chars (first : Char) (chars : ∀ d ∈ more, isNumberChar d = true)
    (ends : Text.Ends isNumberChar rest) (reads : number? (first :: more) = some n) :
    parts (numberRest first (more ++ rest)) = some (number n,rest) := by
  unfold numberRest
  simp [parts,Text.takeWhile_run chars ends,Text.dropWhile_run chars ends,reads]

theorem skip_blank (blank : ∀ c ∈ text, isSpace c = true) (visible : isSpace c = false) :
    skip (text ++ c :: rest) = c :: rest := Text.dropWhile_run blank (Text.ends_cons visible)

theorem break_blank (layout : Layout) (level : Nat) : ∀ c ∈ layout.break level, isSpace c = true := by
  intro c member
  cases layout with
  | compact => cases member
  | pretty =>
    rcases List.mem_cons.mp member with rfl | indent
    · rfl
    · rw [(List.mem_replicate.mp indent).2]
      rfl

theorem quote_append (text rest : List Char) :
    quote text ++ rest = '"' :: (text.flatMap escapeChar ++ '"' :: rest) := by simp [quote]

theorem field_front (layout : Layout) (level : Nat) (name : String) (rest : List Char) :
    skip (layout.break level ++ (quote name.toList ++ rest)) =
      '"' :: (name.toList.flatMap escapeChar ++ '"' :: rest) := by
  rw [quote_append]
  exact skip_blank (break_blank layout level) rfl

theorem field_named (layout : Layout) (name : String) :
    ∃ gap, (∀ c ∈ gap, isSpace c = true) ∧ ∀ level rest,
      parts (fieldName? (layout.break level ++ (quote name.toList ++ (layout.colon ++ rest)))) =
        some (some name,gap ++ rest) := by
  cases layout with
  | compact => exact ⟨[],List.all_eq_true.mp rfl,fun level rest => fieldName_quoted name (field_front .compact level name _)⟩
  | pretty => exact ⟨[' '],List.all_eq_true.mp rfl,fun level rest => fieldName_quoted name (field_front .pretty level name _)⟩

theorem field_opens (layout : Layout) (level : Nat) (name : String) (behind rest : List Char) :
    skip (layout.break level ++ (quote name.toList ++ behind)) ≠ '}' :: rest := by
  rw [field_front]
  intro same
  cases same

mutual

-- What the text of a document holds: what has no text in JSON is null there.
def written : Json → Json
  | number n => if n.isFinite then number n else null
  | array items => array (writtenItems items)
  | object fields => object (writtenFields fields)
  | meaningless => null
  | json => json

def writtenItems : List Json → List Json
  | [] => []
  | item :: rest => item.written :: writtenItems rest

def writtenFields : List (String × Json) → List (String × Json)
  | [] => []
  | (name,held) :: rest => (name,held.written) :: writtenFields rest

end

mutual

-- Every number of the document is read back from its text.
def Legible : Json → Prop
  | number n => n.isFinite = true → number? (numberChars n) = some n
  | array items => LegibleItems items
  | object fields => LegibleFields fields
  | _ => True

def LegibleItems : List Json → Prop
  | [] => True
  | item :: rest => item.Legible ∧ LegibleItems rest

def LegibleFields : List (String × Json) → Prop
  | [] => True
  | (_,held) :: rest => held.Legible ∧ LegibleFields rest

end

theorem value_at (nesting : Nat) (blank : ∀ c ∈ text, isSpace c = true) (visible : isSpace c = false)
    (rest : List Char) :
    parts (value nesting (text ++ c :: rest)) = parts (valueFrom (insideOf nesting) c rest) :=
  value_from nesting (skip_blank blank visible)

theorem closing_ends (layout : Layout) (level : Nat) (other : isNumberChar c = false) (rest : List Char) :
    Text.Ends isNumberChar (layout.break level ++ c :: rest) := by
  cases layout with
  | compact => exact Text.ends_cons other
  | pretty => exact Text.ends_cons rfl

theorem itemChars_ends (layout : Layout) (level outer : Nat) (more : List Json) (rest : List Char) :
    Text.Ends isNumberChar (itemChars layout level more ++ (layout.break outer ++ ']' :: rest)) := by
  cases more with
  | nil => exact closing_ends layout outer rfl rest
  | cons => exact Text.ends_cons rfl

theorem fieldChars_ends (layout : Layout) (level outer : Nat) (more : List (String × Json)) (rest : List Char) :
    Text.Ends isNumberChar (fieldChars layout level more ++ (layout.break outer ++ '}' :: rest)) := by
  cases more with
  | nil => exact closing_ends layout outer rfl rest
  | cons => exact Text.ends_cons rfl

def isFront (c : Char) : Bool := !isSpace c && c != ']'

theorem front_visible (front : isFront c = true) : isSpace c = false ∧ c ≠ ']' := by
  simpa [isFront] using front

theorem numeric_front (first : c.isDigit = true ∨ c = '-') :
    isFront c = true ∧ ∀ inside text, valueFrom inside c text = numberRest c text := by
  rcases first with digit | rfl
  · have other : ∀ mark : Char, mark.isDigit = false → c ≠ mark := fun mark => Text.ne_of_kind digit
    exact ⟨by simp [isFront,isSpace,other],fun inside text => by simp [valueFrom,other,digit]⟩
  · exact ⟨rfl,fun inside text => rfl⟩

theorem chars_front (layout : Layout) (level : Nat) (json : Json) :
    ∃ c rest, json.chars layout level = c :: rest ∧ isFront c = true := by
  cases json with
  | null | meaningless => exact ⟨'n',_,rfl,rfl⟩
  | boolean truth =>
    cases truth with
    | true => exact ⟨'t',_,rfl,rfl⟩
    | false => exact ⟨'f',_,rfl,rfl⟩
  | string text => exact ⟨'"',_,rfl,rfl⟩
  | number n =>
    cases n with
    | nan | infinite => exact ⟨'n',_,rfl,rfl⟩
    | finite negative m =>
      obtain ⟨c,more,whole,first,_⟩ := numberChars_text negative m
      exact ⟨c,more,whole,(numeric_front first).1⟩
  | array found =>
    cases found with
    | nil => exact ⟨'[',_,rfl,rfl⟩
    | cons => exact ⟨'[',_,rfl,rfl⟩
  | object found =>
    cases found with
    | nil => exact ⟨'{',_,rfl,rfl⟩
    | cons => exact ⟨'{',_,rfl,rfl⟩

theorem value_null (nesting : Nat) (blank : ∀ c ∈ text, isSpace c = true) (rest : List Char) :
    parts (value nesting (text ++ ("null".toList ++ rest))) = some (null,rest) :=
  value_at nesting blank rfl _

theorem value_number (n : Double) (legible : (number n).Legible) (nesting : Nat)
    (blank : ∀ c ∈ text, isSpace c = true) (ends : Text.Ends isNumberChar rest) :
    parts (value nesting (text ++ (numberChars n ++ rest))) = some ((number n).written,rest) := by
  cases n with
  | nan | infinite => exact value_null nesting blank rest
  | finite negative m =>
    obtain ⟨c,more,whole,first,chars⟩ := numberChars_text negative m
    have reads := legible rfl
    rw [whole] at reads
    rw [whole,List.cons_append]
    obtain ⟨front,numeric⟩ := numeric_front first
    rw [value_at nesting blank (front_visible front).1,numeric]
    exact numberRest_chars c chars ends reads

theorem ofFields_named (found : List (String × Json)) :
    ofFields (found.map fun field => (some field.1,field.2)) = object found := by
  have whole : (found.map fun field => (some field.1,field.2)).mapM
      (fun field : Option String × Json => field.1.map (·,field.2)) = some found := by
    induction found with
    | nil => rfl
    | cons field rest ih => simp [ih]
  rw [ofFields,whole]

theorem chars_opens (layout : Layout) (level : Nat) (json : Json) (behind rest : List Char) :
    skip (layout.break level ++ (json.chars layout level ++ behind)) ≠ ']' :: rest := by
  obtain ⟨c,more,whole,front⟩ := json.chars_front layout level
  obtain ⟨visible,noBracket⟩ := front_visible front
  rw [whole,List.cons_append,skip_blank (break_blank layout level) visible]
  intro same
  cases same
  exact noBracket rfl

mutual

theorem value_chars (layout : Layout) (json : Json) (legible : json.Legible) (level nesting : Nat)
    (enough : (json.chars layout level).length ≤ nesting) (text rest : List Char)
    (blank : ∀ c ∈ text, isSpace c = true) (ends : Text.Ends isNumberChar rest) :
    parts (value nesting (text ++ (json.chars layout level ++ rest))) = some (json.written,rest) := by
  match json with
  | null | meaningless => exact value_null nesting blank rest
  | boolean true | boolean false => exact value_at nesting blank rfl _
  | number n => exact value_number n legible nesting blank ends
  | string held =>
    have taken := stringRest_quoted held rest
    rw [chars,quote_append]
    exact (value_at nesting blank rfl _).trans taken
  | array [] =>
    cases nesting with
    | zero => simp [chars] at enough
    | succ nesting => exact value_at (nesting + 1) blank rfl _
  | array (item :: more) =>
    simp only [chars,List.length_cons,List.length_append] at enough
    cases nesting with
    | zero => omega
    | succ nesting =>
      have first := value_chars layout item legible.1 (level + 1) nesting (by omega)
        (layout.break (level + 1)) _ (break_blank layout _) (itemChars_ends layout (level + 1) level more rest)
      have whole := items_chars layout more legible.2 (level + 1) nesting (by omega) level _ rest _ first
      have spelled : chars layout level (array (item :: more)) ++ rest = '[' :: (layout.break (level + 1) ++
          (item.chars layout (level + 1) ++
            (itemChars layout (level + 1) more ++ (layout.break level ++ ']' :: rest)))) := by simp [chars]
      rw [spelled,value_at (nesting + 1) blank rfl]
      change parts (arrayRest (value nesting) _) = _
      rw [arrayRest_items _ (chars_opens layout (level + 1) item _),whole]
      rfl
  | object [] =>
    cases nesting with
    | zero => simp [chars] at enough
    | succ nesting => exact value_at (nesting + 1) blank rfl _
  | object ((name,held) :: more) =>
    simp only [chars,List.length_cons,List.length_append] at enough
    cases nesting with
    | zero => omega
    | succ nesting =>
      obtain ⟨gap,space,named⟩ := field_named layout name
      have first := value_chars layout held legible.1 (level + 1) nesting (by omega)
        gap _ space (fieldChars_ends layout (level + 1) level more rest)
      have whole := fields_chars layout more legible.2 (level + 1) nesting (by omega) level _ _ rest name _
        (named (level + 1) _) first
      have spelled : chars layout level (object ((name,held) :: more)) ++ rest =
          '{' :: (layout.break (level + 1) ++ (quote name.toList ++ (layout.colon ++
            (held.chars layout (level + 1) ++
              (fieldChars layout (level + 1) more ++ (layout.break level ++ '}' :: rest)))))) := by
        simp [chars]
      rw [spelled,value_at (nesting + 1) blank rfl]
      change parts (objectRest (value nesting) _) = _
      rw [objectRest_fields _ (field_opens layout (level + 1) name _),whole]
      simp only [Option.map_some,ofFields_named]
      rfl

theorem items_chars (layout : Layout) (more : List Json) (legible : LegibleItems more) (level nesting : Nat)
    (enough : (itemChars layout level more).length ≤ nesting) (outer : Nat) (text rest : List Char) (item : Json)
    (first : parts (value nesting text) =
      some (item,itemChars layout level more ++ (layout.break outer ++ ']' :: rest))) :
    parts (items (value nesting) text) = some (item :: writtenItems more,rest) := by
  match more with
  | [] =>
    apply items_last _ first
    exact skip_blank (break_blank layout outer) rfl
  | next :: more =>
    simp only [itemChars,List.length_cons,List.length_append] at enough
    have second := value_chars layout next legible.1 level nesting (by omega)
      (layout.break level) _ (break_blank layout _) (itemChars_ends layout level outer more rest)
    have whole := items_chars layout more legible.2 level nesting (by omega) outer _ rest _ second
    simp only [itemChars,List.cons_append,List.append_assoc] at first
    rw [items_more _ first (rfl : skip (',' :: _) = _),whole]
    rfl

theorem fields_chars (layout : Layout) (more : List (String × Json)) (legible : LegibleFields more)
    (level nesting : Nat) (enough : (fieldChars layout level more).length ≤ nesting) (outer : Nat)
    (text behind rest : List Char) (name : String) (held : Json)
    (named : parts (fieldName? text) = some (some name,behind))
    (first : parts (value nesting behind) =
      some (held,fieldChars layout level more ++ (layout.break outer ++ '}' :: rest))) :
    parts (fields (value nesting) text) =
      some (((name,held) :: writtenFields more).map fun field => (some field.1,field.2),rest) := by
  match more with
  | [] =>
    apply fields_last _ named first
    exact skip_blank (break_blank layout outer) rfl
  | (label,inner) :: more =>
    simp only [fieldChars,List.length_cons,List.length_append] at enough
    obtain ⟨gap,space,spelled⟩ := field_named layout label
    have second := value_chars layout inner legible.1 level nesting (by omega)
      gap _ space (fieldChars_ends layout level outer more rest)
    have whole := fields_chars layout more legible.2 level nesting (by omega) outer _ _ rest label _
      (spelled level _) second
    simp only [fieldChars,List.cons_append,List.append_assoc] at first
    rw [fields_more _ named first (rfl : skip (',' :: _) = _),whole]
    rfl

end

theorem legibleItems_strings (texts : List String) : LegibleItems (texts.map .string) := by
  induction texts with
  | nil => trivial
  | cons text rest ih => exact ⟨trivial,ih⟩

theorem writtenItems_strings (texts : List String) : writtenItems (texts.map .string) = texts.map .string := by
  induction texts with
  | nil => rfl
  | cons text rest ih => exact congrArg (string text :: ·) ih

-- A text of a document holds that document, up to what has no text.
theorem read_chars (layout : Layout) (json : Json) (legible : json.Legible) :
    read? (String.ofList (json.chars layout 0)) = some json.written := by
  have whole := value_chars layout json legible 0 _ (Nat.le_refl _) [] [] nofun (Text.ends_nil _)
  rw [List.append_nil,List.nil_append] at whole
  obtain ⟨taken,found,same,rest⟩ := parts_some whole
  rw [read?,readChars?,String.toList_ofList,found]
  simp [rest,same,skip]

end Json

end Eligibility
