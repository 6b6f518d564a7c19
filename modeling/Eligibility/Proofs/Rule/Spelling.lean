import Eligibility.Proofs.Double.PlainText
import Eligibility.Proofs.Rule.Numerals
import Eligibility.Proofs.Text
import Eligibility.Rule.Render

namespace Eligibility

namespace Token

-- What follows a part of a rule: white space, a parenthesis or nothing.
def Parted (rest : List Char) : Prop :=
  ∀ c more, rest = c :: more → Text.isBlank c = true ∨ c = '(' ∨ c = ')'

theorem parted_ends (visible : ∀ c, kind c = true → Text.isBlank c = false) (opens : kind '(' = false)
    (closes : kind ')' = false) (parted : Parted rest) : Text.Ends kind rest := by
  intro c more front
  rcases parted c more front with blank | rfl | rfl
  · cases inside : kind c with
    | false => rfl
    | true => rw [visible c inside] at blank; cases blank
  · exact opens
  · exact closes

-- The text gives the token wherever it is parted from what follows.
def Scans (token : Token) (text : List Char) : Prop :=
  ∃ c more, text = c :: more ∧ Text.isBlank c = false ∧ ∀ offset rest, Parted rest →
    ∃ stop, scan offset c (more ++ rest) = .ok ⟨token,stop,rest⟩

theorem wordStart_high (start : isWordStart c = true) : 0x41 ≤ c.toNat := by
  have all : ∀ range ∈ Text.alphabeticRanges, 0x41 ≤ range.1 := by decide +kernel
  rcases (Bool.or_eq_true _ _).mp start with letter | line
  · obtain ⟨range,member,first,_⟩ := Text.inRanges_member _ _ letter
    exact Nat.le_trans (all range member) first
  · rw [beq_iff_eq.mp line]
    decide

theorem wordStart_part (start : isWordStart c = true) : isWordPart c = true := by
  rcases (Bool.or_eq_true _ _).mp start with letter | line
  · simp [isWordPart,letter]
  · simp [isWordPart,line]

theorem scan_word (start : isWordStart c = true) (rest : List Char) :
    scan offset c rest = .ok ⟨ofWord (c :: rest.takeWhile isWordPart),
      offset + Text.bytes (c :: rest.takeWhile isWordPart),rest.dropWhile isWordPart⟩ := by
  have high := wordStart_high start
  have other : ∀ mark : Char, mark.toNat < 0x41 → c ≠ mark := by
    intro mark low same
    rw [same] at high
    omega
  have noDigit : c.isDigit = false := by
    cases digit : c.isDigit with
    | false => rfl
    | true => have := digit_bounds digit; omega
  simp [scan,other,noDigit,start]

theorem word_scans (start : isWordStart c = true) (parts : ∀ d ∈ more, isWordPart d = true) :
    Scans (ofWord (c :: more)) (c :: more) := by
  refine ⟨c,more,rfl,Text.wordPart_visible (wordStart_part start),?_⟩
  intro offset rest parted
  have ends : Text.Ends isWordPart rest := parted_ends (fun _ => Text.wordPart_visible) rfl rfl parted
  rw [scan_word start,Text.takeWhile_run parts ends,Text.dropWhile_run parts ends]
  exact ⟨_,rfl⟩

theorem decimal_scans (reads : Numeral.read? text = some decimal) (noPlus : text.head? ≠ some '+')
    (value : decimal.toDouble = n) (finite : n.isFinite = true) : Scans (number n) text := by
  have inside := decimal_chars reads
  obtain ⟨c,more,rfl,front,whole⟩ := decimal_whole reads noPlus
  have visible : isNumeralChar c = true := inside c (List.mem_cons_self ..)
  refine ⟨c,more,rfl,numeralChar_visible visible,?_⟩
  intro offset rest parted
  have ends : Text.Ends isNumeralChar rest := parted_ends (fun _ => numeralChar_visible) rfl rfl parted
  have begun : scan offset c (more ++ rest) = scanNumber offset (c :: more) rest := by
    rcases front with digit | rfl | rfl
    · have other : ∀ mark : Char, mark.isDigit = false → c ≠ mark := fun mark => Text.ne_of_kind digit
      simp [scan,other,digit,whole_run whole ends]
    all_goals simp [scan,whole_run whole ends]
  rw [begun]
  cases n with
  | nan | infinite => cases finite
  | finite negative m =>
    refine ⟨offset + (c :: more).length,?_⟩
    simp [scanNumber,reads,value]

theorem quoted_closing (quote : Char) (start position : Nat) (rest : List Char) :
    quoted quote start position (quote :: rest) = .ok ⟨[],position + 1,rest⟩ := by
  unfold quoted
  exact if_pos rfl

theorem quoted_plain (start position : Nat) (rest : List Char) (noQuote : c ≠ quote) (noEscape : c ≠ '\\') :
    quoted quote start position (c :: rest) =
      (quoted quote start (position + c.utf8Size) rest).map (Quoted.push c) := by
  rw [quoted.eq_def]
  simp only [if_neg noQuote,if_neg noEscape]

-- The characters that have an escape, each with the mark that stands behind the backslash.
def escapes : List (Char × Char) :=
  [('\n','n'),('\t','t'),('\r','r'),('\\','\\'),('"','"'),('\'','\'')]

-- What stands behind an opening quote, the closing one included. Each character stands as it is or
-- by its escape; the quote itself and the backslash have to be escaped.
inductive Quotes (quote : Char) : List Char → List Char → Prop where
  | closed : Quotes quote [] [quote]
  | raw (noQuote : c ≠ quote) (noEscape : c ≠ '\\') (further : Quotes quote content behind) :
      Quotes quote (c :: content) (c :: behind)
  | escaped (escape : (c,mark) ∈ escapes) (further : Quotes quote content behind) :
      Quotes quote (c :: content) ('\\' :: mark :: behind)

theorem escapes_meant : ∀ escape ∈ escapes, unescape? escape.2 = some escape.1 ∧ escape.2.utf8Size = 1 := by
  decide

-- Every escape gives back what it stands for, so the closing quote is the first bare one.
theorem quoted_quotes (spelled : Quotes quote content body) (mark : quote = '"' ∨ quote = '\'') (start position : Nat)
    (rest : List Char) :
    quoted quote start position (body ++ rest) = .ok ⟨content,position + Text.bytes body,rest⟩ := by
  have noEscape : '\\' ≠ quote := by rcases mark with rfl | rfl <;> decide
  induction spelled generalizing position with
  | closed =>
    have single : Text.bytes [quote] = 1 := by rcases mark with rfl | rfl <;> rfl
    rw [List.singleton_append,quoted_closing,single]
  | raw noQuote bare further ih =>
    rw [List.cons_append,quoted_plain _ _ _ noQuote bare,ih,Text.bytes,Nat.add_assoc]
    rfl
  | escaped escape further ih =>
    obtain ⟨meant,single⟩ := escapes_meant _ escape
    have backslash : '\\'.utf8Size = 1 := rfl
    simp [quoted,noEscape,meant,ih,single,Except.map,Quoted.push,Text.bytes]
    omega

theorem quotes_back (spelled : Quotes quote content body) : ∃ front, body = front ++ [quote] := by
  induction spelled with
  | closed => exact ⟨[],rfl⟩
  | raw _ _ _ ih =>
    obtain ⟨front,rfl⟩ := ih
    exact ⟨_ :: front,rfl⟩
  | escaped _ _ ih =>
    obtain ⟨front,rfl⟩ := ih
    exact ⟨_ :: _ :: front,rfl⟩

theorem string_scans (mark : quote = '"' ∨ quote = '\'') (spelled : Quotes quote content body) :
    Scans (string (String.ofList content)) (quote :: body) := by
  refine ⟨quote,body,rfl,by rcases mark with rfl | rfl <;> rfl,?_⟩
  intro offset rest parted
  have begun : scan offset quote (body ++ rest) = (quoted quote offset (offset + 1) (body ++ rest)).map
      fun found => ⟨string (String.ofList found.content),found.stop,found.rest⟩ := by
    rcases mark with rfl | rfl <;> rfl
  rw [begun,quoted_quotes spelled mark]
  exact ⟨_,rfl⟩

theorem scanComparator_alone (offset : Nat) (bare withEqual : Comparator) (other : ∀ more, rest ≠ '=' :: more) :
    scanComparator offset bare withEqual rest = ⟨comparator bare,offset + 1,rest⟩ := by
  unfold scanComparator
  split
  next more => exact absurd rfl (other more)
  next => rfl

theorem scanComparator_bare (offset : Nat) (bare withEqual : Comparator) (parted : Parted rest) :
    scanComparator offset bare withEqual rest = ⟨comparator bare,offset + 1,rest⟩ := by
  apply scanComparator_alone
  rintro more rfl
  rcases parted '=' more rfl with blank | same | same
  · cases blank
  · cases same
  · cases same

theorem comparator_scans (sign : Comparator) : Scans (comparator sign) sign.text.toList := by
  have single (c : Char) (bare withEqual : Comparator) (visible : Text.isBlank c = false)
      (scanned : ∀ offset rest, scan offset c rest = .ok (scanComparator offset bare withEqual rest)) :
      Scans (comparator bare) [c] := by
    refine ⟨c,[],rfl,visible,?_⟩
    intro offset rest parted
    rw [List.nil_append,scanned,scanComparator_bare offset bare withEqual parted]
    exact ⟨_,rfl⟩
  cases sign with
  | greater => exact single '>' .greater .greaterEqual rfl fun _ _ => rfl
  | less => exact single '<' .less .lessEqual rfl fun _ _ => rfl
  | greaterEqual => exact ⟨'>',['='],rfl,rfl,fun _ _ _ => ⟨_,rfl⟩⟩
  | lessEqual => exact ⟨'<',['='],rfl,rfl,fun _ _ _ => ⟨_,rfl⟩⟩
  | equal => exact ⟨'=',['='],rfl,rfl,fun _ _ _ => ⟨_,rfl⟩⟩

theorem equal_scans : Scans (comparator .equal) ['='] := by
  refine ⟨'=',[],rfl,rfl,?_⟩
  intro offset rest parted
  have scanned : scan offset '=' rest = .ok (scanComparator offset .equal .equal rest) := rfl
  rw [List.nil_append,scanned,scanComparator_bare offset .equal .equal parted]
  exact ⟨_,rfl⟩

def reserved : List String := ["and","or","true","false"]

def IsWord : List Char → Prop
  | [] => False
  | c :: rest => isWordStart c = true ∧ ∀ d ∈ rest, isWordPart d = true

structure Readable (name : String) : Prop where
  word : IsWord name.toList
  free : String.ofList (name.toList.map Char.toLower) ∉ reserved

theorem ofWord_free {name : List Char} (free : String.ofList (name.map Char.toLower) ∉ reserved) :
    ofWord name = word (String.ofList name) := by
  simp [reserved] at free
  simp [ofWord,free]

theorem readable_scans (readable : Readable name) : Scans (word name) name.toList := by
  have free := ofWord_free readable.free
  have shape := readable.word
  rw [String.ofList_toList] at free
  rw [← free]
  cases spelled : name.toList with
  | nil => rw [spelled] at shape; cases shape
  | cons c rest =>
    rw [spelled] at shape
    exact word_scans shape.1 shape.2

theorem ascii_alphabetic : ∀ code ≤ 0x7A, 0x41 ≤ code ∧ code ≤ 0x5A ∨ 0x61 ≤ code →
    Text.inRanges Text.alphabeticRanges code = true := by decide +kernel

theorem lower_letter {c : Char} (small : c.toLower.isLower = true) : isWordStart c = true := by
  have codes : c.toNat ≤ 0x7A ∧ (0x41 ≤ c.toNat ∧ c.toNat ≤ 0x5A ∨ 0x61 ≤ c.toNat) := by
    by_cases upper : c.val ≥ 'A'.val ∧ c.val ≤ 'Z'.val
    · have bounds : 0x41 ≤ c.toNat ∧ c.toNat ≤ 0x5A := upper
      exact ⟨Nat.le_trans bounds.2 (by decide),.inl bounds⟩
    · have same : c.toLower = c := dif_neg upper
      rw [same] at small
      obtain ⟨first,last⟩ := (Bool.and_eq_true _ _).mp small
      exact ⟨of_decide_eq_true last,.inr (of_decide_eq_true first)⟩
  have letter := ascii_alphabetic c.toNat codes.1 codes.2
  simp [isWordStart,Text.isAlphabetic,letter]

theorem letters_scans (letters : text.map Char.toLower = lower) (nonempty : lower ≠ [])
    (small : lower.all Char.isLower = true) : Scans (ofWord text) text ∧ ∀ c ∈ text, Text.isBlank c = false := by
  have starts : ∀ c ∈ text, isWordStart c = true := by
    intro c member
    exact lower_letter (List.all_eq_true.mp small c.toLower (letters ▸ List.mem_map_of_mem member))
  have parts : ∀ c ∈ text, isWordPart c = true := fun c member => wordStart_part (starts c member)
  refine ⟨?_,fun c member => Text.wordPart_visible (parts c member)⟩
  cases text with
  | nil => exact absurd letters.symm nonempty
  | cons c more =>
    apply word_scans (starts c (List.mem_cons_self ..))
    exact fun d member => parts d (List.mem_cons_of_mem _ member)

theorem readable_visible (readable : Readable name) : ∀ c ∈ name.toList, Text.isBlank c = false := by
  have shape := readable.word
  intro c member
  cases spelled : name.toList with
  | nil => rw [spelled] at member; cases member
  | cons first rest =>
    rw [spelled] at shape member
    rcases List.mem_cons.mp member with rfl | later
    · exact Text.wordPart_visible (wordStart_part shape.1)
    · exact Text.wordPart_visible (shape.2 c later)

-- The texts that spell a token. The letters of a reserved word stand in any case, an equality has
-- one sign or two, and a number is any decimal that does not begin with a plus.
inductive Spells : Token → List Char → Prop where
  | openParen : Spells openParen ['(']
  | closeParen : Spells closeParen [')']
  | comparator (sign : Comparator) : Spells (comparator sign) sign.text.toList
  | equalSign : Spells (comparator .equal) ['=']
  | connective (found : Connective) (letters : text.map Char.toLower = found.text.toList.map Char.toLower) :
      Spells (connective found) text
  | boolean (truth : Bool) (letters : text.map Char.toLower = (Value.boolean truth).display.toList) :
      Spells (boolean truth) text
  | string (mark : quote = '"' ∨ quote = '\'') (spelled : Quotes quote content body) :
      Spells (string (String.ofList content)) (quote :: body)
  | number (reads : Numeral.read? text = some decimal) (noPlus : text.head? ≠ some '+')
      (value : decimal.toDouble = n) (finite : n.isFinite = true) : Spells (number n) text
  | word (readable : Readable name) : Spells (word name) name.toList

theorem connective_letters (found : Connective) (letters : text.map Char.toLower = found.text.toList.map Char.toLower) :
    Scans (connective found) text ∧ ∀ c ∈ text, Text.isBlank c = false := by
  have same : ofWord text = connective found := by
    unfold ofWord
    rw [letters]
    cases found <;> rfl
  rw [← same]
  cases found with
  | and => exact letters_scans letters nofun rfl
  | or => exact letters_scans letters nofun rfl

theorem boolean_letters (truth : Bool) (letters : text.map Char.toLower = (Value.boolean truth).display.toList) :
    Scans (boolean truth) text ∧ ∀ c ∈ text, Text.isBlank c = false := by
  have same : ofWord text = boolean truth := by
    unfold ofWord
    rw [letters]
    cases truth <;> rfl
  rw [← same]
  cases truth with
  | true => exact letters_scans letters nofun rfl
  | false => exact letters_scans letters nofun rfl

theorem spells_scans (spells : Spells token text) : Scans token text := by
  cases spells with
  | openParen => exact ⟨'(',[],rfl,rfl,fun _ _ _ => ⟨_,rfl⟩⟩
  | closeParen => exact ⟨')',[],rfl,rfl,fun _ _ _ => ⟨_,rfl⟩⟩
  | comparator sign => exact comparator_scans sign
  | equalSign => exact equal_scans
  | connective found letters => exact (connective_letters found letters).1
  | boolean truth letters => exact (boolean_letters truth letters).1
  | string mark spelled => exact string_scans mark spelled
  | number reads noPlus value finite => exact decimal_scans reads noPlus value finite
  | word readable => exact readable_scans readable

theorem spells_finite {n : Double} (spells : Spells (number n) text) : n.isFinite = true := by
  cases spells with
  | number _ _ _ finite => exact finite

theorem spells_back (spells : Spells token text) : Text.Ends Text.isBlank text.reverse := by
  cases spells with
  | openParen | closeParen | equalSign => exact Text.ends_cons rfl
  | comparator sign =>
    cases sign <;> exact Text.ends_cons rfl
  | connective found letters => exact Text.ends_visible (connective_letters found letters).2
  | boolean truth letters => exact Text.ends_visible (boolean_letters truth letters).2
  | @string quote content body mark spelled =>
    obtain ⟨front,rfl⟩ := quotes_back spelled
    rw [← List.cons_append,List.reverse_append]
    rcases mark with rfl | rfl <;> exact Text.ends_cons rfl
  | number reads noPlus value finite =>
    exact Text.ends_visible fun c member => numeralChar_visible (decimal_chars reads c member)
  | word readable => exact Text.ends_visible (readable_visible readable)

end Token

def Catalog.Readable (catalog : Catalog) : Prop :=
  ∀ name, catalog.contains name = true → Token.Readable name

namespace Token

def ofOperator : Operator → Token
  | .logical found => connective found
  | .comparison sign => comparator sign

theorem operator_spells (operator : Operator) : Spells (ofOperator operator) operator.text.toList := by
  cases operator with
  | logical found => exact .connective found rfl
  | comparison sign => exact .comparator sign

def ofValue (catalog : Catalog) : Value → Token
  | .number n => number n.plain
  | .boolean truth => boolean truth
  | .string text => if catalog.contains text then word text else string text

theorem escapeChar_quotes (c : Char) (further : Quotes '"' content behind) :
    Quotes '"' (c :: content) (Rule.escapeChar c ++ behind) := by
  unfold Rule.escapeChar
  split
  next special => rcases special with rfl | rfl <;> exact .escaped (by decide) further
  next plain =>
    split
    next same => subst same; exact .escaped (by decide) further
    split
    next same => subst same; exact .escaped (by decide) further
    split
    next same => subst same; exact .escaped (by decide) further
    next =>
      rw [not_or] at plain
      exact .raw plain.1 plain.2 further

theorem quote_spells (text : String) : Spells (string text) (Rule.quote text.toList) := by
  have quotes (content : List Char) : Quotes '"' content (content.flatMap Rule.escapeChar ++ ['"']) := by
    induction content with
    | nil => exact .closed
    | cons c content ih =>
      rw [List.flatMap_cons,List.append_assoc]
      exact escapeChar_quotes c ih
  have spells := Spells.string (.inl rfl) (quotes text.toList)
  rwa [String.ofList_toList] at spells

theorem plain_spells (negative : Bool) (m : Double.Magnitude) :
    Spells (number (Double.finite negative m).plain) (Double.finite negative m).plainChars := by
  obtain ⟨sign,text,d,chars,spelled,value⟩ := Double.plainChars_spelled negative m
  have noPlus : (Double.signChars sign ++ text).head? ≠ some '+' := by
    obtain ⟨c,rest,rfl,digit⟩ := Decimal.spelled_head spelled
    cases sign with
    | true => nofun
    | false =>
      rintro same
      cases same
      cases digit
  rw [chars]
  exact .number (Decimal.spelled_read spelled sign) noPlus value (Double.plain_finite _)

theorem value_spells (readable : catalog.Readable) (value : Value)
    (finite : (Condition.operand value).isFinite = true) :
    Spells (ofValue catalog value) (Rule.valueChars catalog value) := by
  cases value with
  | boolean truth => cases truth <;> exact .boolean _ rfl
  | string text =>
    unfold ofValue Rule.valueChars
    dsimp only
    split
    next known => exact .word (readable text known)
    next => exact quote_spells text
  | number n =>
    cases n with
    | nan | infinite => cases finite
    | finite negative m => simpa [ofValue,Rule.valueChars,Value.display] using plain_spells negative m

end Token

end Eligibility
