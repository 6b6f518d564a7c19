import Eligibility.Proofs.Rule.Layout
import Eligibility.Proofs.Rule.Taken

namespace Eligibility

namespace Lexeme

-- The tokens of a text that begins at some byte, each where its spelling begins and with white space
-- in front of it.
inductive Stands : (place : Nat) → List Char → List Lexeme → Prop where
  | done (blank : ∀ c ∈ gap, Text.isBlank c = true) : Stands place gap []
  | next {token : Token} (gap spelling : List Char) (blank : ∀ c ∈ gap, Text.isBlank c = true)
      (taken : Token.Taken c rest token spelling behind)
      (further : Stands (place + Text.bytes (gap ++ spelling)) behind lexemes) :
      Stands place (gap ++ c :: rest) (⟨token,place + Text.bytes gap⟩ :: lexemes)

-- The same token in a text that begins at a later byte.
def back (start : Nat) (lexeme : Lexeme) : Lexeme := {lexeme with offset := lexeme.offset - start}

-- A token between those before and behind it, with the text around it. From this token on the text gives the
-- same tokens on its own.
structure Placed (text : List Char) (before : List Lexeme) (lexeme : Lexeme) (behind : List Lexeme)
    (front spelling gap rest : List Char) : Prop where
  parts : text = front ++ (spelling ++ (gap ++ rest))
  offset : lexeme.offset = Text.bytes front
  boundary : String.Pos.Raw.IsValid (String.ofList text) ⟨lexeme.offset⟩
  within : lexeme.offset < (String.ofList text).utf8ByteSize
  spells : Token.Spells lexeme.token spelling
  blank : ∀ c ∈ gap, Text.isBlank c = true
  first : before = [] → ∀ c ∈ front, Text.isBlank c = true
  next : ∀ next ∈ behind.head?, next.offset = Text.bytes (front ++ (spelling ++ gap))
  last : behind = [] → rest = []
  suffix : ofChars 0 (spelling ++ (gap ++ rest)) = .ok ((lexeme :: behind).map (back lexeme.offset))

-- What the place in a fault of the scanner means, in a text that begins at some byte.
inductive Points (place : Nat) (text : List Char) : SyntaxFault → Prop where
  | character (front : List Char) (parts : text = front ++ c :: rest) :
      Points place text (.unexpectedCharacter c (place + Text.bytes front))
  | escape (front : List Char) (parts : text = front ++ '\\' :: mark :: rest) :
      Points place text (.invalidEscape mark (place + Text.bytes (front ++ ['\\'])))
  | string (front : List Char) (mark : c = '"' ∨ c = '\'') (parts : text = front ++ c :: rest) :
      Points place text (.unterminatedString (place + Text.bytes front))
  | number (front : List Char) (parts : text = front ++ (numeral ++ rest)) :
      Points place text (.invalidNumber (String.ofList numeral) (place + Text.bytes front))

section

variable {place : Nat} {text : List Char} {token : Token} {lexeme : Lexeme} {lexemes before behind : List Lexeme}

theorem taken_visible (taken : Token.Taken c rest token spelling after) : Text.isBlank c = false := by
  obtain ⟨first,more,rfl,visible⟩ := Token.spells_front taken.spells
  obtain ⟨rfl,_⟩ := List.cons.inj taken.text
  exact visible

theorem taken_length (taken : Token.Taken c rest token spelling after) : 0 < Text.bytes spelling := by
  obtain ⟨first,more,rfl,_⟩ := Token.spells_front taken.spells
  exact Text.bytes_pos (List.cons_ne_nil _ _)

theorem stands_blank (blank : Text.isBlank c = true) (stands : Stands (place + c.utf8Size) text lexemes) :
    Stands place (c :: text) lexemes := by
  cases stands with
  | done further => exact .done (List.forall_mem_cons.mpr ⟨blank,further⟩)
  | next gap spelling further taken stands =>
    rw [Nat.add_assoc] at stands ⊢
    exact .next (_ :: gap) spelling (List.forall_mem_cons.mpr ⟨blank,further⟩) taken stands

theorem ofChars_stands : ofChars place text = .ok lexemes ↔ Stands place text lexemes := by
  constructor
  · intro accepted
    fun_induction ofChars place text generalizing lexemes with
    | case1 =>
      cases accepted
      exact .done nofun
    | case2 place c rest blank ih => exact stands_blank blank (ih accepted)
    | case3 | case4 => cases accepted
    | case5 place c rest blank scan scanned shorter more found ih =>
      cases accepted
      obtain ⟨spelling,taken⟩ := Token.scan_taken scanned
      rw [Token.scan_stop taken scanned] at ih found
      exact .next [] spelling nofun taken (ih found)
  · intro stands
    induction stands with
    | done blank => exact ofChars_blanks blank _
    | next gap spelling blank taken further ih =>
      rw [ofChars_gap blank,ofChars_scan (taken_visible taken) (taken.scans _),Nat.add_assoc,
        ← Text.bytes_append,ih]
      rfl

theorem back_place (token : Token) (start place : Nat) : back start ⟨token,start + place⟩ = ⟨token,place⟩ := by
  rw [back,Nat.add_sub_cancel_left]

theorem stands_back (stands : Stands (start + place) text lexemes) : Stands place text (lexemes.map (back start)) := by
  generalize whole : start + place = reached at stands
  induction stands generalizing place with
  | done blank => exact .done blank
  | next gap spelling blank taken further ih =>
    subst whole
    rw [List.map_cons,Nat.add_assoc,back_place]
    exact .next gap spelling blank taken (ih (Nat.add_assoc ..).symm)

theorem stands_ordered (stands : Stands place text lexemes) :
    (∀ lexeme ∈ lexemes, place ≤ lexeme.offset) ∧
      lexemes.Pairwise fun one next => one.offset < next.offset := by
  induction stands with
  | done => exact ⟨List.forall_mem_nil _,.nil⟩
  | next gap spelling blank taken further ih =>
    obtain ⟨later,ordered⟩ := ih
    have length := taken_length taken
    rw [Text.bytes_append] at later
    refine ⟨List.forall_mem_cons.mpr ⟨Nat.le_add_right _ _,?_⟩,List.pairwise_cons.mpr ⟨?_,ordered⟩⟩
    · intro lexeme member
      have beyond := later lexeme member
      omega
    · intro lexeme member
      have beyond := later lexeme member
      dsimp only
      omega

theorem stands_split (stands : Stands place text (before ++ lexeme :: behind)) :
    ∃ front c rest spelling after, text = front ++ c :: rest ∧ lexeme.offset = place + Text.bytes front ∧
      Token.Taken c rest lexeme.token spelling after ∧ Stands (lexeme.offset + Text.bytes spelling) after behind ∧
      (before = [] → ∀ c ∈ front, Text.isBlank c = true) := by
  induction before generalizing place text with
  | nil =>
    cases stands with
    | next gap spelling blank taken further =>
      rw [Text.bytes_append,← Nat.add_assoc] at further
      exact ⟨gap,_,_,_,_,rfl,rfl,taken,further,fun _ => blank⟩
  | cons first before ih =>
    cases stands with
    | next gap spelling blank taken further =>
      obtain ⟨front,c,rest,spelled,after,same,offset,there,stands,_⟩ := ih further
      refine ⟨gap ++ (spelling ++ front),c,rest,spelled,after,?_,?_,there,stands,nofun⟩
      · rw [taken.text,same,List.append_assoc,List.append_assoc]
      · rw [offset,← List.append_assoc,Text.bytes_append (gap ++ spelling),Nat.add_assoc]

theorem stands_behind (stands : Stands place text behind) :
    ∃ gap rest, text = gap ++ rest ∧ (∀ c ∈ gap, Text.isBlank c = true) ∧
      (∀ next ∈ behind.head?, next.offset = place + Text.bytes gap) ∧ (behind = [] → rest = []) := by
  cases stands with
  | done blank =>
    refine ⟨text,[],(List.append_nil _).symm,blank,?_,fun _ => rfl⟩
    rintro next ⟨⟩
  | next gap spelling blank =>
    refine ⟨gap,_,rfl,blank,?_,nofun⟩
    rintro next ⟨⟩
    rfl

theorem stands_placed (stands : Stands 0 text (before ++ lexeme :: behind)) :
    ∃ front spelling gap rest, Placed text before lexeme behind front spelling gap rest := by
  obtain ⟨front,c,rest,spelling,after,parts,offset,taken,further,first⟩ := stands_split stands
  obtain ⟨gap,last,rfl,blank,next,ends⟩ := stands_behind further
  rw [Nat.zero_add] at offset
  have whole : text = front ++ (spelling ++ (gap ++ last)) := by rw [parts,taken.text]
  have here : Stands (lexeme.offset + 0) (c :: rest) (lexeme :: behind) :=
    .next [] spelling nofun taken further
  refine ⟨front,spelling,gap,last,?_⟩
  constructor
  · exact whole
  · exact offset
  · rw [String.Pos.Raw.isValid_iff_exists_append]
    refine ⟨String.ofList front,String.ofList (c :: rest),?_,?_⟩
    · rw [parts,String.ofList_append]
    · rw [offset,Text.bytes_utf8]
      rfl
  · have length := taken_length taken
    rw [← Text.bytes_utf8,whole,Text.bytes_append,Text.bytes_append,offset]
    omega
  · exact taken.spells
  · exact blank
  · exact first
  · intro follower member
    rw [next follower member,offset,Text.bytes_append,Text.bytes_append,Nat.add_assoc]
  · exact ends
  · rw [← taken.text,ofChars_stands]
    exact stands_back here

theorem member_placed (cut : ofChars 0 text = .ok lexemes) (member : lexeme ∈ lexemes) :
    ∃ before behind front spelling gap rest, lexemes = before ++ lexeme :: behind ∧
      Placed text before lexeme behind front spelling gap rest := by
  obtain ⟨before,behind,rfl⟩ := List.append_of_mem member
  obtain ⟨front,spelling,gap,rest,placed⟩ := stands_placed (ofChars_stands.mp cut)
  exact ⟨before,behind,front,spelling,gap,rest,rfl,placed⟩

theorem member_spelled (cut : ofChars 0 text = .ok lexemes) (member : lexeme ∈ lexemes) :
    ∃ spelling, spelling <:+: text ∧ Token.Spells lexeme.token spelling := by
  obtain ⟨_,_,front,spelling,gap,rest,_,placed⟩ := member_placed cut member
  refine ⟨spelling,⟨front,gap ++ rest,?_⟩,placed.spells⟩
  rw [placed.parts,List.append_assoc]

theorem points_behind (points : Points (place + Text.bytes front) text fault) : Points place (front ++ text) fault := by
  cases points with
  | character more parts =>
    rw [Nat.add_assoc,← Text.bytes_append]
    exact .character _ (by rw [parts,List.append_assoc])
  | escape more parts =>
    rw [Nat.add_assoc,← Text.bytes_append,← List.append_assoc]
    exact .escape _ (by rw [parts,List.append_assoc])
  | string more mark parts =>
    rw [Nat.add_assoc,← Text.bytes_append]
    exact .string _ mark (by rw [parts,List.append_assoc])
  | number more parts =>
    rw [Nat.add_assoc,← Text.bytes_append]
    exact .number _ (by rw [parts,List.append_assoc])

theorem points_cons (points : Points (place + c.utf8Size) text fault) : Points place (c :: text) fault := by
  have behind : Points (place + Text.bytes [c]) text fault := points
  exact points_behind behind

theorem map_error {outcome : Except SyntaxFault α} {change : α → β} (refused : outcome.map change = .error fault) :
    outcome = .error fault := by
  cases outcome with
  | error other => cases refused; rfl
  | ok result => cases refused

-- A quoted text without its end is known by its opening quote, which stands further in front.
theorem quoted_points (refused : Token.quoted quote start place text = .error fault) :
    fault = .unterminatedString start ∨ Points place text fault := by
  fun_induction Token.quoted quote start place text with
  | case1 | case3 => cases refused; exact .inl rfl
  | case2 => cases refused
  | case4 place _ mark more =>
    cases refused
    exact .inr (.escape [] rfl)
  | case5 place mark more meant escape _ ih =>
    have single := (Token.escapes_meant _ (Token.unescape_listed escape)).2
    have here : place + 2 = place + Text.bytes ['\\',mark] := by
      rw [Text.bytes,Text.bytes,single]
      rfl
    refine (ih (map_error refused)).imp_right ?_
    intro points
    rw [here] at points
    exact points_behind points
  | case6 place c rest _ _ ih =>
    exact (ih (map_error refused)).imp_right points_cons

theorem scanNumber_points (refused : Token.scanNumber place text rest = .error fault) :
    fault = .invalidNumber (String.ofList text) place := by
  unfold Token.scanNumber at refused
  split at refused
  · cases refused
  · cases refused
    rfl

theorem scan_points (refused : Token.scan place c rest = .error fault) : Points place (c :: rest) fault := by
  unfold Token.scan at refused
  iterate 5
    split at refused
    · cases refused
  split at refused
  next mark =>
    have single : c.utf8Size = 1 := by rcases mark with rfl | rfl <;> rfl
    rcases quoted_points (map_error refused) with rfl | points
    · exact .string [] mark rfl
    · rw [← single] at points
      exact points_cons points
  split at refused
  · cases scanNumber_points refused
    exact .number [] (congrArg (c :: ·) (Token.numeral_parts false rest).symm)
  split at refused
  · cases refused
  · cases refused
    exact .character [] rfl

theorem ofChars_points (refused : ofChars place text = .error fault) : Points place text fault := by
  fun_induction ofChars place text with
  | case1 => cases refused
  | case2 place c rest blank ih => exact points_cons (ih refused)
  | case3 place c rest blank other scanned =>
    cases refused
    exact scan_points scanned
  | case4 place c rest blank scan scanned shorter other found ih =>
    cases refused
    obtain ⟨spelling,taken⟩ := Token.scan_taken scanned
    rw [Token.scan_stop taken scanned] at ih found
    rw [taken.text]
    exact points_behind (ih found)
  | case5 => cases refused

end

end Lexeme

namespace Condition

open Lexeme (Placed)

-- A rule has the token at the place that the token gives, counted without white space in front.
def Mentions (rule : String) (lexeme : Lexeme) : Prop :=
  ∃ before behind front spelling gap rest,
    Lexeme.ofChars 0 (Text.trim rule.toList) = .ok (before ++ lexeme :: behind) ∧
      Placed (Text.trim rule.toList) before lexeme behind front spelling gap rest

theorem mentions_member (cut : Lexeme.ofChars 0 (Text.trim rule.toList) = .ok lexemes) (member : lexeme ∈ lexemes) :
    Mentions rule lexeme := by
  obtain ⟨before,behind,front,spelling,gap,rest,rfl,placed⟩ := Lexeme.member_placed cut member
  exact ⟨before,behind,front,spelling,gap,rest,cut,placed⟩

-- A reading agrees with itself on tokens that are among those it was given.
theorem ofLexemes_blames (refused : ofLexemes catalog lexemes = .error fault) :
    Grammar.SameFault catalog (fun one other => one = other ∧ one ∈ lexemes) fault fault := by
  have correspond : List.Forall₂ (fun one other => one = other ∧ one ∈ lexemes) lexemes lexemes :=
    List.forall₂_same.mpr fun _ member => ⟨rfl,member⟩
  have agrees := ofLexemes_agrees (fun name (known : catalog.contains name = true) => known)
    (fun _ _ same => congrArg Lexeme.token same.1) correspond
  rw [refused] at agrees
  cases agrees with
  | error faults => exact faults
  | missing _ differ => exact absurd rfl differ

theorem unclosed_opens (faults : Grammar.SameFault catalog alike (.syntactic (.unclosedParen offset)) fault) :
    ∃ lexeme other, alike lexeme other ∧ lexeme.token = .openParen ∧ lexeme.offset = offset := by
  cases faults with
  | unclosedParen opens same => exact ⟨_,_,same,opens,rfl⟩

theorem read_refused (refused : read catalog rule = .error (.syntactic cause)) :
    cause = .emptyRule ∨ Lexeme.ofChars 0 (Text.trim rule.toList) = .error cause ∨
      ∃ lexemes, Lexeme.ofChars 0 (Text.trim rule.toList) = .ok lexemes ∧
        ofLexemes catalog lexemes = .error (.syntactic cause) := by
  unfold read at refused
  split at refused
  · cases refused
    exact .inl rfl
  next text =>
    rw [text]
    split at refused
    next cause scanned =>
      cases refused
      exact .inr (.inl scanned)
    next lexemes cut => exact .inr (.inr ⟨lexemes,cut,refused⟩)

theorem unexpectedToken_mentions (refused : read catalog rule = .error (.syntactic (.unexpectedToken lexeme))) :
    Mentions rule lexeme := by
  obtain other | scanned | ⟨lexemes,cut,answer⟩ := read_refused refused
  · cases other
  · cases Lexeme.ofChars_points scanned
  · cases ofLexemes_blames answer with
    | unexpectedToken same => exact mentions_member cut same.2

theorem unclosedParen_mentions (refused : read catalog rule = .error (.syntactic (.unclosedParen offset))) :
    Mentions rule ⟨.openParen,offset⟩ := by
  obtain other | scanned | ⟨lexemes,cut,answer⟩ := read_refused refused
  · cases other
  · cases Lexeme.ofChars_points scanned
  · obtain ⟨⟨token,place⟩,_,⟨_,member⟩,rfl,rfl⟩ := unclosed_opens (ofLexemes_blames answer)
    exact mentions_member cut member

theorem unexpectedCharacter_points
    (refused : read catalog rule = .error (.syntactic (.unexpectedCharacter c offset))) :
    ∃ front rest, Text.trim rule.toList = front ++ c :: rest ∧ offset = Text.bytes front := by
  obtain other | scanned | ⟨lexemes,cut,answer⟩ := read_refused refused
  · cases other
  · cases Lexeme.ofChars_points scanned with
    | character front parts => exact ⟨front,_,parts,Nat.zero_add _⟩
  · cases ofLexemes_blames answer

-- Places are counted in the trimmed rule, and a fault names the token that stands at its place.
theorem places_exact :
    (∀ text lexemes, Lexeme.ofChars 0 text = .ok lexemes →
      (lexemes.Pairwise fun one next => one.offset < next.offset) ∧
      ∀ before lexeme behind, lexemes = before ++ lexeme :: behind →
        ∃ front spelling gap rest, Placed text before lexeme behind front spelling gap rest) ∧
    ∀ catalog rule,
      (∀ lexeme, read catalog rule = .error (.syntactic (.unexpectedToken lexeme)) → Mentions rule lexeme) ∧
      (∀ offset, read catalog rule = .error (.syntactic (.unclosedParen offset)) →
        Mentions rule ⟨.openParen,offset⟩) ∧
      ∀ c offset, read catalog rule = .error (.syntactic (.unexpectedCharacter c offset)) →
        ∃ front rest, Text.trim rule.toList = front ++ c :: rest ∧ offset = Text.bytes front := by
  constructor
  · intro text lexemes accepted
    have stands := Lexeme.ofChars_stands.mp accepted
    refine ⟨(Lexeme.stands_ordered stands).2,?_⟩
    rintro before lexeme behind rfl
    exact Lexeme.stands_placed stands
  · intro catalog rule
    exact ⟨fun _ => unexpectedToken_mentions,fun _ => unclosedParen_mentions,fun _ _ => unexpectedCharacter_points⟩

-- A letter of two bytes stands in front of the parenthesis, white space in front of the rule does not count.
theorem late_parenthesis_placed : Mentions " age == 'é' (" ⟨.openParen,12⟩ :=
  (places_exact.2 Catalog.standard " age == 'é' (").1 _ (by decide +kernel)

end Condition

end Eligibility
