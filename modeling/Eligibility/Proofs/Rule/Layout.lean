import Eligibility.Proofs.Rule.Spelling
import Eligibility.Proofs.Rule.TwoReadings

namespace Eligibility

namespace Token

def IsParen (token : Token) : Prop := token = .openParen ∨ token = .closeParen

-- Tokens one behind the other. Only a parenthesis needs no white space beside it.
inductive Spaced : List Token → List Char → Prop where
  | none : Spaced [] []
  | one (spells : Spells token text) : Spaced [token] text
  | more (spells : Spells token text) (gap : List Char) (blank : ∀ c ∈ gap, Text.isBlank c = true)
      (apart : gap = [] → IsParen token ∨ IsParen next) (further : Spaced (next :: tokens) behind) :
      Spaced (token :: next :: tokens) (text ++ (gap ++ behind))

inductive Written (taken : List Token) : List Char → Prop where
  | around (front back : List Char) (before : ∀ c ∈ front, Text.isBlank c = true)
      (behind : ∀ c ∈ back, Text.isBlank c = true) (spaced : Spaced taken body) :
      Written taken (front ++ (body ++ back))

theorem parted_cons (shape : Text.isBlank c = true ∨ c = '(' ∨ c = ')') : Parted (c :: rest) := by
  intro d more front
  cases front
  exact shape

theorem parted_blanks (blank : ∀ c ∈ gap, Text.isBlank c = true) : Parted gap := by
  rintro c more rfl
  exact .inl (blank c (List.mem_cons_self ..))

theorem spells_front (spells : Spells token text) :
    ∃ c more, text = c :: more ∧ Text.isBlank c = false := by
  obtain ⟨c,more,whole,visible,_⟩ := spells_scans spells
  exact ⟨c,more,whole,visible⟩

-- A parenthesis is a token wherever it stands.
theorem spells_parenthesis (spells : Spells token text) (paren : IsParen token) :
    ∃ c, text = [c] ∧ (c = '(' ∨ c = ')') ∧ Text.isBlank c = false ∧
      ∀ place rest, scan place c rest = .ok ⟨token,place + 1,rest⟩ := by
  rcases paren with rfl | rfl
  · cases spells
    exact ⟨'(',rfl,.inl rfl,rfl,fun _ _ => rfl⟩
  · cases spells
    exact ⟨')',rfl,.inr rfl,rfl,fun _ _ => rfl⟩

theorem spaced_front (spaced : Spaced (token :: tokens) text) :
    ∃ c more, text = c :: more ∧ Text.isBlank c = false ∧ (IsParen token → c = '(' ∨ c = ')') := by
  have first (text : List Char) (spells : Spells token text) :
      ∃ c more, text = c :: more ∧ Text.isBlank c = false ∧ (IsParen token → c = '(' ∨ c = ')') := by
    obtain ⟨c,more,rfl,visible⟩ := spells_front spells
    refine ⟨c,more,rfl,visible,?_⟩
    intro paren
    obtain ⟨d,same,shape,_⟩ := spells_parenthesis spells paren
    cases same
    exact shape
  cases spaced with
  | one spells => exact first _ spells
  | more spells =>
    obtain ⟨c,more,rfl,visible,shape⟩ := first _ spells
    exact ⟨c,_,rfl,visible,shape⟩

theorem spaced_begins (spaced : Spaced taken text) : Text.Ends Text.isBlank text := by
  cases taken with
  | nil => cases spaced; exact Text.ends_nil _
  | cons token tokens =>
    obtain ⟨c,more,rfl,visible,_⟩ := spaced_front spaced
    exact Text.ends_cons visible

theorem spaced_ends (spaced : Spaced taken text) : Text.Ends Text.isBlank text.reverse := by
  induction spaced with
  | none => exact Text.ends_nil _
  | one spells => exact spells_back spells
  | more spells gap blank apart further ih =>
    obtain ⟨c,more,rfl,_⟩ := spaced_front further
    rw [List.reverse_append,List.reverse_append,List.append_assoc]
    exact Text.ends_append (by simp) ih

theorem written_trim (written : Written taken rule) : Spaced taken (Text.trim rule) := by
  obtain ⟨front,back,before,behind,spaced⟩ := written
  rw [Text.trim_around before behind (spaced_begins spaced) (spaced_ends spaced)]
  exact spaced

theorem spaced_written (spaced : Spaced taken text) : Written taken text := by
  have around := Written.around [] [] nofun nofun spaced
  rwa [List.nil_append,List.append_nil] at around

theorem spaced_append (first : Spaced taken text) (nonempty : taken ≠ []) (gap : List Char)
    (blank : ∀ c ∈ gap, Text.isBlank c = true) (apart : gap = [] → IsParen next) (second : Spaced (next :: tokens) behind) :
    Spaced (taken ++ next :: tokens) (text ++ (gap ++ behind)) := by
  induction first with
  | none => exact absurd rfl nonempty
  | one spells => exact .more spells gap blank (fun noGap => .inr (apart noGap)) second
  | more spells gap' blank' apart' further ih =>
    rw [List.append_assoc,List.append_assoc]
    exact .more spells gap' blank' apart' (ih (List.cons_ne_nil _ _))

theorem spaced_open (spaced : Spaced taken text) (nonempty : taken ≠ []) :
    Spaced (.openParen :: taken) ('(' :: text) := by
  obtain ⟨next,tokens,rfl⟩ := List.exists_cons_of_ne_nil nonempty
  exact .more .openParen [] nofun (fun _ => .inl (.inl rfl)) spaced

theorem spaced_close (spaced : Spaced taken text) (nonempty : taken ≠ []) :
    Spaced (taken ++ [.closeParen]) (text ++ [')']) :=
  spaced_append spaced nonempty [] nofun (fun _ => .inr rfl) (.one .closeParen)

theorem spaced_join (operator : Spells token sign) (first : Spaced before left) (filledBefore : before ≠ [])
    (second : Spaced behind right) (filledBehind : behind ≠ []) :
    Spaced (before ++ token :: behind) (left ++ ' ' :: (sign ++ ' ' :: right)) := by
  obtain ⟨next,tokens,rfl⟩ := List.exists_cons_of_ne_nil filledBehind
  have blank : ∀ c ∈ [' '], Text.isBlank c = true := List.forall_mem_singleton.mpr rfl
  exact spaced_append first filledBefore [' '] blank nofun (.more operator [' '] blank nofun second)

end Token

namespace Lexeme

open Grammar (tokens)
open Token (Spaced Written IsParen)

theorem ofChars_blank (offset : Nat) (blank : Text.isBlank c = true) (rest : List Char) :
    ofChars offset (c :: rest) = ofChars (offset + c.utf8Size) rest := by
  rw [ofChars,if_pos blank]

theorem ofChars_gap (blank : ∀ c ∈ gap, Text.isBlank c = true) (place : Nat) (rest : List Char) :
    ofChars place (gap ++ rest) = ofChars (place + Text.bytes gap) rest := by
  induction gap generalizing place with
  | nil => rfl
  | cons c gap ih =>
    obtain ⟨first,further⟩ := List.forall_mem_cons.mp blank
    rw [List.cons_append,ofChars_blank place first,ih further,Text.bytes,Nat.add_assoc]

theorem ofChars_scan {place : Nat} (visible : Text.isBlank c = false)
    (scanned : Token.scan place c rest = .ok found) :
    ofChars place (c :: rest) = (ofChars found.stop found.rest).map (⟨found.token,place⟩ :: ·) := by
  rw [ofChars,visible]
  simp only [Bool.false_eq_true,↓reduceIte]
  split
  next fault refused =>
    rw [scanned] at refused
    cases refused
  next other accepted =>
    rw [scanned] at accepted
    cases accepted
    cases ofChars found.stop found.rest <;> rfl

-- The text gives the tokens wherever it is parted from what follows.
def Cut (text : List Char) (taken : List Token) : Prop :=
  ∀ place rest, Token.Parted rest → ∃ lexemes after, tokens lexemes = taken ∧
    ofChars place (text ++ rest) = (ofChars after rest).map (lexemes ++ ·)

theorem cut_nil : Cut [] [] := by
  intro place rest _
  refine ⟨[],place,rfl,?_⟩
  rw [List.nil_append]
  cases ofChars place rest <;> rfl

theorem cut_scans {token : Token} (scans : Token.Scans token text) : Cut text [token] := by
  intro place rest parted
  obtain ⟨c,more,rfl,visible,scanned⟩ := scans
  obtain ⟨stop,found⟩ := scanned place rest parted
  refine ⟨[⟨token,place⟩],stop,rfl,?_⟩
  rw [List.cons_append,ofChars_scan visible found]
  rfl

theorem cut_blanks (blank : ∀ c ∈ gap, Text.isBlank c = true) (cut : Cut text taken) : Cut (gap ++ text) taken := by
  intro place rest parted
  rw [List.append_assoc,ofChars_gap blank]
  exact cut _ rest parted

theorem cut_parenthesis {token : Token} (visible : Text.isBlank c = false)
    (scanned : ∀ place rest, Token.scan place c rest = .ok ⟨token,place + 1,rest⟩) (cut : Cut text taken) :
    Cut (c :: text) (token :: taken) := by
  intro place rest parted
  obtain ⟨lexemes,after,same,found⟩ := cut (place + 1) rest parted
  refine ⟨⟨token,place⟩ :: lexemes,after,by simp [tokens,← same],?_⟩
  rw [List.cons_append,ofChars_scan visible (scanned place _),found]
  cases ofChars after rest <;> rfl

theorem cut_append (first : Cut front before) (second : Cut behind after)
    (parted : ∀ rest, Token.Parted (behind ++ rest)) : Cut (front ++ behind) (before ++ after) := by
  intro place rest ends
  obtain ⟨left,middle,sameLeft,cutLeft⟩ := first place (behind ++ rest) (parted rest)
  obtain ⟨right,stop,sameRight,cutRight⟩ := second middle rest ends
  refine ⟨left ++ right,stop,by simp [tokens,← sameLeft,← sameRight],?_⟩
  rw [List.append_assoc,cutLeft,cutRight]
  cases ofChars stop rest with
  | error fault => rfl
  | ok more => simp [Except.map]

theorem spaced_cut (spaced : Spaced taken text) : Cut text taken := by
  induction spaced with
  | none => exact cut_nil
  | one spells => exact cut_scans (Token.spells_scans spells)
  | @more token text next tokens behind spells gap blank apart further ih =>
    have second := cut_blanks blank ih
    by_cases paren : IsParen token
    · obtain ⟨c,rfl,_,visible,scanned⟩ := Token.spells_parenthesis spells paren
      exact cut_parenthesis visible scanned second
    · apply cut_append (cut_scans (Token.spells_scans spells)) second
      intro rest
      cases gap with
      | cons c gap => exact Token.parted_cons (.inl (blank c (List.mem_cons_self ..)))
      | nil =>
        obtain ⟨c,more,rfl,_,shape⟩ := Token.spaced_front further
        exact Token.parted_cons (.inr (shape ((apart rfl).resolve_left paren)))

theorem ofChars_blanks (blank : ∀ c ∈ gap, Text.isBlank c = true) (place : Nat) : ofChars place gap = .ok [] := by
  rw [← List.append_nil gap,ofChars_gap blank,ofChars]

theorem written_ofChars (written : Written taken rule) (place : Nat) :
    ∃ lexemes, ofChars place rule = .ok lexemes ∧ tokens lexemes = taken := by
  obtain ⟨front,back,before,behind,spaced⟩ := written
  have parted := Token.parted_blanks behind
  obtain ⟨lexemes,after,same,found⟩ := cut_blanks before (spaced_cut spaced) place _ parted
  refine ⟨lexemes,?_,same⟩
  rw [← List.append_assoc,found,ofChars_blanks behind]
  simp [Except.map]

end Lexeme

namespace Condition

open Grammar (tokens Agrees)
open Token (Written)

-- The same condition, or faults of one kind. A word that is no attribute is the same word.
inductive SameAnswer : Except Fault Condition → Except Fault Condition → Prop where
  | ok (condition : Condition) : SameAnswer (.ok condition) (.ok condition)
  | syntactic (cause cause' : SyntaxFault) : SameAnswer (.error (.syntactic cause)) (.error (.syntactic cause'))
  | unknownAttribute (name : String) :
      SameAnswer (.error (.unknownAttribute name)) (.error (.unknownAttribute name))
  | tooDeep : SameAnswer (.error .tooDeep) (.error .tooDeep)

theorem agrees_answer (agrees : Agrees catalog catalog alike (· = ·) answer answer') : SameAnswer answer answer' := by
  cases agrees with
  | ok results => exact results ▸ .ok _
  | missing _ differ => exact absurd rfl differ
  | error faults =>
    cases faults with
    | unexpectedEnd | unexpectedToken | unclosedParen => exact .syntactic _ _
    | unknownAttribute => exact .unknownAttribute _
    | tooDeep => exact .tooDeep

theorem read_written (written : Written taken rule.toList) (nonempty : taken ≠ []) :
    ∃ lexemes, tokens lexemes = taken ∧ ∀ catalog, read catalog rule = ofLexemes catalog lexemes := by
  have spaced := Token.written_trim written
  obtain ⟨token,more,rfl⟩ := List.exists_cons_of_ne_nil nonempty
  obtain ⟨c,rest,whole,_⟩ := Token.spaced_front spaced
  obtain ⟨lexemes,cut,same⟩ := Lexeme.written_ofChars (Token.spaced_written spaced) 0
  refine ⟨lexemes,same,?_⟩
  intro catalog
  unfold read
  rw [whole] at cut ⊢
  dsimp only
  rw [cut]

theorem read_empty (written : Written [] rule.toList) (catalog : Catalog) :
    read catalog rule = .error (.syntactic .emptyRule) := by
  have spaced := Token.written_trim written
  unfold read
  generalize Text.trim rule.toList = text at spaced
  cases spaced
  rfl

theorem tokens_correspond (same : tokens lexemes = tokens lexemes') :
    List.Forall₂ (fun one other : Lexeme => one.token = other.token) lexemes lexemes' := by
  have equal : List.Forall₂ (· = ·) (tokens lexemes) (tokens lexemes') := List.forall₂_eq_eq_eq ▸ same
  exact List.forall₂_map_right_iff.mp (List.forall₂_map_left_iff.mp equal)

-- Two texts of the same tokens are cut into these tokens and answered alike, for any catalog.
theorem layout_free (written : Written taken rule.toList) (written' : Written taken rule'.toList) :
    (∀ place, (∃ lexemes, Lexeme.ofChars place rule.toList = .ok lexemes ∧ tokens lexemes = taken) ∧
      ∃ lexemes, Lexeme.ofChars place (Text.trim rule.toList) = .ok lexemes ∧ tokens lexemes = taken) ∧
    ∀ catalog, SameAnswer (read catalog rule) (read catalog rule') := by
  constructor
  · intro place
    have trimmed := Token.spaced_written (Token.written_trim written)
    exact ⟨Lexeme.written_ofChars written place,Lexeme.written_ofChars trimmed place⟩
  · intro catalog
    by_cases empty : taken = []
    · subst empty
      rw [read_empty written,read_empty written']
      exact .syntactic _ _
    · obtain ⟨lexemes,same,reads⟩ := read_written written empty
      obtain ⟨lexemes',same',reads'⟩ := read_written written' empty
      rw [reads,reads']
      apply agrees_answer
      exact ofLexemes_agrees (fun _ => id) (fun _ _ => id) (tokens_correspond (same.trans same'.symm))

-- A number has several texts, one equality sign is as good as two, and a parenthesis needs no room.
theorem age_equals_layout_free :
    ∃ taken, Written taken "(age = 3e1)".toList ∧ Written taken "\t( age ==\n30.0 ) ".toList ∧
      ∀ catalog, SameAnswer (read catalog "(age = 3e1)") (read catalog "\t( age ==\n30.0 ) ") := by
  obtain ⟨n,short⟩ : ∃ n, Numeral.toDouble ⟨false,3,1⟩ = n := ⟨_,rfl⟩
  have long : Numeral.toDouble ⟨false,300,-1⟩ = n := by rw [← short]; decide +kernel
  have finite : n.isFinite = true := by rw [← short]; decide +kernel
  have age : Token.Spells (.word "age") "age".toList := .word ⟨⟨rfl,List.all_eq_true.mp rfl⟩,by decide⟩
  have single (c : Char) (blank : Text.isBlank c = true) : ∀ d ∈ [c], Text.isBlank d = true :=
    List.forall_mem_singleton.mpr blank
  have narrow : Token.Spaced [.word "age",.comparator .equal,.number n] "age = 3e1".toList :=
    .more age [' '] (single _ rfl) nofun
      (.more .equalSign [' '] (single _ rfl) nofun (.one (.number rfl nofun short finite)))
  have wide : Token.Spaced [.word "age",.comparator .equal,.number n] "age ==\n30.0".toList :=
    .more age [' '] (single _ rfl) nofun
      (.more (.comparator .equal) ['\n'] (single _ rfl) nofun (.one (.number rfl nofun long finite)))
  have closed := Token.spaced_open (Token.spaced_close narrow nofun) nofun
  have apart : Token.Spaced [.openParen,.word "age",.comparator .equal,.number n,.closeParen]
      "( age ==\n30.0 )".toList :=
    .more .openParen [' '] (single _ rfl) nofun
      (Token.spaced_append wide nofun [' '] (single _ rfl) nofun (.one .closeParen))
  have written := Token.spaced_written closed
  have written' : Written _ "\t( age ==\n30.0 ) ".toList :=
    .around ['\t'] [' '] (single _ rfl) (single _ rfl) apart
  exact ⟨_,written,written',(layout_free written written').2⟩

end Condition

end Eligibility
