import Eligibility.Proofs.Rule.Reading
import Mathlib.Data.List.Forall2

namespace Eligibility

namespace Grammar

open Condition (maxDepth)

-- Faults that say the same about tokens that correspond. A word is unknown for want of a name.
inductive SameFault (catalog : Catalog) (alike : Lexeme → Lexeme → Prop) : Fault → Fault → Prop where
  | unexpectedEnd : SameFault catalog alike (.syntactic .unexpectedEnd) (.syntactic .unexpectedEnd)
  | unexpectedToken (same : alike lexeme lexeme') :
      SameFault catalog alike (.syntactic (.unexpectedToken lexeme)) (.syntactic (.unexpectedToken lexeme'))
  | unclosedParen (opens : lexeme.token = .openParen) (same : alike lexeme lexeme') :
      SameFault catalog alike (.syntactic (.unclosedParen lexeme.offset))
        (.syntactic (.unclosedParen lexeme'.offset))
  | unknownAttribute (unknown : catalog.contains name = false) :
      SameFault catalog alike (.unknownAttribute name) (.unknownAttribute name)
  | tooDeep : SameFault catalog alike .tooDeep .tooDeep

-- The second answer is that of the first, but it is free where the first misses a name and the
-- catalogs differ.
inductive Agrees (small large : Catalog) (alike : Lexeme → Lexeme → Prop) (same : α → α → Prop) :
    Except Fault α → Except Fault α → Prop where
  | ok (results : same result result') : Agrees small large alike same (.ok result) (.ok result')
  | error (faults : SameFault small alike fault fault') :
      Agrees small large alike same (.error fault) (.error fault')
  | missing (unknown : small.contains name = false) (differ : small ≠ large) :
      Agrees small large alike same (.error (.unknownAttribute name)) other

theorem Agrees.bind {same : α → α → Prop} {further : β → β → Prop} {next next' : α → Except Fault β}
    (first : Agrees small large alike same answer answer')
    (behind : ∀ result result', answer = .ok result → same result result' →
      Agrees small large alike further (next result) (next' result')) :
    Agrees small large alike further (answer.bind next) (answer'.bind next') := by
  cases first with
  | ok results => exact behind _ _ rfl results
  | error faults => exact .error faults
  | missing unknown differ => exact .missing unknown differ

def SameStop (alike : Lexeme → Lexeme → Prop) (one other : Condition × List Lexeme) : Prop :=
  one.1 = other.1 ∧ List.Forall₂ alike one.2 other.2

def AgreeingReaders (small large : Catalog) (alike : Lexeme → Lexeme → Prop) (reader reader' : Reader) : Prop :=
  ∀ lexemes lexemes', List.Forall₂ alike lexemes lexemes' →
    Agrees small large alike (SameStop alike) (outcome (reader lexemes)) (outcome (reader' lexemes'))

-- An operand may be read more freely with the second catalog, but not with the same one.
structure RoleWithin (small large : Catalog) (role role' : Role) : Prop where
  value : role = .equalityValue → role' = .equalityValue
  same : small = large → role = role'

theorem outcome_fewer {answer : Except Fault (Reading bound)} (accepted : outcome answer = .ok (condition,rest)) :
    rest.length < bound := by
  cases answer with
  | error fault => cases accepted
  | ok reading => cases accepted; exact reading.fewer

theorem outcome_unknown (inside : Reader) (unknown : ¬(catalog.contains name = true ∨ role = .equalityValue)) :
    outcome (primaryOver catalog inside role (⟨.word name,place⟩ :: rest)) = .error (.unknownAttribute name) := by
  simp [primaryOver,unknown,outcome,Except.map]

theorem limited_agrees (condition : Condition) :
    Agrees small large alike (· = ·) condition.limited condition.limited := by
  unfold Condition.limited
  split
  · exact .ok rfl
  · exact .error .tooDeep

section
variable {small large : Catalog} {alike : Lexeme → Lexeme → Prop}
  (names : ∀ name, small.contains name = true → large.contains name = true)
  (tokens : ∀ one other, alike one other → one.token = other.token)

include names in
theorem rightRole_within (operator : Operator) (left : Condition) :
    RoleWithin small large (rightRole small operator left) (rightRole large operator left) := by
  refine ⟨?_,fun same => same ▸ rfl⟩
  intro value
  obtain ⟨rfl,name,rfl,known⟩ := rightRole_value value
  exact if_pos ⟨rfl,names name known⟩

include tokens in
theorem extend_agrees (joint : Token → Option Operator) (operand operand' : Operator → Condition → Reader)
    (readers : ∀ operator left, AgreeingReaders small large alike (operand operator left) (operand' operator left))
    (left : Condition) (lexemes lexemes' : List Lexeme) (correspond : List.Forall₂ alike lexemes lexemes') :
    Agrees small large alike (SameStop alike) (outcome (extend joint operand left.measured lexemes))
      (outcome (extend joint operand' left.measured lexemes')) := by
  match correspond with
  | .nil =>
    rw [outcome_extend_stop _ _ (stops_nil joint),outcome_extend_stop _ _ (stops_nil joint)]
    exact .ok ⟨rfl,.nil⟩
  | @List.Forall₂.cons _ _ _ lexeme _ rest _ first further =>
    have token := tokens _ _ first
    cases joins : joint lexeme.token with
    | none =>
      rw [outcome_extend_stop _ _ (stops_cons joins),outcome_extend_stop _ _ (stops_cons (token ▸ joins))]
      exact .ok ⟨rfl,.cons first further⟩
    | some operator =>
      rw [outcome_extend_further _ _ joins,outcome_extend_further _ _ (token ▸ joins)]
      apply (readers operator left _ _ further).bind
      rintro ⟨right,after⟩ ⟨_,after'⟩ read ⟨rfl,behind⟩
      have fewer := outcome_fewer read
      apply (limited_agrees _).bind
      rintro joined _ _ rfl
      exact extend_agrees joint operand operand' readers joined after after' behind
termination_by lexemes.length
decreasing_by subst_vars; simp only [List.length_cons]; omega

include tokens in
theorem chain_agrees (joint : Token → Option Operator) (first first' : Reader)
    (operand operand' : Operator → Condition → Reader) (front : AgreeingReaders small large alike first first')
    (readers : ∀ operator left, AgreeingReaders small large alike (operand operator left) (operand' operator left)) :
    AgreeingReaders small large alike (chain joint first operand) (chain joint first' operand') := by
  intro lexemes lexemes' correspond
  rw [outcome_chain,outcome_chain]
  apply (front lexemes lexemes' correspond).bind
  rintro ⟨left,rest⟩ ⟨_,rest'⟩ _ ⟨rfl,further⟩
  exact extend_agrees tokens joint operand operand' readers left rest rest' further

include tokens in
theorem closing_agrees (opens : lexeme.token = .openParen) (opening : alike lexeme lexeme')
    (inner : SameStop alike result result') :
    Agrees small large alike (SameStop alike) (closing lexeme.offset result) (closing lexeme'.offset result') := by
  obtain ⟨condition,rest⟩ := result
  obtain ⟨_,rest'⟩ := result'
  obtain ⟨rfl,further⟩ := inner
  cases further with
  | nil => exact .error (.unclosedParen opens opening)
  | @cons next next' _ _ first behind =>
    obtain ⟨token,place⟩ := next
    obtain ⟨_,place'⟩ := next'
    cases tokens _ _ first
    cases token with
    | closeParen => exact .ok ⟨rfl,behind⟩
    | _ => exact .error (.unclosedParen opens opening)

include names tokens in
theorem primaryOver_agrees (inside inside' : Reader) (readers : AgreeingReaders small large alike inside inside')
    (roles : RoleWithin small large role role') :
    AgreeingReaders small large alike (primaryOver small inside role) (primaryOver large inside' role') := by
  intro lexemes lexemes' correspond
  cases correspond with
  | nil => exact .error .unexpectedEnd
  | @cons lexeme lexeme' rest rest' first further =>
    have token := tokens _ _ first
    by_cases opens : lexeme.token = .openParen
    · rw [outcome_parenthesis inside opens,outcome_parenthesis inside' (token ▸ opens)]
      apply (readers rest rest' further).bind
      rintro result result' _ inner
      exact closing_agrees tokens opens first inner
    · obtain ⟨token,place⟩ := lexeme
      obtain ⟨_,place'⟩ := lexeme'
      cases token
      cases token with
      | number | string | boolean => exact .ok ⟨rfl,further⟩
      | openParen => exact absurd rfl opens
      | connective | comparator | closeParen => exact .error (.unexpectedToken first)
      | word name =>
        by_cases free : large.contains name = true ∨ role' = .equalityValue
        · rw [outcome_operand inside' rfl (fun _ same => Token.word.inj same ▸ free)]
          by_cases known : small.contains name = true ∨ role = .equalityValue
          · rw [outcome_operand inside rfl (fun _ same => Token.word.inj same ▸ known)]
            exact .ok ⟨rfl,further⟩
          · rw [outcome_unknown inside known]
            refine .missing (Bool.eq_false_iff.mpr fun found => known (.inl found)) ?_
            rintro rfl
            exact known (roles.same rfl ▸ free)
        · have unknown : ¬(small.contains name = true ∨ role = .equalityValue) :=
            fun known => free (known.imp (names name) roles.value)
          rw [outcome_unknown inside unknown,outcome_unknown inside' free]
          exact .error (.unknownAttribute (Bool.eq_false_iff.mpr fun found => unknown (.inl found)))

include names tokens in
theorem readerOf_agrees (room : Nat) (within : Within phrase operand)
    (readers : ∀ role role', RoleWithin small large role role' →
      AgreeingReaders small large alike (readerOf small room operand role) (readerOf large room operand role'))
    (roles : RoleWithin small large role role') :
    AgreeingReaders small large alike (readerOf small room phrase role) (readerOf large room phrase role') := by
  induction within generalizing role role' with
  | same => exact readers role role' roles
  | step above inner ih =>
    rw [readerOf_chain small room role above,readerOf_chain large room role' above]
    apply chain_agrees tokens
    · exact ih readers ⟨id,fun _ => rfl⟩
    · intro operator left
      exact ih readers (rightRole_within names operator left)

include names tokens in
theorem primary_agrees (room : Nat) (roles : RoleWithin small large role role') :
    AgreeingReaders small large alike (primary small room role) (primary large room role') := by
  induction room generalizing role role' with
  | zero => exact primaryOver_agrees names tokens _ _ (fun _ _ _ => .error .tooDeep) roles
  | succ room ih =>
    rw [primary_over,primary_over]
    apply primaryOver_agrees names tokens _ _ _ roles
    exact readerOf_agrees names tokens room (within_primary .disjunction) (fun _ _ => ih) ⟨id,fun _ => rfl⟩

end

end Grammar

namespace Condition

open Grammar

def settled (found : Condition × List Lexeme) : Except Fault Condition :=
  match found.2 with
  | [] => .ok found.1
  | next :: _ => .error (.syntactic (.unexpectedToken next))

theorem ofLexemes_settled (catalog : Catalog) (lexemes : List Lexeme) :
    ofLexemes catalog lexemes = (outcome (readerOf catalog maxDepth .disjunction .subject lexemes)).bind settled := by
  unfold ofLexemes
  change _ = (outcome (disjunction catalog (primary catalog maxDepth) lexemes)).bind settled
  cases disjunction catalog (primary catalog maxDepth) lexemes with
  | error fault => rfl
  | ok reading =>
    obtain ⟨condition,rest,fewer⟩ := reading
    cases rest <;> rfl

theorem ofLexemes_agrees (names : ∀ name, small.contains name = true → large.contains name = true)
    (tokens : ∀ one other, alike one other → one.token = other.token)
    (correspond : List.Forall₂ alike lexemes lexemes') :
    Agrees small large alike (· = ·) (ofLexemes small lexemes) (ofLexemes large lexemes') := by
  have subject : RoleWithin small large .subject .subject := ⟨id,fun _ => rfl⟩
  have readers := readerOf_agrees names tokens maxDepth (within_primary .disjunction)
    (fun _ _ => primary_agrees names tokens maxDepth) subject
  rw [ofLexemes_settled,ofLexemes_settled]
  apply (readers lexemes lexemes' correspond).bind
  rintro ⟨condition,rest⟩ ⟨_,rest'⟩ _ ⟨rfl,further⟩
  cases further with
  | nil => exact .ok rfl
  | cons first behind => exact .error (.unexpectedToken first)

-- Where the tokens stand at the same places, even the faults are the same.
theorem agrees_equal {answer answer' : Except Fault α}
    (agrees : Agrees small large (· = ·) (· = ·) answer answer') :
    answer' = answer ∨ ∃ name, answer = .error (.unknownAttribute name) := by
  cases agrees with
  | ok results => exact .inl (congrArg Except.ok results.symm)
  | missing => exact .inr ⟨_,rfl⟩
  | error faults =>
    cases faults with
    | unexpectedToken same | unclosedParen _ same => exact .inl (same ▸ rfl)
    | unexpectedEnd | unknownAttribute | tooDeep => exact .inl rfl

theorem agrees_unknown {same : α → α → Prop} {answer' : Except Fault α}
    (agrees : Agrees small large alike same (.error (.unknownAttribute name)) answer') :
    small.contains name = false := by
  cases agrees with
  | error faults => cases faults; assumption
  | missing unknown => exact unknown

-- A catalog with further names reads every rule in the same way, fault and place included, unless
-- the rule has a word that was missing.
theorem read_larger (small large : Catalog)
    (names : ∀ name, small.contains name = true → large.contains name = true) (rule : String) :
    ((∀ name, read small rule ≠ .error (.unknownAttribute name)) → read large rule = read small rule) ∧
    ∀ name, read small rule = .error (.unknownAttribute name) → small.contains name = false := by
  unfold read
  cases Text.trim rule.toList with
  | nil => exact ⟨fun _ => rfl,nofun⟩
  | cons c rest =>
    dsimp only
    cases Lexeme.ofChars 0 (c :: rest) with
    | error cause => exact ⟨fun _ => rfl,nofun⟩
    | ok lexemes =>
      have agrees : Agrees small large (· = ·) (· = ·) (ofLexemes small lexemes) (ofLexemes large lexemes) :=
        ofLexemes_agrees names (fun _ _ same => same ▸ rfl) (List.forall₂_same.mpr fun _ _ => rfl)
      constructor
      · intro found
        rcases agrees_equal agrees with same | ⟨name,missed⟩
        · exact same
        · exact absurd missed (found name)
      · intro name missed
        change ofLexemes small lexemes = _ at missed
        exact agrees_unknown (missed ▸ agrees)

-- Behind an equality a word is a text for the smaller catalog and an attribute for the larger one.
theorem age_salary_read_larger :
    (∀ name, (NameSet.ofList ["age"]).contains name = true → Catalog.standard.contains name = true) ∧
      read Catalog.standard "age == salary" = read (NameSet.ofList ["age"]) "age == salary" := by
  have names : ∀ name, (NameSet.ofList ["age"]).contains name = true → Catalog.standard.contains name = true := by
    intro name known
    rw [NameSet.contains_ofList,List.mem_singleton] at known
    subst known
    decide
  refine ⟨names,(read_larger _ _ names "age == salary").1 ?_⟩
  intro name missed
  have found : read (NameSet.ofList ["age"]) "age == salary" = .ok (.compound (.comparison .equal)
      (.operand (.string "age")) (.operand (.string "salary"))) := by decide +kernel
  rw [found] at missed
  cases missed

end Condition

end Eligibility
