import Eligibility.Proofs.Double.NumberText
import Eligibility.Proofs.Rule.Places
import Eligibility.Verdict

namespace Eligibility

namespace Double

theorem equal_finite {n : Double} (finite : n.isFinite = true) : n.equal n = true := by
  cases n with
  | nan | infinite => cases finite
  | finite negative m => exact beq_self_eq_true _

end Double

namespace Token

theorem spells_reads {n : Double} (spells : Spells (number n) text) : Double.ofChars text = n := by
  cases spells with
  | number reads _ value =>
    have nonempty : text ≠ [] := by
      rintro rfl
      cases reads
    rw [Double.ofChars_numeral nonempty (decimal_chars reads),Double.ofChars.decimalOrNaN,reads]
    exact value

-- A number that is written in digits, points, exponents and signs is the number of a token, unless it
-- is too large or begins with a plus.
theorem reads_spells {text : List Char} (nonempty : text ≠ []) (inside : ∀ c ∈ text, isNumeralChar c = true)
    (noPlus : text.head? ≠ some '+') (finite : (Double.ofChars text).isFinite = true) :
    Spells (number (Double.ofChars text)) text := by
  rw [Double.ofChars_numeral nonempty inside] at finite ⊢
  unfold Double.ofChars.decimalOrNaN at finite ⊢
  cases reads : Numeral.read? text with
  | none =>
    rw [reads] at finite
    cases finite
  | some decimal =>
    rw [reads] at finite
    exact .number reads noPlus rfl finite

end Token

namespace Grammar

-- A number is written as itself, however many parentheses are around it.
theorem derives_number (derives : Derives catalog phrase taken condition) (number : condition = .operand (.number n))
    (bare : .openParen ∉ taken) : taken = [.number n] := by
  induction derives with
  | number => cases number; rfl
  | string | boolean | knownWord | joined | bareText => cases number
  | parenthesized => exact absurd (List.mem_cons_self ..) bare
  | single _ _ ih => exact ih number bare

end Grammar

namespace Lexeme

open Grammar (tokens)

theorem single_spells (visible : ∀ c ∈ text, Text.isBlank c = false) (cut : ofChars 0 text = .ok [lexeme]) :
    Token.Spells lexeme.token text := by
  have blankless (part : List Char) (inside : ∀ c ∈ part, c ∈ text) (blank : ∀ c ∈ part, Text.isBlank c = true) :
      part = [] := by
    cases part with
    | nil => rfl
    | cons c more =>
      have first : c ∈ c :: more := List.mem_cons_self ..
      cases (blank c first).symm.trans (visible c (inside c first))
  have stands : Stands 0 text ([] ++ lexeme :: []) := ofChars_stands.mp cut
  obtain ⟨front,spelling,gap,rest,placed⟩ := stands_placed stands
  have parts := placed.parts
  have noFront := blankless front (fun c member => by rw [parts]; simp [member]) (placed.first rfl)
  have noGap := blankless gap (fun c member => by rw [parts]; simp [member]) placed.blank
  rw [noFront,noGap,placed.last rfl,List.nil_append,List.nil_append,List.append_nil] at parts
  rw [parts]
  exact placed.spells

end Lexeme

namespace Condition

open Grammar (tokens)
open Token (Spells isNumeralChar)

theorem number_spells (inside : ∀ c ∈ text.toList, isNumeralChar c = true)
    (accepted : read catalog text = .ok (.operand (.number n))) : Spells (.number n) text.toList := by
  have visible : ∀ c ∈ text.toList, Text.isBlank c = false :=
    fun c member => Token.numeralChar_visible (inside c member)
  obtain ⟨lexemes,cut,fits⟩ := read_cut accepted
  rw [Text.trim_visible visible] at cut
  have bare : Token.openParen ∉ tokens lexemes := by
    intro opens
    obtain ⟨lexeme,member,same⟩ := List.mem_map.mp opens
    obtain ⟨spelling,inText,spells⟩ := Lexeme.member_spelled cut member
    rw [same] at spells
    cases spells
    cases inside '(' (inText.subset (List.mem_cons_self ..))
  have single := Grammar.derives_number fits.derives rfl bare
  obtain ⟨lexeme,rfl,token⟩ := List.map_eq_singleton_iff.mp single
  rw [← token]
  exact Lexeme.single_spells visible cut

theorem spells_number (spells : Spells (.number n) text.toList) (catalog : Catalog) :
    read catalog text = .ok (.operand (.number n)) := by
  have written := Token.spaced_written (.one spells)
  obtain ⟨lexemes,same,reads⟩ := read_written written (List.cons_ne_nil _ _)
  rw [reads,ofLexemes_exact,same]
  have operand : Grammar.Derives catalog .primary [.number n] (.operand (.number n)) := .number n
  have fits := Grammar.Fits.operand (Nat.zero_le maxDepth) rfl operand
  exact ⟨Grammar.derives_within (Grammar.within_primary .disjunction) operand,fits.shallow,fits.nested⟩

theorem literal_equal (spells : Spells (.number n) literal) :
    (Value.number n).looseEqual (.string (String.ofList literal)) = true ∧
      (Value.string (String.ofList literal)).looseEqual (.number n) = true := by
  have same : (Value.string (String.ofList literal)).toNumber = n := by
    rw [Value.toNumber,String.toList_ofList]
    exact Token.spells_reads spells
  have equal := Double.equal_finite (Token.spells_finite spells)
  constructor
  · change n.equal (Value.string (String.ofList literal)).toNumber = true
    rwa [same]
  · change (Value.string (String.ofList literal)).toNumber.equal n = true
    rwa [same]

-- Of the texts without a leading plus those are rules that read as a finite number.
theorem literals_coerced :
    (∀ catalog text, text ≠ "" → (∀ c ∈ text.toList, isNumeralChar c = true) → text.toList.head? ≠ some '+' →
      ((∃ n, read catalog text = .ok (.operand (.number n))) ↔ (Double.ofChars text.toList).isFinite = true) ∧
      ∀ n, read catalog text = .ok (.operand (.number n)) → n = Double.ofChars text.toList) ∧
    ∀ place c rest found n literal, Token.scan place c rest = .ok found → found.token = .number n →
      c :: rest = literal ++ found.rest →
      (Value.number n).looseEqual (.string (String.ofList literal)) = true ∧
        (Value.string (String.ofList literal)).looseEqual (.number n) = true := by
  constructor
  · intro catalog text nonempty inside noPlus
    have number (n : Double) (accepted : read catalog text = .ok (.operand (.number n))) :
        n = Double.ofChars text.toList := (Token.spells_reads (number_spells inside accepted)).symm
    refine ⟨⟨?_,?_⟩,number⟩
    · rintro ⟨n,accepted⟩
      rw [← number n accepted]
      exact Token.spells_finite (number_spells inside accepted)
    · intro finite
      have filled : text.toList ≠ [] := fun empty => nonempty (String.toList_eq_nil_iff.mp empty)
      exact ⟨_,spells_number (Token.reads_spells filled inside noPlus finite) catalog⟩
  · intro place c rest found n literal accepted token whole
    obtain ⟨spelling,taken⟩ := Token.scan_taken accepted
    have spells := taken.spells
    rw [token,← List.append_cancel_right (whole.symm.trans taken.text)] at spells
    exact literal_equal spells

theorem minus_five_coerced :
    ∃ n, read Catalog.standard "-.5e+1" = .ok (.operand (.number n)) ∧ n = Double.ofChars "-.5e+1".toList := by
  have inside : ∀ c ∈ "-.5e+1".toList, isNumeralChar c = true := List.all_eq_true.mp rfl
  obtain ⟨alike,same⟩ := literals_coerced.1 Catalog.standard "-.5e+1" (by decide) inside (by decide)
  obtain ⟨n,accepted⟩ := alike.mpr (by decide +kernel)
  exact ⟨n,accepted,same n accepted⟩

-- A sign behind a digit is not part of the numeral, and a numeral beyond the doubles is none.
example : read Catalog.standard "1-2" = .error (.syntactic (.unexpectedToken ⟨.number (Double.ofChars "-2".toList),1⟩)) ∧
    read Catalog.standard "1e999" = .error (.syntactic (.invalidNumber "1e999" 0)) := by decide +kernel

end Condition

end Eligibility
