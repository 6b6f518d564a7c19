import Eligibility.Double.Reading
import Eligibility.Proofs.Rule.Numerals

namespace Eligibility

namespace Text

theorem order_codes (a b : Char) : a ≤ b ↔ a.toNat ≤ b.toNat := by
  rw [Char.le_def,UInt32.le_iff_toNat_le]
  rfl

theorem digit_codes : c.isDigit = true ↔ '0' ≤ c ∧ c ≤ '9' := by simp [Char.isDigit,Char.le_def]

theorem digitValue_exact : digitValue? c = some value ↔
    ('0' ≤ c ∧ c ≤ '9' ∧ c.toNat = value + '0'.toNat) ∨ ('a' ≤ c ∧ c ≤ 'f' ∧ c.toNat + 10 = value + 'a'.toNat) ∨
      ('A' ≤ c ∧ c ≤ 'F' ∧ c.toNat + 10 = value + 'A'.toNat) := by
  simp only [digitValue?,digit_codes,order_codes,Char.reduceToNat]
  constructor
  · intro found
    repeat'
      split at found
    all_goals
      cases found
    all_goals omega
  · intro spelled
    repeat'
      split
    all_goals
      simp only [Option.some.injEq,reduceCtorEq]
      omega

end Text

namespace Double

theorem orInfinite_number (negative : Bool) (m : Option Magnitude) : orInfinite negative m ≠ .nan := by
  cases m <;> nofun

end Double

namespace Radix

def Marked : Radix → Char → Prop
  | hexadecimal, mark => mark = 'x' ∨ mark = 'X'
  | octal, mark => mark = 'o' ∨ mark = 'O'
  | binary, mark => mark = 'b' ∨ mark = 'B'

def Digit : Radix → Char → Prop
  | hexadecimal, c => '0' ≤ c ∧ c ≤ '9' ∨ 'a' ≤ c ∧ c ≤ 'f' ∨ 'A' ≤ c ∧ c ≤ 'F'
  | octal, c => '0' ≤ c ∧ c ≤ '7'
  | binary, c => '0' ≤ c ∧ c ≤ '1'

variable {radix : Radix} {mark : Char} {text : List Char}

theorem ofMark_exact : ofMark? mark = some radix ↔ radix.Marked mark := by
  constructor
  · intro found
    unfold ofMark? at found
    repeat'
      split at found
    all_goals cases found
    all_goals assumption
  · intro marked
    cases radix
    all_goals
      rcases marked with rfl | rfl <;> rfl

theorem digit_exact (radix : Radix) (c : Char) :
    (∃ value, radix.digit? c = some value) ↔ radix.Digit c := by
  simp only [digit?,Option.filter_eq_some_iff,Text.digitValue_exact,decide_eq_true_eq]
  constructor
  · rintro ⟨value,spelled,within⟩
    cases radix
    all_goals
      simp only [Digit,base,Text.order_codes,Char.reduceToNat] at spelled within ⊢
      omega
  · intro digit
    cases radix with
    | hexadecimal =>
      simp only [Digit,base,Text.order_codes,Char.reduceToNat] at digit ⊢
      rcases digit with decimal | small | large
      · exact ⟨c.toNat - 48,by omega⟩
      · exact ⟨c.toNat - 87,by omega⟩
      · exact ⟨c.toNat - 55,by omega⟩
    | octal | binary =>
      simp only [Digit,base,Text.order_codes,Char.reduceToNat] at digit ⊢
      exact ⟨c.toNat - 48,by omega⟩

def valueOf (radix : Radix) (c : Char) : Nat := (radix.digit? c).getD 0

theorem valueOf_below (digit : radix.Digit c) : radix.valueOf c < radix.base := by
  obtain ⟨value,found⟩ := (radix.digit_exact c).mpr digit
  rw [valueOf,found]
  exact of_decide_eq_true (Option.filter_eq_some_iff.mp found).2

theorem digits_read (all : ∀ c ∈ text, radix.Digit c) : text.mapM radix.digit? = some (text.map radix.valueOf) := by
  induction text with
  | nil => rfl
  | cons c text ih =>
    obtain ⟨first,rest⟩ := List.forall_mem_cons.mp all
    obtain ⟨value,found⟩ := (radix.digit_exact c).mpr first
    rw [List.mapM_cons,ih rest,found,List.map_cons,valueOf,found]
    rfl

theorem digits_refused (other : ¬∀ c ∈ text, radix.Digit c) : text.mapM radix.digit? = none := by
  induction text with
  | nil => exact absurd nofun other
  | cons c text ih =>
    rw [List.mapM_cons]
    cases found : radix.digit? c with
    | none => rfl
    | some value =>
      have digit := (radix.digit_exact c).mp ⟨value,found⟩
      rw [ih fun all => other (List.forall_mem_cons.mpr ⟨digit,all⟩)]
      rfl

theorem toDouble_number (radix : Radix) (text : List Char) :
    radix.toDouble text ≠ .nan ↔ text ≠ [] ∧ ∀ c ∈ text, radix.Digit c := by
  unfold toDouble
  by_cases all : ∀ c ∈ text, radix.Digit c
  · rw [digits_read all]
    cases text with
    | nil => simp
    | cons c text =>
      exact ⟨fun _ => ⟨List.cons_ne_nil c text,all⟩,fun _ => Double.orInfinite_number _ _⟩
  · rw [digits_refused all]
    simp [all]

end Radix

namespace Numeral

theorem toDouble_number (n : Numeral) : n.toDouble ≠ .nan := by
  unfold toDouble Decimal.toDouble Double.ofRatio
  split
  · nofun
  · split
    · split
      · nofun
      · exact Double.orInfinite_number _ _
    · split
      · nofun
      · exact Double.orInfinite_number _ _

end Numeral

namespace Double

-- What stands for a number once the white space around it is gone.
inductive NumberText : List Char → Prop where
  | blank : NumberText []
  | infinity (sign : signed = [] ∨ signed = ['+'] ∨ signed = ['-']) : NumberText (signed ++ "Infinity".toList)
  | radix (marked : Radix.Marked radix mark) (nonempty : digits ≠ []) (all : ∀ c ∈ digits, radix.Digit c) :
      NumberText ('0' :: mark :: digits)
  | decimal (form : Numeral.Form text) : NumberText text

theorem decimalOrNaN_number (text : List Char) : ofChars.decimalOrNaN text ≠ .nan ↔ Numeral.Form text := by
  rw [← Numeral.read_exact]
  unfold ofChars.decimalOrNaN
  cases Numeral.read? text with
  | none => simp
  | some n => simp [Numeral.toDouble_number n]

-- The letters of the other numeral systems stand in no decimal.
theorem numeral_unmarked (inside : Token.isNumeralChar mark = true) (radix : Radix) : ¬radix.Marked mark := by
  intro marked
  cases radix
  all_goals
    rcases marked with rfl | rfl <;> cases inside

-- A text of nothing but what numerals have is a decimal or no number.
theorem ofChars_numeral {text : List Char} (nonempty : text ≠ [])
    (inside : ∀ c ∈ text, Token.isNumeralChar c = true) :
    ofChars text = ofChars.decimalOrNaN text := by
  have visible : Text.trim text = text :=
    Text.trim_visible fun c member => Token.numeralChar_visible (inside c member)
  have noLetter (other : List Char) (letter : 'I' ∈ other) : text ≠ other := by
    rintro rfl
    cases inside 'I' letter
  unfold ofChars
  rw [visible]
  split
  · exact absurd rfl nonempty
  next mark rest =>
    cases found : Radix.ofMark? mark with
    | none => rfl
    | some radix => exact absurd (Radix.ofMark_exact.mp found) (numeral_unmarked (inside mark (by simp)) radix)
  next =>
    rw [if_neg (not_or.mpr ⟨noLetter _ (by decide),noLetter _ (by decide)⟩),if_neg (noLetter _ (by decide))]

theorem form_unmarked (form : Numeral.Form ('0' :: mark :: rest)) (radix : Radix) : ¬radix.Marked mark := by
  obtain ⟨n,found⟩ := Numeral.read_exact.mpr form
  exact numeral_unmarked (Token.decimal_chars found mark (by simp)) radix

theorem numberText_zero : NumberText ('0' :: mark :: rest) ↔
    (∃ radix : Radix, radix.Marked mark ∧ rest ≠ [] ∧ ∀ c ∈ rest, radix.Digit c) ∨
      Numeral.Form ('0' :: mark :: rest) := by
  constructor
  · intro number
    generalize same : '0' :: mark :: rest = body at number ⊢
    cases number with
    | blank => cases same
    | infinity sign => rcases sign with rfl | rfl | rfl <;> cases same
    | radix marked nonempty all => cases same; exact .inl ⟨_,marked,nonempty,all⟩
    | decimal form => exact .inr form
  · rintro (⟨radix,marked,nonempty,all⟩ | form)
    · exact .radix marked nonempty all
    · exact .decimal form

theorem marked_number (mark : Char) (rest : List Char) :
    (match Radix.ofMark? mark with
      | some radix => radix.toDouble rest
      | none => ofChars.decimalOrNaN ('0' :: mark :: rest)) ≠ .nan ↔ NumberText ('0' :: mark :: rest) := by
  rw [numberText_zero]
  split
  next radix marks =>
    have marked := Radix.ofMark_exact.mp marks
    rw [Radix.toDouble_number]
    constructor
    · exact fun spelled => .inl ⟨radix,marked,spelled⟩
    · rintro (⟨other,alsoMarked,spelled⟩ | form)
      · cases marks.symm.trans (Radix.ofMark_exact.mpr alsoMarked)
        exact spelled
      · exact absurd marked (form_unmarked form radix)
  next noMark =>
    rw [decimalOrNaN_number]
    constructor
    · exact .inr
    · rintro (⟨radix,marked,_⟩ | form)
      · cases noMark.symm.trans (Radix.ofMark_exact.mpr marked)
      · exact form

theorem unmarked_number (nonempty : text ≠ []) (noZero : ∀ mark rest, text ≠ '0' :: mark :: rest) :
    (if text = "Infinity".toList ∨ text = "+Infinity".toList then infinite false
      else if text = "-Infinity".toList then infinite true
      else ofChars.decimalOrNaN text) ≠ .nan ↔ NumberText text := by
  split
  next plain =>
    refine ⟨fun _ => ?_,fun _ => nofun⟩
    rcases plain with rfl | rfl
    · exact .infinity (.inl rfl)
    · exact .infinity (.inr (.inl rfl))
  next noPlain =>
    split
    next minus =>
      subst minus
      exact ⟨fun _ => .infinity (.inr (.inr rfl)),fun _ => nofun⟩
    next noMinus =>
      rw [decimalOrNaN_number]
      refine ⟨.decimal,fun number => ?_⟩
      cases number with
      | blank => exact absurd rfl nonempty
      | radix => exact absurd rfl (noZero _ _)
      | decimal form => exact form
      | infinity sign =>
        rcases sign with rfl | rfl | rfl
        · exact absurd (.inl rfl) noPlain
        · exact absurd (.inr rfl) noPlain
        · exact absurd rfl noMinus

-- A text is a number just when the grammar says so, and nothing at all is zero.
theorem ofChars_number (text : List Char) :
    (ofChars text ≠ .nan ↔ NumberText (Text.trim text)) ∧
    (Text.trim text = [] → ofChars text = zero) ∧
    (Text.trim text = "Infinity".toList ∨ Text.trim text = "+Infinity".toList → ofChars text = infinite false) ∧
    (Text.trim text = "-Infinity".toList → ofChars text = infinite true) := by
  unfold ofChars
  generalize Text.trim text = body
  refine ⟨?_,?_,?_,?_⟩
  · split
    · exact ⟨fun _ => .blank,fun _ => nofun⟩
    next mark rest => exact marked_number mark rest
    next nonempty noZero => exact unmarked_number nonempty noZero
  · rintro rfl
    rfl
  · rintro (rfl | rfl) <;> rfl
  · rintro rfl
    rfl

end Double

end Eligibility
