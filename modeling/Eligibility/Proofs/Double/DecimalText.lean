import Eligibility.Double.Reading
import Eligibility.Proofs.Text

namespace Eligibility

namespace Numeral

def Digits (text : List Char) : Prop := text ≠ [] ∧ ∀ c ∈ text, c.isDigit = true

inductive Sign : List Char → Prop where
  | none : Sign []
  | plus : Sign ['+']
  | minus : Sign ['-']

-- Digits alone, a point behind or among digits, or a point in front of them.
inductive Significand : List Char → Prop where
  | whole (digits : Digits text) : Significand text
  | point (digits : Digits whole) (more : ∀ c ∈ fraction, c.isDigit = true) : Significand (whole ++ '.' :: fraction)
  | fraction (digits : Digits fraction) : Significand ('.' :: fraction)

inductive Scale : List Char → Prop where
  | none : Scale []
  | power (marks : mark = 'e' ∨ mark = 'E') (sign : Sign signed) (digits : Digits power) :
      Scale (mark :: (signed ++ power))

inductive Form : List Char → Prop where
  | parts (sign : Sign signed) (significand : Significand body) (scale : Scale scaled) :
      Form (signed ++ (body ++ scaled))

section

variable {text rest fraction whole : List Char}

theorem takeSign_signed (text : List Char) : ∃ signed, Sign signed ∧ text = signed ++ (takeSign text).2 := by
  unfold takeSign
  split
  · exact ⟨['+'],.plus,rfl⟩
  · exact ⟨['-'],.minus,rfl⟩
  · exact ⟨[],.none,rfl⟩

-- A sign is taken off if none stands behind it.
theorem takeSign_append (sign : Sign signed) (front : c ≠ '+' ∧ c ≠ '-') :
    (takeSign (signed ++ c :: rest)).2 = c :: rest := by
  cases sign with
  | plus | minus => rfl
  | none =>
    unfold takeSign
    split
    next plus => exact absurd (List.cons.inj plus).1 front.1
    next minus => exact absurd (List.cons.inj minus).1 front.2
    next => rfl

theorem digit_noSign (digit : c.isDigit = true) : c ≠ '+' ∧ c ≠ '-' :=
  ⟨Text.ne_of_kind digit rfl,Text.ne_of_kind digit rfl⟩

theorem power_exact : (∃ power, power? text = some power) ↔
    ∃ signed digits, text = signed ++ digits ∧ Sign signed ∧ Digits digits := by
  constructor
  · rintro ⟨power,found⟩
    obtain ⟨signed,sign,parted⟩ := takeSign_signed text
    refine ⟨signed,(takeSign text).2,parted,sign,?_⟩
    unfold power? at found
    dsimp only at found
    split at found
    · cases found
    next digits =>
      simp only [Bool.or_eq_true,Bool.not_eq_true',not_or,Bool.not_eq_false,List.all_eq_true] at digits
      exact ⟨fun empty => digits.1 (by rw [empty]; rfl),digits.2⟩
  · rintro ⟨signed,run,rfl,sign,nonempty,digits⟩
    obtain ⟨c,more,rfl⟩ := List.exists_cons_of_ne_nil nonempty
    have taken : (takeSign (signed ++ c :: more)).2 = c :: more :=
      takeSign_append sign (digit_noSign (digits c (List.mem_cons_self ..)))
    have all : (c :: more).all Char.isDigit = true := List.all_eq_true.mpr digits
    unfold power?
    dsimp only
    rw [taken,all]
    exact ⟨_,rfl⟩

theorem scale_exact : (∃ power, scale? text = some power) ↔ Scale text := by
  constructor
  · rintro ⟨power,found⟩
    unfold scale? at found
    split at found
    · exact .none
    · split at found
      next marks =>
        obtain ⟨signed,run,rfl,sign,digits⟩ := power_exact.mp ⟨power,found⟩
        exact .power (by simpa using marks) sign digits
      · cases found
  · intro scale
    cases scale with
    | none => exact ⟨0,rfl⟩
    | @power mark signed run marks sign digits =>
      have marked : (mark == 'e' || mark == 'E') = true := by simpa using marks
      obtain ⟨power,found⟩ := power_exact.mpr ⟨signed,run,rfl,sign,digits⟩
      exact ⟨power,(if_pos marked).trans found⟩

theorem scale_ends (scale : Scale text) : Text.Ends Char.isDigit text := by
  cases scale with
  | none => exact Text.ends_nil _
  | power marks =>
    apply Text.ends_cons
    rcases marks with rfl | rfl <;> rfl

theorem unsigned_whole (digits : Digits whole) (scale : Scale rest) : ∃ d, unsigned? (whole ++ rest) = some d := by
  obtain ⟨power,scaled⟩ := scale_exact.mpr scale
  have taken := Text.takeWhile_run digits.2 (scale_ends scale)
  have left := Text.dropWhile_run digits.2 (scale_ends scale)
  have filled : whole.isEmpty = false := by simpa using digits.1
  unfold unsigned?
  dsimp only
  rw [taken,left]
  cases scale with
  | none => simp [filled,scaled]
  | power marks => rcases marks with rfl | rfl <;> simp [filled,scaled]

theorem unsigned_point (inWhole : ∀ c ∈ whole, c.isDigit = true) (inFraction : ∀ c ∈ fraction, c.isDigit = true)
    (either : whole ≠ [] ∨ fraction ≠ []) (scale : Scale rest) :
    ∃ d, unsigned? (whole ++ '.' :: (fraction ++ rest)) = some d := by
  obtain ⟨power,scaled⟩ := scale_exact.mpr scale
  have pointed : Text.Ends Char.isDigit ('.' :: (fraction ++ rest)) := Text.ends_cons rfl
  have there : (whole.isEmpty && fraction.isEmpty) = false := by
    rcases either with there | there <;> simp [there]
  unfold unsigned?
  simp only [Text.takeWhile_run inWhole pointed,Text.dropWhile_run inWhole pointed,
    Text.takeWhile_run inFraction (scale_ends scale),Text.dropWhile_run inFraction (scale_ends scale),there,scaled]
  exact ⟨_,rfl⟩

theorem unsigned_exact : (∃ d, unsigned? text = some d) ↔
    ∃ body scaled, text = body ++ scaled ∧ Significand body ∧ Scale scaled := by
  constructor
  · rintro ⟨d,found⟩
    have digits (run : List Char) : ∀ c ∈ run.takeWhile Char.isDigit, c.isDigit = true :=
      List.all_eq_true.mp List.all_takeWhile
    have parts : text.takeWhile Char.isDigit ++ text.dropWhile Char.isDigit = text := List.takeWhile_append_dropWhile
    unfold unsigned? at found
    dsimp only at found
    split at found
    next more pointed =>
      obtain ⟨filled,found⟩ := Option.ite_none_left_eq_some.mp found
      obtain ⟨power,scaled,_⟩ := Option.map_eq_some_iff.mp found
      refine ⟨text.takeWhile Char.isDigit ++ '.' :: more.takeWhile Char.isDigit,more.dropWhile Char.isDigit,?_,?_,
        scale_exact.mp ⟨power,scaled⟩⟩
      · rw [List.append_assoc,List.cons_append,List.takeWhile_append_dropWhile,← pointed,parts]
      · by_cases noWhole : text.takeWhile Char.isDigit = []
        · rw [noWhole] at filled ⊢
          refine .fraction ⟨?_,digits more⟩
          rintro noFraction
          simp [noFraction] at filled
        · exact .point ⟨noWhole,digits text⟩ (digits more)
    next noPoint =>
      obtain ⟨filled,found⟩ := Option.ite_none_left_eq_some.mp found
      obtain ⟨power,scaled,_⟩ := Option.map_eq_some_iff.mp found
      refine ⟨_,_,parts.symm,.whole ⟨?_,digits text⟩,scale_exact.mp ⟨power,scaled⟩⟩
      intro noWhole
      simp [noWhole] at filled
  · rintro ⟨body,scaled,rfl,significand,scale⟩
    cases significand with
    | whole digits => exact unsigned_whole digits scale
    | point digits more =>
      rw [List.append_assoc,List.cons_append]
      exact unsigned_point digits.2 more (.inl digits.1) scale
    | fraction digits => exact @unsigned_point _ _ [] nofun digits.2 (.inr digits.1) scale

theorem significand_front (significand : Significand text) :
    ∃ c more, text = c :: more ∧ (c.isDigit = true ∨ c = '.') := by
  cases significand with
  | whole digits =>
    obtain ⟨c,more,rfl⟩ := List.exists_cons_of_ne_nil digits.1
    exact ⟨c,more,rfl,.inl (digits.2 c (List.mem_cons_self ..))⟩
  | point digits more =>
    obtain ⟨c,more,rfl⟩ := List.exists_cons_of_ne_nil digits.1
    exact ⟨c,_,rfl,.inl (digits.2 c (List.mem_cons_self ..))⟩
  | fraction digits => exact ⟨'.',_,rfl,.inr rfl⟩

theorem read_unsigned (text : List Char) :
    (∃ n, read? text = some n) ↔ ∃ d, unsigned? (takeSign text).2 = some d := by
  unfold read?
  dsimp only
  cases unsigned? (takeSign text).2 <;> simp

theorem read_exact : (∃ n, read? text = some n) ↔ Form text := by
  rw [read_unsigned]
  constructor
  · intro unsigned
    obtain ⟨body,scaled,same,significand,scale⟩ := unsigned_exact.mp unsigned
    obtain ⟨signed,sign,parted⟩ := takeSign_signed text
    rw [parted,same]
    exact .parts sign significand scale
  · rintro (⟨sign,significand,scale⟩)
    have unsigned := unsigned_exact.mpr ⟨_,_,rfl,significand,scale⟩
    obtain ⟨c,more,rfl,front⟩ := significand_front significand
    have noSign : c ≠ '+' ∧ c ≠ '-' := by
      rcases front with digit | rfl
      · exact digit_noSign digit
      · decide
    rw [List.cons_append,takeSign_append sign noSign]
    exact unsigned

end

end Numeral

end Eligibility
