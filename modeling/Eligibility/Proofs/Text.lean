import Eligibility.Rule.Lexeme

namespace Eligibility.Text

theorem ne_of_kind {kind : Char → Bool} (inside : kind c = true) (outside : kind mark = false) : c ≠ mark := by
  intro same
  rw [same,outside] at inside
  cases inside

-- No character of the kind stands in front.
def Ends (kind : Char → Bool) (rest : List Char) : Prop :=
  ∀ c more, rest = c :: more → kind c = false

theorem ends_nil (kind : Char → Bool) : Ends kind [] := by
  intro c more front
  cases front

theorem ends_cons (other : kind c = false) : Ends kind (c :: more) := by
  intro first behind front
  cases front
  exact other

theorem takeWhile_front (ends : Ends kind rest) : rest.takeWhile kind = [] := by
  cases rest with
  | nil => rfl
  | cons c more => simp [ends c more rfl]

theorem dropWhile_front (ends : Ends kind rest) : rest.dropWhile kind = rest := by
  cases rest with
  | nil => rfl
  | cons c more => simp [ends c more rfl]

theorem takeWhile_run (run : ∀ c ∈ text, kind c = true) (ends : Ends kind rest) :
    (text ++ rest).takeWhile kind = text := by
  rw [List.takeWhile_append_of_pos run,takeWhile_front ends,List.append_nil]

theorem dropWhile_run (run : ∀ c ∈ text, kind c = true) (ends : Ends kind rest) :
    (text ++ rest).dropWhile kind = rest := by
  rw [List.dropWhile_append_of_pos run,dropWhile_front ends]

theorem dropWhile_gone {text : List Char} (gone : text.dropWhile kind = []) : ∀ c ∈ text, kind c = true := by
  have whole : text.takeWhile kind = text := by
    have parts := List.takeWhile_append_dropWhile (p := kind) (l := text)
    rwa [gone,List.append_nil] at parts
  rw [← whole]
  exact List.all_eq_true.mp List.all_takeWhile

theorem inRanges_listed (ranges : List (Nat × Nat)) (code : Nat) (found : inRanges ranges code = true) :
    code ∈ ranges.flatMap fun range => List.range' range.1 (range.2 + 1 - range.1) := by
  obtain ⟨range,member,first,last⟩ := inRanges_member ranges code found
  exact List.mem_flatMap.mpr ⟨range,member,List.mem_range'_1.mpr ⟨first,by omega⟩⟩

-- There are few enough blanks to look at each.
theorem blank_other {code : Nat} (blank : inRanges blankRanges code = true) :
    inRanges alphabeticRanges code = false ∧ inRanges numericRanges code = false ∧ code ≠ '_'.toNat := by
  have all : ∀ code ∈ blankRanges.flatMap fun range => List.range' range.1 (range.2 + 1 - range.1),
      inRanges alphabeticRanges code = false ∧ inRanges numericRanges code = false ∧ code ≠ '_'.toNat := by
    decide +kernel
  exact all code (inRanges_listed _ _ blank)

theorem ascii_visible {c : Char} (first : 0x21 ≤ c.toNat) (last : c.toNat ≤ 0x7E) : isBlank c = false := by
  cases blank : isBlank c with
  | false => rfl
  | true =>
    have all : ∀ range ∈ blankRanges, range.2 < 0x21 ∨ 0x7E < range.1 := by decide
    obtain ⟨range,member,low,high⟩ := inRanges_member _ _ blank
    have outside := all range member
    omega

theorem wordPart_visible (part : Token.isWordPart c = true) : isBlank c = false := by
  cases blank : isBlank c with
  | false => rfl
  | true =>
    obtain ⟨alphabetic,numeric,other⟩ := blank_other blank
    have different : c ≠ '_' := fun same => other (congrArg Char.toNat same)
    simp [Token.isWordPart,isAlphabetic,isNumeric,alphabetic,numeric,different] at part

theorem ends_visible {text : List Char} (visible : ∀ c ∈ text, isBlank c = false) : Ends isBlank text.reverse := by
  intro c more front
  apply visible
  have member : c ∈ text.reverse := by simp [front]
  exact List.mem_reverse.mp member

theorem ends_append (nonempty : text ≠ []) (ends : Ends kind text) : Ends kind (text ++ rest) := by
  obtain ⟨c,more,rfl⟩ := List.exists_cons_of_ne_nil nonempty
  exact ends_cons (ends c more rfl)

theorem trim_around (before : ∀ c ∈ front, isBlank c = true) (behind : ∀ c ∈ back, isBlank c = true)
    (begins : Ends isBlank body) (ends : Ends isBlank body.reverse) : trim (front ++ (body ++ back)) = body := by
  have blank : ∀ c ∈ back.reverse, isBlank c = true := fun c member => behind c (List.mem_reverse.mp member)
  cases body with
  | nil =>
    have all : ∀ c ∈ front ++ back, isBlank c = true := fun c member =>
      (List.mem_append.mp member).elim (before c) (behind c)
    have gone := dropWhile_run all (ends_nil isBlank)
    rw [List.append_nil] at gone
    unfold trim
    rw [List.nil_append,gone]
    rfl
  | cons c more =>
    have begun : Ends isBlank ((c :: more) ++ back) := ends_append (List.cons_ne_nil c more) begins
    unfold trim
    rw [dropWhile_run before begun,List.reverse_append,dropWhile_run blank ends,List.reverse_reverse]

theorem trim_visible (visible : ∀ c ∈ text, isBlank c = false) : trim text = text := by
  have begins : Ends isBlank text := by
    rintro c more rfl
    exact visible c (List.mem_cons_self ..)
  have trimmed : trim ([] ++ (text ++ [])) = text := trim_around nofun nofun begins (ends_visible visible)
  rwa [List.nil_append,List.append_nil] at trimmed

theorem trim_blank (blank : ∀ c ∈ text, isBlank c = true) : trim text = [] := by
  have around : trim (text ++ ([] ++ [])) = [] := trim_around blank nofun (ends_nil _) (ends_nil _)
  rwa [List.append_nil,List.append_nil] at around

theorem trim_gone {text : List Char} (gone : trim text = []) : ∀ c ∈ text, isBlank c = true := by
  have inside := dropWhile_gone (List.reverse_eq_nil_iff.mp gone)
  by_cases blank : text.dropWhile isBlank = []
  · exact dropWhile_gone blank
  · have visible := List.head_dropWhile_not isBlank blank
    rw [inside _ (List.mem_reverse.mpr (List.head_mem blank))] at visible
    cases visible

theorem trim_length (text : List Char) : (trim text).length ≤ text.length := by
  have front := (List.dropWhile_suffix (l := text) isBlank).length_le
  have back := (List.dropWhile_suffix (l := (text.dropWhile isBlank).reverse) isBlank).length_le
  rw [List.length_reverse] at back
  rw [trim,List.length_reverse]
  exact Nat.le_trans back front

end Eligibility.Text
