namespace Eligibility.Text

-- Stops at the first range that begins past the code point.
def inRanges : List (Nat × Nat) → Nat → Bool
  | [], _ => false
  | (first,last) :: rest, code =>
    if code < first then false else code ≤ last || inRanges rest code

theorem inRanges_member (ranges : List (Nat × Nat)) (code : Nat) (found : inRanges ranges code = true) :
    ∃ range ∈ ranges, range.1 ≤ code ∧ code ≤ range.2 := by
  induction ranges with
  | nil => cases found
  | cons range rest ih =>
    unfold inRanges at found
    split at found
    · cases found
    · rcases Bool.or_eq_true _ _ ▸ found with here | later
      · exact ⟨range,by simp,by omega,by simpa using here⟩
      · obtain ⟨other,member,bounds⟩ := ih later
        exact ⟨other,List.mem_cons_of_mem _ member,bounds⟩

def blankRanges : List (Nat × Nat) :=
  [(0x9,0xD), (0x20,0x20), (0x85,0x85), (0xA0,0xA0), (0x1680,0x1680), (0x2000,0x200A),
   (0x2028,0x2029), (0x202F,0x202F), (0x205F,0x205F), (0x3000,0x3000)]

def isBlank (c : Char) : Bool := inRanges blankRanges c.toNat

def trim (text : List Char) : List Char :=
  ((text.dropWhile isBlank).reverse.dropWhile isBlank).reverse

-- Offsets count the bytes of the UTF-8 form.
def bytes : List Char → Nat
  | [] => 0
  | c :: rest => c.utf8Size + bytes rest

def digitValue? (c : Char) : Option Nat :=
  if c.isDigit then some (c.toNat - '0'.toNat)
  else if 'a' ≤ c ∧ c ≤ 'f' then some (c.toNat - 'a'.toNat + 10)
  else if 'A' ≤ c ∧ c ≤ 'F' then some (c.toNat - 'A'.toNat + 10)
  else none

end Eligibility.Text

namespace Eligibility

def trimmed (text : String) : String := String.ofList (Text.trim text.toList)

def isBlankText (text : String) : Bool := text.toList.all Text.isBlank

end Eligibility
