import Eligibility.Proofs.Rule.Spelling

namespace Eligibility

namespace Text

theorem bytes_append (front back : List Char) : bytes (front ++ back) = bytes front + bytes back := by
  induction front with
  | nil => exact (Nat.zero_add _).symm
  | cons c front ih => rw [List.cons_append,bytes,bytes,ih,Nat.add_assoc]

theorem bytes_pos (nonempty : text ≠ []) : 0 < bytes text := by
  obtain ⟨c,rest,rfl⟩ := List.exists_cons_of_ne_nil nonempty
  exact Nat.add_pos_left c.utf8Size_pos _

theorem bytes_single (single : ∀ c ∈ text, c.utf8Size = 1) : bytes text = text.length := by
  induction text with
  | nil => rfl
  | cons c text ih =>
    obtain ⟨first,rest⟩ := List.forall_mem_cons.mp single
    rw [bytes,first,ih rest,List.length_cons,Nat.add_comm]

theorem bytes_utf8 (text : List Char) : bytes text = (String.ofList text).utf8ByteSize := by
  induction text with
  | nil => rfl
  | cons c text ih => rw [bytes,ih,String.ofList_cons,String.utf8ByteSize_append,String.utf8ByteSize_singleton]

end Text

namespace Token

-- A token at the front of a text: the part that spells it, what is left, and what scanning says of
-- both wherever the text begins.
structure Taken (c : Char) (rest : List Char) (token : Token) (spelling behind : List Char) : Prop where
  text : c :: rest = spelling ++ behind
  spells : Spells token spelling
  scans : ∀ place, scan place c rest = .ok ⟨token,place + Text.bytes spelling,behind⟩

section

variable {c quote mark : Char} {text rest : List Char} {place : Nat}

theorem unescape_listed (meant : unescape? mark = some c) : (c,mark) ∈ escapes := by
  unfold unescape? at meant
  split at meant
  next same => cases meant; subst same; decide
  split at meant
  next same => cases meant; subst same; decide
  split at meant
  next same => cases meant; subst same; decide
  split at meant
  next same =>
    cases meant
    rcases same with rfl | rfl | rfl <;> decide
  · cases meant

theorem quoted_taken {found : Quoted} (accepted : quoted quote start place text = .ok found) :
    ∃ body, text = body ++ found.rest ∧ Quotes quote found.content body := by
  fun_induction quoted quote start place text generalizing found with
  | case1 | case3 | case4 => cases accepted
  | case2 =>
    cases accepted
    exact ⟨[quote],rfl,.closed⟩
  | case5 _ mark _ _ escape _ ih =>
    obtain ⟨inner,taken,rfl⟩ := map_ok _ _ _ accepted
    obtain ⟨body,rfl,quotes⟩ := ih taken
    exact ⟨'\\' :: mark :: body,rfl,.escaped (unescape_listed escape) quotes⟩
  | case6 _ c _ noEnd noEscape ih =>
    obtain ⟨inner,taken,rfl⟩ := map_ok _ _ _ accepted
    obtain ⟨body,rfl,quotes⟩ := ih taken
    exact ⟨c :: body,rfl,.raw noEnd noEscape quotes⟩

theorem numeralChar_single (inside : isNumeralChar c = true) : c.utf8Size = 1 := by
  simp only [isNumeralChar,isExponentMark,Bool.or_eq_true,beq_iff_eq] at inside
  rcases inside with (((digit | rfl) | rfl | rfl) | rfl) | rfl
  · have bounds := digit_bounds digit
    exact Char.utf8Size_eq_one_iff.mpr (UInt32.le_iff_toNat_le.mpr (Nat.le_trans bounds.2 (by decide)))
  all_goals rfl

theorem ofWord_spells (starts : isWordStart c = true) (parts : ∀ d ∈ rest, isWordPart d = true) :
    Spells (ofWord (c :: rest)) (c :: rest) := by
  by_cases free : String.ofList ((c :: rest).map Char.toLower) ∉ reserved
  · have readable : Readable (String.ofList (c :: rest)) := by
      constructor
      · rw [String.toList_ofList]
        exact ⟨starts,parts⟩
      · rwa [String.toList_ofList]
    have spells := Spells.word readable
    rwa [String.toList_ofList,← ofWord_free free] at spells
  · have letters (word : String) (same : String.ofList ((c :: rest).map Char.toLower) = word) :
        (c :: rest).map Char.toLower = word.toList := by
      rw [← same,String.toList_ofList]
    rw [Decidable.not_not,reserved] at free
    simp only [List.mem_cons,List.not_mem_nil,or_false] at free
    unfold ofWord
    rcases free with same | same | same | same
    all_goals
      rw [same]
    · exact .connective .and (letters _ same)
    · exact .connective .or (letters _ same)
    · exact .boolean true (letters _ same)
    · exact .boolean false (letters _ same)

theorem scanComparator_taken
    (scanned : ∀ place, scan place c rest = .ok (scanComparator place bare withEqual rest)) (single : c.utf8Size = 1)
    (alone : Spells (comparator bare) [c]) (double : Spells (comparator withEqual) [c,'=']) (place : Nat) :
    ∃ spelling, Taken c rest (scanComparator place bare withEqual rest).token spelling
      (scanComparator place bare withEqual rest).rest := by
  by_cases equals : ∃ more, rest = '=' :: more
  · obtain ⟨more,rfl⟩ := equals
    refine ⟨[c,'='],rfl,double,?_⟩
    intro other
    rw [scanned,Text.bytes,single]
    rfl
  · have bareOnly (place : Nat) := scanComparator_alone place bare withEqual (not_exists.mp equals)
    rw [bareOnly]
    refine ⟨[c],rfl,alone,?_⟩
    intro other
    rw [scanned,bareOnly,Text.bytes,single]
    rfl

theorem string_taken {found : Quoted} (mark : c = '"' ∨ c = '\'')
    (accepted : quoted c place position rest = .ok found) :
    ∃ spelling, Taken c rest (string (String.ofList found.content)) spelling found.rest := by
  obtain ⟨body,rfl,quotes⟩ := quoted_taken accepted
  refine ⟨c :: body,rfl,.string mark quotes,?_⟩
  intro other
  have begun : scan other c (body ++ found.rest) = (quoted c other (other + 1) (body ++ found.rest)).map
      fun found => ⟨string (String.ofList found.content),found.stop,found.rest⟩ := by
    rcases mark with rfl | rfl <;> rfl
  have single : c.utf8Size = 1 := by rcases mark with rfl | rfl <;> rfl
  rw [begun,quoted_quotes quotes mark,Text.bytes,single,← Nat.add_assoc]
  rfl

theorem number_taken {found : Scan} (front : c ≠ '+')
    (scanned : ∀ place, scan place c rest = scanNumber place (c :: text) behind) (whole : rest = text ++ behind)
    (accepted : scan place c rest = .ok found) : ∃ spelling, Taken c rest found.token spelling found.rest := by
  rw [scanned,scanNumber] at accepted
  split at accepted
  next negative m value =>
    cases accepted
    obtain ⟨decimal,reads,value⟩ := Option.map_eq_some_iff.mp value
    have noPlus : (c :: text).head? ≠ some '+' := fun plus => front (Option.some.inj plus)
    refine ⟨c :: text,congrArg (c :: ·) whole,.number reads noPlus value rfl,?_⟩
    intro other
    have single : Text.bytes (c :: text) = (c :: text).length :=
      Text.bytes_single fun d member => numeralChar_single (decimal_chars reads d member)
    rw [scanned,scanNumber,reads,Option.map_some,value,single]
  · cases accepted

-- Each kind of token by the character that it begins with.
theorem scan_taken {found : Scan} (accepted : scan place c rest = .ok found) :
    ∃ spelling, Taken c rest found.token spelling found.rest := by
  have whole := accepted
  unfold scan at accepted
  split at accepted
  next same => subst same; cases accepted; exact ⟨['('],rfl,.openParen,fun _ => rfl⟩
  next opens =>
  split at accepted
  next same => subst same; cases accepted; exact ⟨[')'],rfl,.closeParen,fun _ => rfl⟩
  next closes =>
  split at accepted
  next same =>
    subst same
    cases accepted
    exact scanComparator_taken (fun _ => rfl) rfl (.comparator .greater) (.comparator .greaterEqual) place
  next greater =>
  split at accepted
  next same =>
    subst same
    cases accepted
    exact scanComparator_taken (fun _ => rfl) rfl (.comparator .less) (.comparator .lessEqual) place
  next less =>
  split at accepted
  next same =>
    subst same
    cases accepted
    exact scanComparator_taken (fun _ => rfl) rfl .equalSign (.comparator .equal) place
  next equal =>
  split at accepted
  next mark =>
    obtain ⟨inner,found,rfl⟩ := map_ok _ _ _ accepted
    exact string_taken mark found
  next noQuote =>
  split at accepted
  next front =>
    have scanned (other : Nat) :
        scan other c rest = scanNumber other (c :: (numeral false rest).1) (numeral false rest).2 := by
      simp only [scan,opens,closes,greater,less,equal,noQuote,front,↓reduceIte]
    have noPlus : c ≠ '+' := by
      rintro rfl
      cases front
    exact number_taken noPlus scanned (numeral_parts false rest).symm whole
  next =>
  split at accepted
  next starts =>
    have parts : ∀ d ∈ rest.takeWhile isWordPart, isWordPart d = true := List.all_eq_true.mp List.all_takeWhile
    cases accepted
    exact ⟨_,congrArg (c :: ·) List.takeWhile_append_dropWhile.symm,ofWord_spells starts parts,
      fun _ => scan_word starts rest⟩
  · cases accepted

theorem scan_stop {found : Scan} (taken : Taken c rest found.token spelling found.rest)
    (accepted : scan place c rest = .ok found) : found.stop = place + Text.bytes spelling :=
  congrArg Scan.stop (Except.ok.inj (accepted.symm.trans (taken.scans place)))

end

end Token

end Eligibility
