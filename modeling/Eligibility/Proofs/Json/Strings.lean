import Eligibility.Json.Text

namespace Eligibility.Json

theorem hexDigit_value : ∀ d < 16, Text.digitValue? (hexDigit d) = some d := by decide

theorem control_unit {code : Nat} (control : code < 0x20) :
    unit? '0' '0' (hexDigit (code / 16)) (hexDigit (code % 16)) = some code := by
  have zero : Text.digitValue? '0' = some 0 := rfl
  have upper := hexDigit_value (code / 16) (by omega)
  have lower := hexDigit_value (code % 16) (by omega)
  have whole : ((0 * 16 + 0) * 16 + code / 16) * 16 + code % 16 = code := by omega
  simp only [unit?,zero,upper,lower,Option.bind_eq_bind,Option.bind_some,whole]

theorem control_piece {c : Char} (control : c.toNat < 0x20) : Piece.ofUnit c.toNat = .whole c := by
  have low : isLowSurrogate c.toNat = false := by
    simp only [isLowSurrogate,Bool.and_eq_false_iff,decide_eq_false_iff_not]
    omega
  have high : isHighSurrogate c.toNat = false := by
    simp only [isHighSurrogate,Bool.and_eq_false_iff,decide_eq_false_iff_not]
    omega
  simp [Piece.ofUnit,low,high,Char.ofNat_toNat]

theorem escaped_short (meant : unescape? mark = some c) (rest : List Char) :
    escaped? (mark :: rest) = some (.whole c,rest) := by
  unfold escaped?
  split
  next found =>
    cases found
    cases meant
  next other behind _ found =>
    cases found
    rw [meant]
    rfl
  next found => cases found

theorem unquote_escaped (taken : escaped? text = some (meant,rest)) :
    unquote? ('\\' :: text) = (unquote? rest).map fun (content,after) => (meant :: content,after) := by
  rw [unquote?,if_neg (by decide),if_pos rfl]
  split
  next failed => rw [taken] at failed; cases failed
  next found there => rw [taken] at there; cases there; rfl

theorem unquote_plain (noQuote : c ≠ '"') (noEscape : c ≠ '\\') (noControl : ¬c.toNat < 0x20)
    (rest : List Char) :
    unquote? (c :: rest) = (unquote? rest).map fun (content,after) => (.whole c :: content,after) := by
  rw [unquote?,if_neg noQuote,if_neg noEscape,if_neg noControl]

-- Whatever form a character takes in quotes, it is read as that character.
theorem unquote_escapeChar (c : Char) (rest : List Char) :
    unquote? (escapeChar c ++ rest) =
      (unquote? rest).map fun (content,after) => (.whole c :: content,after) := by
  have short (mark : Char) (escape : escapeChar c = ['\\',mark]) (meant : unescape? mark = some c) :
      unquote? (escapeChar c ++ rest) =
        (unquote? rest).map fun (content,after) => (.whole c :: content,after) := by
    rw [escape]
    exact unquote_escaped (escaped_short meant rest)
  by_cases special : c = '"' ∨ c = '\\'
  · apply short c
    · simp [escapeChar,special]
    · rcases special with rfl | rfl <;> rfl
  by_cases backspace : c = '\x08'
  · apply short 'b'
    · simp [escapeChar,backspace]
    · rw [backspace]
      rfl
  by_cases formFeed : c = '\x0c'
  · apply short 'f'
    · simp [escapeChar,formFeed]
    · rw [formFeed]
      rfl
  by_cases newline : c = '\n'
  · apply short 'n'
    · simp [escapeChar,newline]
    · rw [newline]
      rfl
  by_cases carriage : c = '\r'
  · apply short 'r'
    · simp [escapeChar,carriage]
    · rw [carriage]
      rfl
  by_cases tab : c = '\t'
  · apply short 't'
    · simp [escapeChar,tab]
    · rw [tab]
      rfl
  by_cases control : c.toNat < 0x20
  · have escape : escapeChar c = ['\\','u','0','0',hexDigit (c.toNat / 16),hexDigit (c.toNat % 16)] := by
      simp [escapeChar,special,backspace,formFeed,newline,carriage,tab,control]
    rw [escape]
    apply unquote_escaped
    simp [escaped?,control_unit control,control_piece control]
  · have plain : escapeChar c = [c] := by
      simp [escapeChar,special,backspace,formFeed,newline,carriage,tab,control]
    rw [not_or] at special
    rw [plain]
    exact unquote_plain special.1 special.2 control rest

theorem unquote_escapes (text rest : List Char) :
    unquote? (text.flatMap escapeChar ++ '"' :: rest) = some (text.map .whole,rest) := by
  induction text with
  | nil => rw [List.flatMap_nil,List.nil_append,unquote?,if_pos rfl]; rfl
  | cons c text ih =>
    rw [List.flatMap_cons,List.append_assoc,unquote_escapeChar,ih]
    rfl

theorem spelled_whole (text : List Char) : spelled? (text.map .whole) = some text := by
  induction text with
  | nil => rfl
  | cons c text ih =>
    rw [List.map_cons,spelled?,ih]
    rfl

end Eligibility.Json
