import Eligibility.Text

namespace Eligibility.Json

def hexDigit (n : Nat) : Char := Nat.digitChar n

-- Control characters have no raw form; five of them have a short escape.
def escapeChar (c : Char) : List Char :=
  if c = '"' ∨ c = '\\' then ['\\',c]
  else if c = '\x08' then ['\\','b']
  else if c = '\x0c' then ['\\','f']
  else if c = '\n' then ['\\','n']
  else if c = '\r' then ['\\','r']
  else if c = '\t' then ['\\','t']
  else if c.toNat < 0x20 then
    ['\\','u','0','0',hexDigit (c.toNat / 16),hexDigit (c.toNat % 16)]
  else [c]

def quote (text : List Char) : List Char := '"' :: (text.flatMap escapeChar ++ ['"'])

def unescape? (mark : Char) : Option Char :=
  if mark = '"' ∨ mark = '\\' ∨ mark = '/' then some mark
  else if mark = 'b' then some '\x08'
  else if mark = 'f' then some '\x0c'
  else if mark = 'n' then some '\n'
  else if mark = 'r' then some '\r'
  else if mark = 't' then some '\t'
  else none

def unit? (a b c d : Char) : Option Nat := do
  let a ← Text.digitValue? a
  let b ← Text.digitValue? b
  let c ← Text.digitValue? c
  let d ← Text.digitValue? d
  some (((a * 16 + b) * 16 + c) * 16 + d)

def isHighSurrogate (unit : Nat) : Bool := 0xD800 ≤ unit && unit < 0xDC00

def isLowSurrogate (unit : Nat) : Bool := 0xDC00 ≤ unit && unit < 0xE000

-- What stands in quotes: characters, and surrogates, each of which is one half of a character.
inductive Piece where
  | whole (c : Char)
  | half (unit : Nat)
deriving DecidableEq

def Piece.ofUnit (unit : Nat) : Piece :=
  if isHighSurrogate unit || isLowSurrogate unit then half unit else whole (Char.ofNat unit)

def joinSurrogates (high low : Nat) : Char :=
  Char.ofNat (0x10000 + (high - 0xD800) * 0x400 + (low - 0xDC00))

-- A high surrogate needs a low one right behind it, and a low one stands nowhere else.
def spelled? : List Piece → Option (List Char)
  | [] => some []
  | .whole c :: rest => (spelled? rest).map (c :: ·)
  | .half high :: .half low :: rest =>
    if isHighSurrogate high && isLowSurrogate low then
      (spelled? rest).map (joinSurrogates high low :: ·)
    else none
  | .half _ :: _ => none

def escaped? : List Char → Option (Piece × List Char)
  | 'u' :: a :: b :: c :: d :: rest => (unit? a b c d).map fun unit => (.ofUnit unit,rest)
  | mark :: rest => (unescape? mark).map fun c => (.whole c,rest)
  | [] => none

theorem escaped_shorter (text : List Char) (found : Piece × List Char)
    (accepted : escaped? text = some found) : found.2.length < text.length := by
  unfold escaped? at accepted
  split at accepted
  · obtain ⟨unit,_,rfl⟩ := Option.map_eq_some_iff.mp accepted
    simp only [List.length_cons]
    omega
  · obtain ⟨c,_,rfl⟩ := Option.map_eq_some_iff.mp accepted
    exact Nat.lt_succ_self _
  · cases accepted

def unquote? : List Char → Option (List Piece × List Char)
  | [] => none
  | c :: rest =>
    if c = '"' then some ([],rest)
    else if c = '\\' then
      match taken : escaped? rest with
      | none => none
      | some (meant,more) =>
        have : more.length < rest.length := escaped_shorter rest (meant,more) taken
        (unquote? more).map fun (content,after) => (meant :: content,after)
    else if c.toNat < 0x20 then none
    else (unquote? rest).map fun (content,after) => (.whole c :: content,after)
termination_by text => text.length

theorem unquote_shorter (text : List Char) (found : List Piece × List Char)
    (accepted : unquote? text = some found) : found.2.length < text.length := by
  fun_induction unquote? text generalizing found with
  | case1 => cases accepted
  | case2 => cases accepted; exact Nat.lt_succ_self _
  | case3 => cases accepted
  | case4 rest _ _ _ _ shorter ih =>
    obtain ⟨inner,reached,rfl⟩ := Option.map_eq_some_iff.mp accepted
    have bound := ih inner reached
    simp only [List.length_cons]
    omega
  | case5 => cases accepted
  | case6 c rest _ _ _ ih =>
    obtain ⟨inner,reached,rfl⟩ := Option.map_eq_some_iff.mp accepted
    have bound := ih inner reached
    simp only [List.length_cons]
    omega

end Eligibility.Json
