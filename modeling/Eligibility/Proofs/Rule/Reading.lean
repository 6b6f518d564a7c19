import Eligibility.Proofs.Condition.Parts
import Eligibility.Proofs.Rule.Derivation
import Eligibility.Rule.Grammar

namespace Eligibility

namespace Grammar

open Condition (Measured depth_parts limited_shallow limited_ok)

-- What a reader answers, without the bound on what it leaves.
def outcome (answer : Except Fault (Reading bound)) : Except Fault (Condition × List Lexeme) :=
  answer.map fun reading => (reading.parsed.condition,reading.rest)

theorem outcome_widen (answer : Except Fault (Reading bound)) (within : bound ≤ wider) :
    outcome (answer.map (·.widen within)) = outcome answer := by
  cases answer <;> rfl

def Stops (joint : Token → Option Operator) (lexemes : List Lexeme) : Prop :=
  ∀ lexeme rest, lexemes = lexeme :: rest → joint lexeme.token = none

theorem stops_nil (joint : Token → Option Operator) : Stops joint [] := by
  intro lexeme rest front
  cases front

theorem stops_cons (ends : joint lexeme.token = none) : Stops joint (lexeme :: rest) := by
  intro first behind front
  cases front
  exact ends

theorem outcome_extend_stop (operand : Operator → Condition → Reader) (left : Condition)
    (stops : Stops joint lexemes) :
    outcome (extend joint operand left.measured lexemes) = .ok (left,lexemes) := by
  unfold extend
  split
  · rfl
  next lexeme rest => simp [stops lexeme rest rfl,outcome,Except.map,Condition.measured]

theorem outcome_extend_further (operand : Operator → Condition → Reader) (left : Condition)
    (joins : joint lexeme.token = some operator) :
    outcome (extend joint operand left.measured (lexeme :: rest)) =
      (outcome (operand operator left rest)).bind fun right =>
        (Condition.compound operator left right.1).limited.bind fun joined =>
          outcome (extend joint operand joined.measured right.2) := by
  rw [extend]
  simp only [joins,Condition.measured]
  cases operand operator left rest with
  | error fault => rfl
  | ok right =>
    simp only [Measured.join_limited,outcome,Except.map,Except.bind]
    cases (Condition.compound operator left right.parsed.condition).limited with
    | error fault => rfl
    | ok joined => exact outcome_widen _ _

theorem outcome_chain (joint : Token → Option Operator) (first : Reader)
    (operand : Operator → Condition → Reader) (lexemes : List Lexeme) :
    outcome (chain joint first operand lexemes) =
      (outcome (first lexemes)).bind fun left => outcome (extend joint operand left.1.measured left.2) := by
  unfold chain
  cases first lexemes with
  | error fault => rfl
  | ok left =>
    simp only [outcome,Except.map,Except.bind,left.parsed.condition_measured]
    exact outcome_widen _ _

theorem outcome_operand (inside : Reader) (literal : value? lexeme.token = some value)
    (allowed : ∀ name, lexeme.token = .word name → catalog.contains name = true ∨ role = .equalityValue) :
    outcome (primaryOver catalog inside role (lexeme :: rest)) = .ok (.operand value,rest) := by
  obtain ⟨token,offset⟩ := lexeme
  cases token with
  | word name =>
    cases literal
    simp [primaryOver,allowed name rfl,single,outcome,Except.map,Condition.measured]
  | number | string | boolean => cases literal; rfl
  | connective | comparator | openParen | closeParen => cases literal

def closing (offset : Nat) (inner : Condition × List Lexeme) : Except Fault (Condition × List Lexeme) :=
  match inner.2 with
  | ⟨.closeParen,_⟩ :: after => .ok (inner.1,after)
  | _ => .error (.syntactic (.unclosedParen offset))

theorem outcome_parenthesis (inside : Reader) (opens : lexeme.token = .openParen) :
    outcome (primaryOver catalog inside role (lexeme :: rest)) =
      (outcome (inside rest)).bind (closing lexeme.offset) := by
  obtain ⟨token,offset⟩ := lexeme
  cases opens
  unfold primaryOver
  dsimp only
  cases inside rest with
  | error fault => rfl
  | ok inner =>
    obtain ⟨condition,remaining,fewer⟩ := inner
    cases remaining with
    | nil => rfl
    | cons next after =>
      obtain ⟨token,_⟩ := next
      cases token <;> rfl

def jointOf : Phrase → Token → Option Operator
  | .disjunction => connectiveJoint .or
  | .conjunction => connectiveJoint .and
  | .comparison => comparatorJoint
  | .primary => fun _ => none

theorem jointOf_exact (phrase : Phrase) (token : Token) (operator : Operator) :
    jointOf phrase token = some operator ↔ Joins phrase token operator := by
  constructor
  · intro found
    cases phrase <;> cases token <;>
      simp only [jointOf,connectiveJoint,comparatorJoint,Option.some.injEq,reduceCtorEq,
        Option.ite_none_right_eq_some] at found
    · obtain ⟨rfl,rfl⟩ := found; exact .or
    · obtain ⟨rfl,rfl⟩ := found; exact .and
    · subst found; exact .comparator _
  · intro joins
    cases joins <;> rfl

def readerOf (catalog : Catalog) (room : Nat) : Phrase → Role → Reader
  | .disjunction, _ => disjunction catalog (primary catalog room)
  | .conjunction, _ => conjunction catalog (primary catalog room)
  | .comparison, _ => comparison catalog (primary catalog room)
  | .primary, role => primary catalog room role

def operandOf : Phrase → Phrase
  | .disjunction => .conjunction
  | .conjunction => .comparison
  | .comparison | .primary => .primary

theorem operandOf_over (above : Over phrase operand) : operandOf phrase = operand := by
  cases above <;> rfl

-- The reader of further operands, whose role depends on what stands to their left.
def furtherOf (catalog : Catalog) (room : Nat) (operand : Phrase) (operator : Operator)
    (left : Condition) : Reader := readerOf catalog room operand (rightRole catalog operator left)

theorem readerOf_chain (catalog : Catalog) (room : Nat) (role : Role) (above : Over phrase operand) :
    readerOf catalog room phrase role =
      chain (jointOf phrase) (readerOf catalog room operand .subject) (furtherOf catalog room operand) := by
  cases above <;> rfl

theorem primary_over (catalog : Catalog) (room : Nat) :
    primary catalog (room + 1) = primaryOver catalog (readerOf catalog room .disjunction .subject) := rfl

-- A derivation within the limits, some parentheses being open around it.
structure Fits (catalog : Catalog) (opened : Nat) (phrase : Phrase) (tokens : List Token)
    (condition : Condition) : Prop where
  derives : Derives catalog phrase tokens condition
  shallow : condition.depth ≤ Condition.maxDepth
  nested : nesting opened tokens ≤ Condition.maxDepth

def tokens (lexemes : List Lexeme) : List Token := lexemes.map (·.token)

-- What a reader may take in its role: a phrase, or any word where a text may stand.
inductive Takes (catalog : Catalog) (opened : Nat) : Phrase → Role → List Token → Condition → Prop where
  | phrase (fits : Fits catalog opened phrase taken condition) :
      Takes catalog opened phrase role taken condition
  | text (text : String) :
      Takes catalog opened .primary .equalityValue [.word text] (.operand (.string text))

def Sound (catalog : Catalog) (opened : Nat) (phrase : Phrase) (role : Role) (reader : Reader) : Prop :=
  ∀ lexemes condition rest, outcome (reader lexemes) = .ok (condition,rest) →
    ∃ taken, lexemes = taken ++ rest ∧ Takes catalog opened phrase role (tokens taken) condition

theorem rightRole_value (value : rightRole catalog operator left = .equalityValue) :
    operator = .comparison .equal ∧ ∃ name, left = .operand (.string name) ∧ catalog.contains name = true := by
  unfold rightRole at value
  split at value
  next equality =>
    refine ⟨equality.1,?_⟩
    have named := equality.2
    unfold isAttribute at named
    split at named
    next name => exact ⟨name,rfl,named⟩
    · cases named
  · cases value

theorem Fits.joined (above : Over phrase operand) (joins : Joins phrase token operator)
    (left : Fits catalog opened phrase before leftSide)
    (right : Takes catalog opened operand (rightRole catalog operator leftSide) behind rightSide)
    (shallow : (Condition.compound operator leftSide rightSide).depth ≤ Condition.maxDepth) :
    Fits catalog opened phrase (before ++ token :: behind) (.compound operator leftSide rightSide) := by
  have around (more : List Token) (within : nesting opened more ≤ Condition.maxDepth) :
      nesting opened (before ++ token :: more) ≤ Condition.maxDepth := by
    rw [nesting_append left.derives,nesting_operator joins]
    exact Nat.max_le.mpr ⟨left.nested,within⟩
  generalize role : rightRole catalog operator leftSide = found at right
  cases right with
  | phrase fits => exact ⟨.joined above joins left.derives fits.derives,shallow,around _ fits.nested⟩
  | text text =>
    obtain ⟨rfl,name,rfl,known⟩ := rightRole_value role
    cases joins
    exact ⟨.bareText known left.derives,shallow,
      around _ (Nat.le_trans (le_nesting opened before) left.nested)⟩

theorem extend_sound (above : Over phrase operand) (further : Operator → Condition → Reader)
    (sound : ∀ operator left,
      Sound catalog opened operand (rightRole catalog operator left) (further operator left))
    (lexemes : List Lexeme) (left : Condition) (before : List Token)
    (start : Fits catalog opened phrase before left)
    (accepted : outcome (extend (jointOf phrase) further left.measured lexemes) = .ok (condition,rest)) :
    ∃ taken, lexemes = taken ++ rest ∧ Fits catalog opened phrase (before ++ tokens taken) condition := by
  match lexemes with
  | [] =>
    rw [outcome_extend_stop further left (stops_nil _)] at accepted
    cases accepted
    exact ⟨[],rfl,by simpa [tokens] using start⟩
  | lexeme :: behind =>
    cases found : jointOf phrase lexeme.token with
    | none =>
      rw [outcome_extend_stop further left (stops_cons found)] at accepted
      cases accepted
      exact ⟨[],rfl,by simpa [tokens] using start⟩
    | some operator =>
      rw [outcome_extend_further further left found] at accepted
      obtain ⟨⟨right,after⟩,read,joining⟩ := bind_ok accepted
      obtain ⟨joined,limited,extended⟩ := bind_ok joining
      obtain ⟨rfl,shallow⟩ := limited_ok limited
      obtain ⟨taken,rfl,takes⟩ := sound operator left behind right after read
      have longer := start.joined above ((jointOf_exact _ _ _).mp found) takes shallow
      obtain ⟨more,rfl,fits⟩ := extend_sound above further sound after _ _ longer extended
      refine ⟨lexeme :: (taken ++ more),by simp,?_⟩
      simpa [tokens] using fits
termination_by lexemes.length
decreasing_by subst_vars; simp only [List.length_cons,List.length_append]; omega

theorem chain_sound (above : Over phrase operand) (first : Reader) (further : Operator → Condition → Reader)
    (sound : Sound catalog opened operand .subject first)
    (soundFurther : ∀ operator left,
      Sound catalog opened operand (rightRole catalog operator left) (further operator left)) :
    Sound catalog opened phrase role (chain (jointOf phrase) first further) := by
  intro lexemes condition rest accepted
  rw [outcome_chain] at accepted
  obtain ⟨⟨left,behind⟩,read,extended⟩ := bind_ok accepted
  obtain ⟨taken,rfl,takes⟩ := sound lexemes left behind read
  cases takes with
  | phrase fits =>
    have start : Fits catalog opened phrase (tokens taken) left := ⟨.single above fits.derives,fits.shallow,fits.nested⟩
    obtain ⟨more,rfl,fits⟩ := extend_sound above further soundFurther behind left _ start extended
    exact ⟨taken ++ more,(List.append_assoc _ _ _).symm,.phrase (by simpa [tokens] using fits)⟩

theorem closing_ok (closed : closing offset (found,remaining) = .ok (condition,rest)) :
    condition = found ∧ ∃ lexeme, lexeme.token = .closeParen ∧ remaining = lexeme :: rest := by
  unfold closing at closed
  split at closed
  next position after front =>
    cases closed
    exact ⟨rfl,_,rfl,front⟩
  · cases closed

theorem Fits.parenthesized (inner : Fits catalog (opened + 1) .disjunction taken condition) :
    Fits catalog opened .primary (.openParen :: (taken ++ [.closeParen])) condition :=
  ⟨.parenthesized inner.derives,inner.shallow,
    Nat.le_trans (Nat.le_of_eq (nesting_parentheses inner.derives opened)) inner.nested⟩

theorem Fits.operand (within : opened ≤ Condition.maxDepth) (plain : value? token = some value)
    (derives : Derives catalog .primary [token] (.operand value)) :
    Fits catalog opened .primary [token] (.operand value) := by
  refine ⟨derives,Nat.one_le_iff_ne_zero.mpr nofun,?_⟩
  cases token <;> first | exact within | cases plain

theorem primaryOver_sound (within : opened ≤ Condition.maxDepth) (inside : Reader)
    (sound : Sound catalog (opened + 1) .disjunction .subject inside) (role : Role) :
    Sound catalog opened .primary role (primaryOver catalog inside role) := by
  intro lexemes condition rest accepted
  match lexemes with
  | [] => cases accepted
  | ⟨token,offset⟩ :: behind =>
    cases token with
    | number n =>
      cases accepted
      exact ⟨[⟨.number n,offset⟩],rfl,.phrase (.operand within rfl (.number n))⟩
    | string text =>
      cases accepted
      exact ⟨[⟨.string text,offset⟩],rfl,.phrase (.operand within rfl (.string text))⟩
    | boolean truth =>
      cases accepted
      exact ⟨[⟨.boolean truth,offset⟩],rfl,.phrase (.operand within rfl (.boolean truth))⟩
    | word name =>
      simp only [primaryOver] at accepted
      split at accepted
      next allowed =>
        cases accepted
        refine ⟨[⟨.word name,offset⟩],rfl,?_⟩
        rcases (Bool.or_eq_true _ _).mp allowed with known | value
        · exact .phrase (.operand within rfl (.knownWord known))
        · cases of_decide_eq_true value
          exact .text name
      · cases accepted
    | openParen =>
      rw [outcome_parenthesis inside rfl] at accepted
      obtain ⟨⟨inner,remaining⟩,read,closed⟩ := bind_ok accepted
      obtain ⟨rfl,⟨_,place⟩,rfl,rfl⟩ := closing_ok closed
      obtain ⟨taken,rfl,takes⟩ := sound _ _ _ read
      cases takes with
      | phrase fits =>
        refine ⟨⟨.openParen,offset⟩ :: (taken ++ [⟨.closeParen,place⟩]),by simp,.phrase ?_⟩
        simpa [tokens] using fits.parenthesized
    | connective | comparator | closeParen => cases accepted

theorem readerOf_sound (catalog : Catalog) (room : Nat) (within : Within phrase operand)
    (sound : ∀ role, Sound catalog opened operand role (readerOf catalog room operand role)) (role : Role) :
    Sound catalog opened phrase role (readerOf catalog room phrase role) := by
  induction within generalizing role with
  | same => exact sound role
  | step above inner ih =>
    rw [readerOf_chain catalog room role above]
    apply chain_sound above
    · exact ih sound .subject
    · intro operator left
      exact ih sound (rightRole catalog operator left)

theorem primary_sound (catalog : Catalog) (within : opened + room = Condition.maxDepth) (role : Role) :
    Sound catalog opened .primary role (primary catalog room role) := by
  induction room generalizing opened role with
  | zero =>
    apply primaryOver_sound (by omega)
    intro lexemes condition rest refused
    cases refused
  | succ room ih =>
    rw [primary_over]
    have deeper : opened + 1 + room = Condition.maxDepth := by omega
    apply primaryOver_sound (by omega)
    apply readerOf_sound catalog room (within_primary .disjunction)
    intro role
    exact ih deeper role

theorem primary_operand (catalog : Catalog) (room : Nat) (literal : value? lexeme.token = some value)
    (allowed : ∀ name, lexeme.token = .word name → catalog.contains name = true ∨ role = .equalityValue)
    (rest : List Lexeme) :
    outcome (primary catalog room role (lexeme :: rest)) = .ok (.operand value,rest) := by
  cases room <;> exact outcome_operand _ literal allowed

theorem stops_primary (lexemes : List Lexeme) : Stops (jointOf .primary) lexemes := fun _ _ _ => rfl

theorem stops_operator (joins : Joins phrase lexeme.token operator) (level : Phrase)
    (looser : phrase.rank < level.rank) : Stops (jointOf level) (lexeme :: rest) := by
  apply stops_cons
  cases found : jointOf level lexeme.token with
  | none => rfl
  | some other =>
    obtain ⟨same,_⟩ := joins_unique joins ((jointOf_exact _ _ _).mp found)
    exact absurd (congrArg Phrase.rank same) (Nat.ne_of_lt looser)

-- Looser operators and closing parentheses end what a level reads.
theorem readerOf_complete (derives : Derives catalog phrase taken condition) (role : Role)
    (within : opened + room = Condition.maxDepth) (nested : nesting opened taken ≤ Condition.maxDepth)
    (shallow : condition.depth ≤ Condition.maxDepth) (lexemes rest : List Lexeme)
    (spelled : tokens lexemes = taken)
    (ends : ∀ level, phrase.rank < level.rank → Stops (jointOf level) rest) :
    outcome (readerOf catalog room phrase role (lexemes ++ rest)) =
      outcome (extend (jointOf phrase) (furtherOf catalog room (operandOf phrase)) condition.measured rest) := by
  induction derives generalizing opened room role lexemes rest with
  | number | string | boolean =>
    obtain ⟨lexeme,rfl,token⟩ := List.map_eq_singleton_iff.mp spelled
    rw [outcome_extend_stop _ _ (stops_primary rest)]
    exact primary_operand catalog room (by rw [token]; rfl) (by rw [token]; nofun) rest
  | knownWord known =>
    obtain ⟨lexeme,rfl,token⟩ := List.map_eq_singleton_iff.mp spelled
    rw [outcome_extend_stop _ _ (stops_primary rest)]
    refine primary_operand catalog room (by rw [token]; rfl) ?_ rest
    intro name same
    cases token.symm.trans same
    exact .inl known
  | parenthesized inner ih =>
    rw [outcome_extend_stop _ _ (stops_primary rest)]
    rw [nesting_parentheses inner] at nested
    obtain ⟨opening,behind,rfl,opens,spelledBehind⟩ := List.map_eq_cons_iff.mp spelled
    obtain ⟨inside,closer,rfl,spelledInside,closed⟩ := List.map_eq_append_iff.mp spelledBehind
    obtain ⟨⟨token,place⟩,rfl,closes⟩ := List.map_eq_singleton_iff.mp closed
    cases closes
    cases room with
    | zero =>
      have deeper := Nat.le_trans (le_nesting (opened + 1) _) nested
      omega
    | succ room =>
      have closed : ∀ level, Stops (jointOf level) (⟨.closeParen,place⟩ :: rest) :=
        fun level => stops_cons (by cases level <;> rfl)
      have deeper : opened + 1 + room = Condition.maxDepth := by omega
      have readInside := ih .subject deeper nested shallow inside (⟨.closeParen,place⟩ :: rest)
        spelledInside (fun level _ => closed level)
      rw [readerOf,primary_over,List.cons_append,outcome_parenthesis _ opens,List.append_assoc,
        List.singleton_append,readInside,outcome_extend_stop _ _ (closed _)]
      rfl
  | single above inner ih =>
    have readOperand := ih .subject within nested shallow lexemes rest spelled
      (fun level looser => ends level (Nat.lt_trans (rank_over above) looser))
    rw [readerOf_chain catalog room role above,outcome_chain,readOperand,
      outcome_extend_stop _ _ (ends _ (rank_over above)),operandOf_over above]
    rfl
  | joined above joins left right ihLeft ihRight =>
    rw [nesting_append left,nesting_operator joins] at nested
    obtain ⟨shallowLeft,shallowRight⟩ := depth_parts shallow
    obtain ⟨front,behind,rfl,spelledLeft,spelledBehind⟩ := List.map_eq_append_iff.mp spelled
    obtain ⟨lexeme,back,rfl,token,spelledRight⟩ := List.map_eq_cons_iff.mp spelledBehind
    subst token
    have readLeft := ihLeft role within (by omega) shallowLeft front (lexeme :: (back ++ rest)) spelledLeft
      (stops_operator joins)
    have readRight (role : Role) := ihRight role within (by omega) shallowRight back rest spelledRight
      (fun level looser => ends level (Nat.lt_trans (rank_over above) looser))
    rw [List.append_assoc,List.cons_append,readLeft,outcome_extend_further _ _ ((jointOf_exact _ _ _).mpr joins),
      furtherOf,operandOf_over above,readRight,outcome_extend_stop _ _ (ends _ (rank_over above))]
    simp only [Except.bind,limited_shallow shallow]
  | @bareText name before text known left ih =>
    rw [nesting_append left] at nested
    obtain ⟨shallowLeft,_⟩ := depth_parts shallow
    obtain ⟨front,behind,rfl,spelledLeft,spelledBehind⟩ := List.map_eq_append_iff.mp spelled
    obtain ⟨sign,back,rfl,equality,spelledRight⟩ := List.map_eq_cons_iff.mp spelledBehind
    obtain ⟨word,rfl,token⟩ := List.map_eq_singleton_iff.mp spelledRight
    have joins : Joins .comparison sign.token (.comparison .equal) := equality ▸ .comparator .equal
    have value : rightRole catalog (.comparison .equal) (.operand (.string name)) = .equalityValue :=
      if_pos ⟨rfl,known⟩
    have read : outcome (readerOf catalog room .primary .equalityValue (word :: rest)) =
        .ok (.operand (.string text),rest) :=
      primary_operand catalog room (by rw [token]; rfl) (fun _ _ => .inr rfl) rest
    have readLeft := ih role within (by omega) shallowLeft front (sign :: word :: rest) spelledLeft
      (stops_operator joins)
    rw [List.append_assoc,List.cons_append,List.singleton_append,readLeft,
      outcome_extend_further _ _ ((jointOf_exact _ _ _).mpr joins),furtherOf,value,operandOf,read]
    simp only [Except.bind,limited_shallow shallow]

end Grammar

namespace Condition

open Grammar

theorem ofLexemes_outcome (catalog : Catalog) (lexemes : List Lexeme) (condition : Condition) :
    ofLexemes catalog lexemes = .ok condition ↔
      outcome (readerOf catalog maxDepth .disjunction .subject lexemes) = .ok (condition,[]) := by
  change _ ↔ outcome (disjunction catalog (primary catalog maxDepth) lexemes) = _
  unfold ofLexemes
  generalize disjunction catalog (primary catalog maxDepth) lexemes = answer
  cases answer with
  | error fault =>
    constructor
    · intro accepted
      cases accepted
    · intro accepted
      cases accepted
  | ok reading =>
    obtain ⟨found,rest,fewer⟩ := reading
    cases rest <;> simp [outcome,Except.map]

theorem ofLexemes_exact (catalog : Catalog) (lexemes : List Lexeme) (condition : Condition) :
    ofLexemes catalog lexemes = .ok condition ↔
      Fits catalog 0 .disjunction (tokens lexemes) condition := by
  have within : 0 + maxDepth = maxDepth := Nat.zero_add _
  rw [ofLexemes_outcome]
  constructor
  · intro accepted
    have sound := readerOf_sound catalog maxDepth (within_primary .disjunction) (primary_sound catalog within)
    obtain ⟨taken,whole,takes⟩ := sound .subject lexemes condition [] accepted
    rw [List.append_nil] at whole
    subst whole
    cases takes with
    | phrase fits => exact fits
  · intro fits
    have read := readerOf_complete fits.derives .subject within fits.nested fits.shallow lexemes [] rfl
      (fun level _ => stops_nil (jointOf level))
    rwa [List.append_nil,outcome_extend_stop _ _ (stops_nil _)] at read

theorem read_cut (accepted : read catalog rule = .ok condition) :
    ∃ lexemes, Lexeme.ofChars 0 (Text.trim rule.toList) = .ok lexemes ∧
      Fits catalog 0 .disjunction (tokens lexemes) condition := by
  unfold read at accepted
  split at accepted
  · cases accepted
  next text =>
    split at accepted
    · cases accepted
    next lexemes cut => exact ⟨lexemes,text ▸ cut,(ofLexemes_exact _ _ _).mp accepted⟩

-- All tokens are taken, with parentheses and depth inside the limits, and no tokens derive two conditions.
theorem read_iff_derives (catalog : Catalog) (rule : String) :
    (∀ condition, read catalog rule = .ok condition ↔
      ∃ lexemes, Lexeme.ofChars 0 (Text.trim rule.toList) = .ok lexemes ∧
        Derives catalog .disjunction (tokens lexemes) condition ∧
        nesting 0 (tokens lexemes) ≤ maxDepth ∧ condition.depth ≤ maxDepth) ∧
    ∀ taken condition condition', Derives catalog .disjunction taken condition →
      Derives catalog .disjunction taken condition' → condition = condition' := by
  refine ⟨?_,fun _ _ _ => derives_unique⟩
  intro condition
  unfold read
  cases trimmed : Text.trim rule.toList with
  | nil =>
    constructor
    · intro accepted
      cases accepted
    · intro whole
      obtain ⟨lexemes,cut,derives,_⟩ := whole
      rw [Lexeme.ofChars] at cut
      cases cut
      exact absurd rfl (derives_nonempty derives)
  | cons c rest =>
    dsimp only
    cases Lexeme.ofChars 0 (c :: rest) with
    | error fault =>
      constructor
      · intro accepted
        cases accepted
      · intro whole
        obtain ⟨lexemes,cut,_⟩ := whole
        cases cut
    | ok lexemes =>
      simp only [ofLexemes_exact,Except.ok.injEq,exists_eq_left']
      constructor
      · intro fits
        exact ⟨fits.derives,fits.nested,fits.shallow⟩
      · intro whole
        obtain ⟨derives,nested,shallow⟩ := whole
        exact ⟨derives,shallow,nested⟩

end Condition

end Eligibility
