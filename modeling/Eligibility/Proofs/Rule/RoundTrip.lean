import Eligibility.Proofs.Condition.Plain
import Eligibility.Proofs.Rule.Layout
import Eligibility.Proofs.Rule.Places

namespace Eligibility

namespace Condition

open Grammar (tokens)
open Token (Spaced)

-- The tokens of a rendered condition, every operator between parentheses.
def ruleTokens (catalog : Catalog) : Condition → List Token
  | operand value => [Token.ofValue catalog value]
  | compound operator left right =>
    .openParen :: (left.ruleTokens catalog ++ Token.ofOperator operator ::
      (right.ruleTokens catalog ++ [.closeParen]))

theorem ruleTokens_nonempty (catalog : Catalog) (condition : Condition) : condition.ruleTokens catalog ≠ [] := by
  cases condition <;> exact List.cons_ne_nil _ _

theorem ruleChars_spaced (readable : catalog.Readable) (condition : Condition) (finite : condition.isFinite = true) :
    Spaced (condition.ruleTokens catalog) (condition.ruleChars catalog) := by
  induction condition with
  | operand value => exact .one (Token.value_spells readable value finite)
  | compound operator left right ihLeft ihRight =>
    obtain ⟨finiteLeft,finiteRight⟩ := (Bool.and_eq_true _ _).mp finite
    have first := ihLeft finiteLeft
    have second := Token.spaced_close (ihRight finiteRight) (right.ruleTokens_nonempty catalog)
    have joined := Token.spaced_join (Token.operator_spells operator) first (left.ruleTokens_nonempty catalog)
      second (List.append_ne_nil_of_right_ne_nil _ (List.cons_ne_nil _ _))
    exact Token.spaced_open joined (by simp)

theorem render_read (readable : catalog.Readable) (condition : Condition)
    (finite : condition.isFinite = true) :
    ∃ lexemes, tokens lexemes = condition.ruleTokens catalog ∧
      read catalog (condition.render catalog) = ofLexemes catalog lexemes := by
  have spaced := condition.ruleChars_spaced readable finite
  have written : Token.Written (condition.ruleTokens catalog) (condition.render catalog).toList := by
    rw [render,String.toList_ofList]
    exact Token.spaced_written spaced
  obtain ⟨lexemes,same,reads⟩ := read_written written (condition.ruleTokens_nonempty catalog)
  exact ⟨lexemes,same,reads catalog⟩

end Condition

namespace Grammar

open Condition (maxDepth)

def phraseOf : Operator → Phrase
  | .logical .or => .disjunction
  | .logical .and => .conjunction
  | .comparison _ => .comparison

theorem phraseOf_joins (operator : Operator) : Joins (phraseOf operator) (Token.ofOperator operator) operator := by
  cases operator with
  | logical connective => cases connective with
    | and => exact .and
    | or => exact .or
  | comparison comparator => exact .comparator comparator

theorem phraseOf_over (operator : Operator) : Over (phraseOf operator) (operandOf (phraseOf operator)) := by
  cases operator with
  | logical connective => cases connective with
    | and => exact .conjunction
    | or => exact .disjunction
  | comparison comparator => exact .comparison

theorem rule_derives (catalog : Catalog) (condition : Condition) :
    Derives catalog .primary (condition.ruleTokens catalog) condition.plain := by
  induction condition with
  | operand value =>
    cases value with
    | number n => exact .number n.plain
    | boolean truth => exact .boolean truth
    | string text =>
      unfold Condition.ruleTokens Token.ofValue
      dsimp only
      split
      next known => exact .knownWord known
      next => exact .string text
  | compound operator left right ihLeft ihRight =>
    have joined := Derives.joined (phraseOf_over operator) (phraseOf_joins operator)
      (derives_within (within_primary _) ihLeft) (derives_within (within_primary _) ihRight)
    have whole := Derives.parenthesized (derives_within (disjunction_within _) joined)
    simpa [Condition.ruleTokens,Condition.plain] using whole

-- Every operator stands one parenthesis deeper than the operator above it.
theorem rule_nesting (catalog : Catalog) (condition : Condition) (opened : Nat) :
    nesting opened (condition.ruleTokens catalog) + 1 = opened + condition.depth := by
  induction condition generalizing opened with
  | operand value =>
    cases value with
    | number | boolean => rfl
    | string text =>
      unfold Condition.ruleTokens Token.ofValue
      dsimp only
      split <;> rfl
  | compound operator left right ihLeft ihRight =>
    have joined := Derives.joined (phraseOf_over operator) (phraseOf_joins operator)
      (derives_within (within_primary _) (rule_derives catalog left))
      (derives_within (within_primary _) (rule_derives catalog right))
    have whole := nesting_parentheses joined opened
    rw [nesting_append (rule_derives catalog left),nesting_operator (phraseOf_joins operator)] at whole
    have inLeft := ihLeft (opened + 1)
    have inRight := ihRight (opened + 1)
    simp only [List.append_assoc,List.cons_append] at whole
    rw [Condition.ruleTokens,whole,Condition.depth]
    omega

theorem within_refuses (within : Within phrase operand)
    (refused : ∀ role, outcome (readerOf catalog room operand role lexemes) = .error fault) (role : Role) :
    outcome (readerOf catalog room phrase role lexemes) = .error fault := by
  induction within generalizing role with
  | same => exact refused role
  | step above inner ih =>
    rw [readerOf_chain catalog room role above,outcome_chain,ih refused .subject]
    rfl

theorem rule_read (catalog : Catalog) (condition : Condition) (phrase : Phrase) (role : Role)
    (within : opened + room = maxDepth) (shallow : condition.depth ≤ maxDepth)
    (nested : opened + condition.depth ≤ maxDepth + 1) (lexemes rest : List Lexeme)
    (spelled : tokens lexemes = condition.ruleTokens catalog)
    (ends : ∀ level, phrase.rank < level.rank → Stops (jointOf level) rest) :
    outcome (readerOf catalog room phrase role (lexemes ++ rest)) =
      outcome (extend (jointOf phrase) (furtherOf catalog room (operandOf phrase)) condition.plain.measured rest) := by
  have derives := derives_within (within_primary phrase) (rule_derives catalog condition)
  have opens := rule_nesting catalog condition opened
  refine readerOf_complete derives role within (by omega) ?_ lexemes rest spelled ends
  rw [condition.plain_depth]
  exact shallow

-- Deeper than a condition may be, or than its parentheses may stand.
def TooDeep (opened : Nat) (condition : Condition) : Prop :=
  maxDepth < condition.depth ∨ maxDepth + 1 < opened + condition.depth

theorem shallow_parts (shallow : ¬TooDeep opened condition) :
    condition.depth ≤ maxDepth ∧ opened + condition.depth ≤ maxDepth + 1 := by
  unfold TooDeep at shallow
  omega

-- Of two shallow sides one stands at the limit.
theorem joined_tooDeep (deep : TooDeep opened (.compound operator left right))
    (shallowLeft : ¬TooDeep (opened + 1) left) (shallowRight : ¬TooDeep (opened + 1) right) :
    (Condition.compound operator left.plain right.plain).limited = .error .tooDeep := by
  apply if_neg
  unfold TooDeep at *
  simp only [Condition.depth,left.plain_depth,right.plain_depth] at *
  omega

theorem rule_tooDeep (catalog : Catalog) (condition : Condition) (role : Role)
    (within : opened + room = maxDepth) (deep : TooDeep opened condition)
    (lexemes rest : List Lexeme) (spelled : tokens lexemes = condition.ruleTokens catalog) :
    outcome (primary catalog room role (lexemes ++ rest)) = .error .tooDeep := by
  induction condition generalizing opened room role lexemes rest with
  | operand value =>
    unfold TooDeep Condition.depth maxDepth at *
    omega
  | compound operator left right ihLeft ihRight =>
    obtain ⟨opening,behind,rfl,opens,spelledBehind⟩ := List.map_eq_cons_iff.mp spelled
    obtain ⟨front,after,rfl,spelledLeft,spelledAfter⟩ := List.map_eq_append_iff.mp spelledBehind
    obtain ⟨lexeme,further,rfl,joins,spelledFurther⟩ := List.map_eq_cons_iff.mp spelledAfter
    obtain ⟨back,closing,rfl,spelledRight,closes⟩ := List.map_eq_append_iff.mp spelledFurther
    rw [List.cons_append]
    cases room with
    | zero =>
      rw [primary,outcome_parenthesis _ opens]
      rfl
    | succ room =>
      have deeper : opened + 1 + room = maxDepth := by omega
      rw [primary_over,outcome_parenthesis _ opens]
      suffices inside : outcome (readerOf catalog room .disjunction .subject
          (front ++ lexeme :: (back ++ closing) ++ rest)) = .error .tooDeep by
        rw [inside]
        rfl
      rw [List.append_assoc,List.cons_append,List.append_assoc]
      by_cases deepLeft : TooDeep (opened + 1) left
      · apply within_refuses (within_primary _)
        intro role
        exact ihLeft role deeper deepLeft front _ spelledLeft
      · apply within_refuses (disjunction_within (phraseOf operator))
        intro role
        have sign : Joins (phraseOf operator) lexeme.token operator := joins ▸ phraseOf_joins operator
        have closed : ∀ level, Stops (jointOf level) (closing ++ rest) := by
          obtain ⟨⟨token,place⟩,rfl,closer⟩ := List.map_eq_singleton_iff.mp closes
          cases closer
          intro level
          apply stops_cons
          cases level <;> rfl
        obtain ⟨shallowLeft,nestedLeft⟩ := shallow_parts deepLeft
        rw [rule_read catalog left _ role deeper shallowLeft nestedLeft front _ spelledLeft (stops_operator sign),
          outcome_extend_further _ _ ((jointOf_exact _ _ _).mpr sign),furtherOf]
        by_cases deepRight : TooDeep (opened + 1) right
        · rw [within_refuses (within_primary _)
            (fun role => ihRight role deeper deepRight back _ spelledRight)]
          rfl
        · obtain ⟨shallowRight,nestedRight⟩ := shallow_parts deepRight
          rw [rule_read catalog right _ _ deeper shallowRight nestedRight back _ spelledRight
              (fun level _ => closed level),outcome_extend_stop _ _ (closed _)]
          simp only [Except.bind,joined_tooDeep deep deepLeft deepRight]

end Grammar

namespace Token

theorem quotes_length (spelled : Quotes quote content body) : content.length + 1 ≤ body.length := by
  induction spelled with
  | closed => exact Nat.le_refl _
  | raw | escaped =>
    simp only [List.length_cons]
    omega

theorem spelled_readable (spells : Spells token spelling) (writes : Grammar.value? token = some (.string name))
    (short : spelling.length ≤ name.length) : Readable name := by
  cases spells with
  | word readable =>
    cases writes
    exact readable
  | string _ spelled =>
    cases writes
    have longer := quotes_length spelled
    rw [String.length_ofList,List.length_cons] at short
    omega
  | openParen | closeParen | comparator | equalSign | connective | boolean | number => cases writes

end Token

namespace Condition

open Grammar

theorem render_again (readable : catalog.Readable) (condition : Condition)
    (finite : condition.isFinite = true) (shallow : condition.depth ≤ maxDepth) :
    read catalog (condition.render catalog) = .ok condition.plain := by
  obtain ⟨lexemes,same,reads⟩ := condition.render_read readable finite
  have opens := rule_nesting catalog condition 0
  rw [reads,ofLexemes_exact,same]
  refine ⟨derives_within (within_primary _) (rule_derives catalog condition),?_,by omega⟩
  rw [condition.plain_depth]
  exact shallow

theorem ofLexemes_refused
    (refused : outcome (readerOf catalog maxDepth .disjunction .subject lexemes) = .error fault) :
    ofLexemes catalog lexemes = .error fault := by
  change outcome (disjunction catalog (primary catalog maxDepth) lexemes) = _ at refused
  unfold ofLexemes
  cases found : disjunction catalog (primary catalog maxDepth) lexemes with
  | error other => rw [found] at refused; cases refused; rfl
  | ok reading => rw [found] at refused; cases refused

theorem render_tooDeep (readable : catalog.Readable) (condition : Condition)
    (finite : condition.isFinite = true) (deep : maxDepth < condition.depth) :
    read catalog (condition.render catalog) = .error .tooDeep := by
  obtain ⟨lexemes,same,reads⟩ := condition.render_read readable finite
  have within : 0 + maxDepth = maxDepth := Nat.zero_add _
  have refused (role : Role) : outcome (readerOf catalog maxDepth .primary role lexemes) = .error .tooDeep := by
    have whole := rule_tooDeep catalog condition role within (.inl deep) lexemes [] same
    rwa [List.append_nil] at whole
  rw [reads]
  apply ofLexemes_refused
  exact within_refuses (within_primary _) refused .subject

theorem agrees_text (agrees : (operand (.string text)).agrees other = true) : other = operand (.string text) := by
  cases other with
  | compound => cases agrees
  | operand value =>
    cases value with
    | string held =>
      simp only [Condition.agrees,agreesValue,decide_eq_true_eq] at agrees
      rw [agrees]
    | number | boolean => simp [Condition.agrees,agreesValue] at agrees

theorem mentioned_readable (known : catalog.contains name = true)
    (reads : read catalog ((operand (.string name)).render catalog) = .ok (operand (.string name))) :
    Token.Readable name := by
  obtain ⟨lexemes,cut,fits⟩ := read_cut reads
  obtain ⟨token,member,writes⟩ := derives_leaves fits.derives (.string name) (by simp [leaves])
  obtain ⟨lexeme,present,rfl⟩ := List.mem_map.mp member
  obtain ⟨spelling,inText,spells⟩ := Lexeme.member_spelled cut present
  have chars : (operand (.string name)).ruleChars catalog = name.toList := by
    simp [ruleChars,Rule.valueChars,known]
  have short := inText.length_le
  have trimmed := Text.trim_length name.toList
  rw [render,String.toList_ofList,chars] at short
  rw [String.length_toList] at trimmed
  exact Token.spelled_readable spells writes (Nat.le_trans short trimmed)

-- Where some name of the catalog cannot be mentioned, the law fails for a condition that has it.
theorem render_reads_iff (catalog : Catalog) :
    (catalog.Readable ↔ ∀ condition : Condition, condition.isFinite = true → condition.depth ≤ maxDepth →
      ∃ again, read catalog (condition.render catalog) = .ok again ∧ condition.agrees again = true ∧
        ∀ record, again.holds record = condition.holds record) ∧
    (catalog.Readable → ∀ condition : Condition, condition.isFinite = true → maxDepth < condition.depth →
      read catalog (condition.render catalog) = .error .tooDeep) := by
  refine ⟨⟨?_,?_⟩,fun readable condition => condition.render_tooDeep readable⟩
  · intro readable condition finite shallow
    exact ⟨condition.plain,condition.render_again readable finite shallow,condition.plain_agrees finite,
      condition.plain_holds⟩
  · intro all name known
    obtain ⟨again,reads,agrees,_⟩ := all (operand (.string name)) rfl (Nat.le_of_ble_eq_true rfl)
    rw [agrees_text agrees] at reads
    exact mentioned_readable known reads

end Condition

end Eligibility
