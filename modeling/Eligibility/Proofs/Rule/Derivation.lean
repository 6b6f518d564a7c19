import Eligibility.Catalog
import Eligibility.Condition
import Eligibility.Rule.Lexeme

namespace Eligibility

namespace Grammar

-- The levels of the grammar, loosest first.
inductive Phrase where
  | disjunction
  | conjunction
  | comparison
  | primary
deriving DecidableEq

inductive Over : Phrase → Phrase → Prop where
  | disjunction : Over .disjunction .conjunction
  | conjunction : Over .conjunction .comparison
  | comparison : Over .comparison .primary

inductive Joins : Phrase → Token → Operator → Prop where
  | or : Joins .disjunction (.connective .or) (.logical .or)
  | and : Joins .conjunction (.connective .and) (.logical .and)
  | comparator (comparator : Comparator) :
      Joins .comparison (.comparator comparator) (.comparison comparator)

-- Operators group to the left. A word is an attribute, except directly behind an equality whose left side is an
-- attribute: there any word is a text.
inductive Derives (catalog : Catalog) : Phrase → List Token → Condition → Prop where
  | number (n : Double) : Derives catalog .primary [.number n] (.operand (.number n))
  | string (text : String) : Derives catalog .primary [.string text] (.operand (.string text))
  | boolean (truth : Bool) : Derives catalog .primary [.boolean truth] (.operand (.boolean truth))
  | knownWord (known : catalog.contains name = true) :
      Derives catalog .primary [.word name] (.operand (.string name))
  | parenthesized (inner : Derives catalog .disjunction tokens condition) :
      Derives catalog .primary (.openParen :: (tokens ++ [.closeParen])) condition
  | single (above : Over phrase operand) (inner : Derives catalog operand tokens condition) :
      Derives catalog phrase tokens condition
  | joined (above : Over phrase operand) (joins : Joins phrase token operator)
      (left : Derives catalog phrase before leftSide)
      (right : Derives catalog operand behind rightSide) :
      Derives catalog phrase (before ++ token :: behind) (.compound operator leftSide rightSide)
  | bareText (known : catalog.contains name = true)
      (left : Derives catalog .comparison before (.operand (.string name))) :
      Derives catalog .comparison (before ++ [.comparator .equal,.word text])
        (.compound (.comparison .equal) (.operand (.string name)) (.operand (.string text)))

theorem derives_nonempty (derives : Derives catalog phrase tokens condition) : tokens ≠ [] := by
  induction derives with
  | number | string | boolean | knownWord | parenthesized => exact List.cons_ne_nil _ _
  | single above inner ih => exact ih
  | joined | bareText => exact List.append_ne_nil_of_right_ne_nil _ (List.cons_ne_nil _ _)

-- A level and the levels of what its operators join.
inductive Within : Phrase → Phrase → Prop where
  | same : Within phrase phrase
  | step (above : Over phrase middle) (inner : Within middle operand) : Within phrase operand

theorem within_primary (phrase : Phrase) : Within phrase .primary := by
  cases phrase with
  | disjunction => exact .step .disjunction (.step .conjunction (.step .comparison .same))
  | conjunction => exact .step .conjunction (.step .comparison .same)
  | comparison => exact .step .comparison .same
  | primary => exact .same

theorem disjunction_within (phrase : Phrase) : Within .disjunction phrase := by
  cases phrase with
  | disjunction => exact .same
  | conjunction => exact .step .disjunction .same
  | comparison => exact .step .disjunction (.step .conjunction .same)
  | primary => exact within_primary .disjunction

theorem derives_within (within : Within phrase operand) (derives : Derives catalog operand tokens condition) :
    Derives catalog phrase tokens condition := by
  induction within with
  | same => exact derives
  | step above inner ih =>
    apply Derives.single above
    exact ih derives

-- The most parentheses that are open at one time, some being open in front already.
def nesting (opened : Nat) : List Token → Nat
  | [] => opened
  | .openParen :: rest => nesting (opened + 1) rest
  | .closeParen :: rest => max opened (nesting (opened - 1) rest)
  | _ :: rest => nesting opened rest

theorem le_nesting (opened : Nat) (tokens : List Token) : opened ≤ nesting opened tokens := by
  fun_induction nesting opened tokens with
  | case1 => exact Nat.le_refl _
  | case2 _ _ ih => omega
  | case3 => exact Nat.le_max_left _ _
  | case4 _ _ _ _ _ ih => exact ih

theorem nesting_operator (joins : Joins phrase token operator) (opened : Nat) (rest : List Token) :
    nesting opened (token :: rest) = nesting opened rest := by
  cases joins <;> rfl

-- A phrase closes what it opens, so what stands behind it nests from the same level.
theorem nesting_append (derives : Derives catalog phrase tokens condition) (opened : Nat)
    (rest : List Token) :
    nesting opened (tokens ++ rest) = max (nesting opened tokens) (nesting opened rest) := by
  induction derives generalizing opened rest with
  | number | string | boolean | knownWord =>
    simp only [List.cons_append,List.nil_append,nesting]
    symm
    apply Nat.max_eq_right
    exact le_nesting opened rest
  | parenthesized inner ih =>
    simp only [List.cons_append,List.append_assoc,List.nil_append,nesting,ih,Nat.add_sub_cancel]
    have := le_nesting opened rest
    omega
  | single above inner ih => exact ih opened rest
  | joined above joins left right ihLeft ihRight =>
    rw [List.append_assoc,List.cons_append,ihLeft,ihLeft,nesting_operator joins,
      nesting_operator joins,ihRight,Nat.max_assoc]
  | bareText known left ih =>
    rw [List.append_assoc,ih,ih]
    simp only [List.cons_append,List.nil_append,nesting]
    have := le_nesting opened rest
    omega

theorem nesting_parentheses (derives : Derives catalog phrase tokens condition) (opened : Nat) :
    nesting opened (.openParen :: (tokens ++ [.closeParen])) = nesting (opened + 1) tokens := by
  have deep := le_nesting (opened + 1) tokens
  simp only [nesting,nesting_append derives,Nat.add_sub_cancel]
  omega

def balance : List Token → Int
  | [] => 0
  | .openParen :: rest => balance rest + 1
  | .closeParen :: rest => balance rest - 1
  | _ :: rest => balance rest

theorem balance_append (front back : List Token) :
    balance (front ++ back) = balance front + balance back := by
  fun_induction balance front with
  | case1 => simp
  | case2 _ ih | case3 _ ih => simp only [List.cons_append,balance,ih]; omega
  | case4 _ _ _ _ ih => simpa only [List.cons_append,balance] using ih

theorem balance_operator (joins : Joins phrase token operator) (rest : List Token) :
    balance (token :: rest) = balance rest := by
  cases joins <;> rfl

def Balanced (tokens : List Token) : Prop :=
  balance tokens = 0 ∧ ∀ front back, tokens = front ++ back → 0 ≤ balance front

theorem balanced_single (neutral : balance [token] = 0) : Balanced [token] := by
  refine ⟨neutral,?_⟩
  intro front back parts
  rcases List.append_eq_cons_iff.mp parts.symm with ⟨rfl,_⟩ | ⟨more,rfl,nothing⟩
  · exact Int.le_refl 0
  · obtain ⟨rfl,_⟩ := List.append_eq_nil_iff.mp nothing.symm
    exact Int.le_of_eq neutral.symm

theorem Balanced.append (first : Balanced tokens) (second : Balanced more) :
    Balanced (tokens ++ more) := by
  refine ⟨by rw [balance_append,first.1,second.1]; rfl,?_⟩
  intro front back parts
  rcases List.append_eq_append_iff.mp parts with ⟨inside,rfl,rest⟩ | ⟨left,rest,_⟩
  · rw [balance_append,first.1]
    have := second.2 inside back rest
    omega
  · exact first.2 front left rest

theorem Balanced.parenthesized (inner : Balanced tokens) :
    Balanced (.openParen :: (tokens ++ [.closeParen])) := by
  refine ⟨by simp [balance,balance_append,inner.1],?_⟩
  intro front back parts
  rcases List.append_eq_cons_iff.mp parts.symm with ⟨rfl,_⟩ | ⟨front,rfl,inside⟩
  · exact Int.le_refl 0
  · rcases List.append_eq_append_iff.mp inside with ⟨closing,rfl,rest⟩ | ⟨left,rest,_⟩
    · rcases List.append_eq_cons_iff.mp rest.symm with ⟨rfl,_⟩ | ⟨more,rfl,nothing⟩
      · simp [balance,inner.1]
      · obtain ⟨rfl,_⟩ := List.append_eq_nil_iff.mp nothing.symm
        simp [balance,balance_append,inner.1]
    · have := inner.2 front left rest
      simp only [balance]
      omega

theorem derives_balanced (derives : Derives catalog phrase tokens condition) : Balanced tokens := by
  induction derives with
  | number | string | boolean | knownWord => exact balanced_single rfl
  | parenthesized inner ih => exact ih.parenthesized
  | single above inner ih => exact ih
  | joined above joins left right ihLeft ihRight =>
    apply ihLeft.append
    apply (balanced_single (balance_operator joins [])).append
    exact ihRight
  | bareText known left ih =>
    apply ih.append
    exact (balanced_single rfl).append (balanced_single rfl)

def Phrase.rank : Phrase → Nat
  | disjunction => 0
  | conjunction => 1
  | comparison => 2
  | primary => 3

theorem rank_over (above : Over phrase operand) : phrase.rank < operand.rank := by
  cases above <;> decide

theorem joins_unique (joins : Joins phrase token operator) (other : Joins phrase' token operator') :
    phrase = phrase' ∧ operator = operator' := by
  cases joins <;> cases other <;> exact ⟨rfl,rfl⟩

def value? : Token → Option Value
  | .number n => some (.number n)
  | .string text | .word text => some (.string text)
  | .boolean truth => some (.boolean truth)
  | _ => none

theorem value_number (writes : value? token = some (.number n)) : token = .number n := by
  cases token <;> cases writes
  rfl

theorem joins_operator (joins : Joins phrase token operator) :
    value? token = none ∧ .openParen ≠ token ∧ .closeParen ≠ token := by
  cases joins <;> exact ⟨rfl,nofun,nofun⟩

theorem operand_ne (joins : Joins phrase token operator) (literal : value? other = some value) :
    other ≠ token := by
  intro same
  rw [same,(joins_operator joins).1] at literal
  cases literal

theorem looser_ne (joins : Joins level token operator) (other : Joins phrase token' operator')
    (looser : level.rank < phrase.rank) : token' ≠ token := by
  intro same
  subst same
  exact absurd (congrArg Phrase.rank (joins_unique joins other).1) (Nat.ne_of_lt looser)

-- Where a list cut at one place is cut at another: the same place, earlier or later.
theorem cut_cases {before behind front back : List α} {cut other : α}
    (same : before ++ cut :: behind = front ++ other :: back) :
    (before = front ∧ cut = other ∧ behind = back) ∨
    (∃ middle, before = front ++ other :: middle) ∨
    ∃ middle, front = before ++ cut :: middle ∧ behind = middle ++ other :: back := by
  rcases List.append_eq_append_iff.mp same with ⟨between,rfl,rest⟩ | ⟨between,rfl,rest⟩
  · rcases List.append_eq_cons_iff.mp rest.symm with ⟨rfl,rest⟩ | ⟨middle,rfl,rest⟩
    · obtain ⟨rfl,rfl⟩ := List.cons.inj rest
      exact .inl ⟨(List.append_nil _).symm,rfl,rfl⟩
    · exact .inr (.inr ⟨middle,rfl,(List.cons.inj rest).2⟩)
  · rcases List.append_eq_cons_iff.mp rest.symm with ⟨rfl,rest⟩ | ⟨middle,rfl,rest⟩
    · obtain ⟨rfl,rfl⟩ := List.cons.inj rest
      exact .inl ⟨List.append_nil _,rfl,rfl⟩
    · exact .inr (.inl ⟨middle,rfl⟩)

-- In front of the token, as often as it occurs, some parenthesis is open.
def Enclosed (token : Token) (tokens : List Token) : Prop :=
  ∀ front back, tokens = front ++ token :: back → 0 < balance front

theorem enclosed_single (different : other ≠ token) : Enclosed token [other] := by
  intro front back parts
  rcases List.append_eq_cons_iff.mp parts.symm with ⟨_,same⟩ | ⟨more,_,nothing⟩
  · exact absurd (List.cons.inj same).1.symm different
  · cases (List.append_eq_nil_iff.mp nothing.symm).2

theorem Enclosed.joined (first : Enclosed token before) (balanced : Balanced before)
    (different : other ≠ token) (neutral : balance [other] = 0) (second : Enclosed token behind) :
    Enclosed token (before ++ other :: behind) := by
  intro front back parts
  rcases cut_cases parts with ⟨_,same,_⟩ | ⟨middle,rfl⟩ | ⟨middle,rfl,rfl⟩
  · exact absurd same different
  · exact first front middle rfl
  · have inside := second middle back rfl
    rw [← List.singleton_append,balance_append,balance_append,balanced.1,neutral]
    omega

theorem Enclosed.parenthesized (balanced : Balanced tokens) (opens : .openParen ≠ token)
    (closes : .closeParen ≠ token) : Enclosed token (.openParen :: (tokens ++ [.closeParen])) := by
  intro front back parts
  rcases List.append_eq_cons_iff.mp parts.symm with ⟨_,same⟩ | ⟨front,rfl,inside⟩
  · exact absurd (List.cons.inj same).1.symm opens
  · have inner : 0 ≤ balance front := by
      rcases cut_cases inside with ⟨_,same,_⟩ | ⟨middle,rest⟩ | ⟨middle,_,nothing⟩
      · exact absurd same closes
      · exact balanced.2 front _ rest
      · cases (List.append_eq_nil_iff.mp nothing.symm).2
    simp only [balance]
    omega

-- The operators of the looser levels stand in parentheses only.
theorem derives_encloses (derives : Derives catalog phrase tokens condition)
    (joins : Joins level token operator) (looser : level.rank < phrase.rank) :
    Enclosed token tokens := by
  induction derives with
  | number | string | boolean | knownWord =>
    exact enclosed_single (operand_ne joins rfl)
  | parenthesized inner ih =>
    obtain ⟨_,opens,closes⟩ := joins_operator joins
    exact .parenthesized (derives_balanced inner) opens closes
  | single above inner ih =>
    apply ih
    exact Nat.lt_trans looser (rank_over above)
  | joined above joinsHere left right ihLeft ihRight =>
    apply (ihLeft looser).joined (derives_balanced left)
    · exact looser_ne joins joinsHere looser
    · exact balance_operator joinsHere []
    · exact ihRight (Nat.lt_trans looser (rank_over above))
  | bareText known left ih =>
    apply (ih looser).joined (derives_balanced left)
    · exact looser_ne joins (.comparator .equal) looser
    · rfl
    · exact enclosed_single (operand_ne joins rfl)

theorem not_enclosed (joins : Joins phrase token operator) (left : Balanced before)
    (whole : Balanced (before ++ token :: middle)) (right : Enclosed other (middle ++ other :: rest)) :
    False := by
  have inside := right middle rest rfl
  have settled := whole.1
  rw [balance_append,balance_operator joins,left.1] at settled
  omega

-- A level is cut at its last operator outside of parentheses, hence in one way only.
theorem cut_unique (joins : Joins phrase token operator) (joins' : Joins phrase token' operator')
    (left : Balanced before) (left' : Balanced before')
    (right : Enclosed token' behind) (right' : Enclosed token behind')
    (same : before ++ token :: behind = before' ++ token' :: behind') :
    before = before' ∧ token = token' ∧ behind = behind' := by
  rcases cut_cases same with here | ⟨middle,rfl⟩ | ⟨middle,rfl,rfl⟩
  · exact here
  · rw [List.append_assoc,List.cons_append] at same
    have rest := (List.cons.inj (List.append_cancel_left same)).2
    subst rest
    exact (not_enclosed joins' left' left right').elim
  · exact (not_enclosed joins left left' right).elim

theorem operand_encloses (above : Over phrase operand) (joins : Joins phrase token operator)
    (derives : Derives catalog operand tokens condition) : Enclosed token tokens :=
  derives_encloses derives joins (rank_over above)

theorem single_not_joined (above : Over phrase operand) (joins : Joins phrase token operator)
    (single : Derives catalog operand (before ++ token :: behind) condition)
    (left : Derives catalog phrase before leftSide) : False := by
  have inside := operand_encloses above joins single before behind rfl
  rw [(derives_balanced left).1] at inside
  exact Int.lt_irrefl 0 inside

theorem over_unique (above : Over phrase operand) (above' : Over phrase operand') : operand = operand' := by
  cases above <;> cases above' <;> rfl

theorem derives_token (derives : Derives catalog .primary [token] condition) :
    ∃ value, value? token = some value ∧ condition = .operand value := by
  generalize whole : [token] = tokens at derives
  cases derives with
  | number | string | boolean | knownWord => cases whole; exact ⟨_,rfl,rfl⟩
  | parenthesized inner =>
    obtain ⟨_,nothing⟩ := List.cons.inj whole
    cases (List.append_eq_nil_iff.mp nothing.symm).2
  | single above | joined above => cases above

theorem derives_leaves (derives : Derives catalog phrase tokens condition) (value : Value)
    (leaf : value ∈ condition.leaves) : ∃ token ∈ tokens, value? token = some value := by
  induction derives with
  | number | string | boolean | knownWord =>
    cases List.mem_singleton.mp leaf
    exact ⟨_,List.mem_singleton_self _,rfl⟩
  | parenthesized inner ih =>
    obtain ⟨token,member,writes⟩ := ih leaf
    exact ⟨token,List.mem_cons_of_mem _ (List.mem_append_left _ member),writes⟩
  | single above inner ih => exact ih leaf
  | joined above joins left right ihLeft ihRight =>
    rcases List.mem_append.mp leaf with inLeft | inRight
    · obtain ⟨token,member,writes⟩ := ihLeft inLeft
      exact ⟨token,List.mem_append_left _ member,writes⟩
    · obtain ⟨token,member,writes⟩ := ihRight inRight
      exact ⟨token,List.mem_append_right _ (List.mem_cons_of_mem _ member),writes⟩
  | bareText known left ih =>
    rcases List.mem_append.mp leaf with inLeft | inRight
    · obtain ⟨token,member,writes⟩ := ih inLeft
      exact ⟨token,List.mem_append_left _ member,writes⟩
    · cases List.mem_singleton.mp inRight
      exact ⟨_,List.mem_append_right _ (List.mem_cons_of_mem _ (List.mem_singleton_self _)),rfl⟩

theorem derives_parentheses
    (derives : Derives catalog .primary (.openParen :: (tokens ++ [.closeParen])) condition) :
    Derives catalog .disjunction tokens condition := by
  generalize whole : Token.openParen :: (tokens ++ [.closeParen]) = all at derives
  cases derives with
  | number | string | boolean | knownWord => cases (List.cons.inj whole).1
  | parenthesized inner =>
    have same := List.append_cancel_right (List.cons.inj whole).2
    exact same ▸ inner
  | single above | joined above => cases above

-- Tokens have at most one derivation at a level, however deep.
theorem derives_unique (derives : Derives catalog phrase tokens condition)
    (other : Derives catalog phrase tokens condition') : condition = condition' := by
  induction derives generalizing condition' with
  | number | string | boolean | knownWord =>
    obtain ⟨value,found,rfl⟩ := derives_token other
    cases found
    rfl
  | parenthesized inner ih => exact ih (derives_parentheses other)
  | @single phrase operand tokens condition above inner ih =>
    generalize whole : tokens = all at other
    cases other with
    | number | string | boolean | knownWord | parenthesized => cases above
    | single above' inner' =>
      subst whole
      cases over_unique above above'
      exact ih inner'
    | joined above' joins left' right' =>
      subst whole
      exact (single_not_joined above joins inner left').elim
    | bareText known left' =>
      subst whole
      exact (single_not_joined above (.comparator .equal) inner left').elim
  | @joined phrase operand token operator before leftSide behind rightSide above joins left right ihLeft ihRight =>
    generalize whole : before ++ token :: behind = all at other
    cases other with
    | number | string | boolean | knownWord | parenthesized => cases above
    | single above' inner' =>
      subst whole
      exact (single_not_joined above' joins inner' left).elim
    | joined above' joins' left' right' =>
      cases over_unique above above'
      obtain ⟨rfl,rfl,rfl⟩ := cut_unique joins joins' (derives_balanced left) (derives_balanced left')
        (operand_encloses above joins' right) (operand_encloses above joins right') whole
      obtain ⟨_,rfl⟩ := joins_unique joins joins'
      rw [ihLeft left',ihRight right']
    | bareText known left' =>
      obtain ⟨rfl,rfl,rfl⟩ := cut_unique joins (.comparator .equal) (derives_balanced left)
        (derives_balanced left') (operand_encloses above (.comparator .equal) right)
        (enclosed_single (operand_ne joins rfl)) whole
      cases joins
      cases above
      obtain ⟨value,found,rfl⟩ := derives_token right
      cases found
      rw [ihLeft left']
  | @bareText name before text known left ih =>
    generalize whole : before ++ [Token.comparator .equal,.word text] = all at other
    cases other with
    | single above' inner' =>
      subst whole
      exact (single_not_joined above' (.comparator .equal) inner' left).elim
    | joined above' joins' left' right' =>
      obtain ⟨rfl,rfl,rfl⟩ := cut_unique (.comparator .equal) joins' (derives_balanced left)
        (derives_balanced left') (enclosed_single (operand_ne joins' rfl))
        (operand_encloses above' (.comparator .equal) right') whole
      cases joins'
      cases above'
      obtain ⟨value,found,rfl⟩ := derives_token right'
      cases found
      rw [ih left']
    | bareText known left' =>
      obtain ⟨rfl,_,texts⟩ := cut_unique (.comparator .equal) (.comparator .equal) (derives_balanced left)
        (derives_balanced left') (enclosed_single (operand_ne (.comparator .equal) rfl))
        (enclosed_single (operand_ne (.comparator .equal) rfl)) whole
      cases texts
      rw [ih left']

end Grammar

end Eligibility
