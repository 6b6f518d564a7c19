import Eligibility.Condition.Edit
import Eligibility.Proofs.Condition.Edits
import Eligibility.Proofs.Condition.Parts
import Eligibility.Proofs.Condition.Wire
import Eligibility.Proofs.Rule.RoundTrip

namespace Eligibility

namespace Condition

-- What the library makes of texts and documents, and of such conditions by joining and editing.
inductive Built : Condition → Prop where
  | read (catalog : Catalog) (rule : String) (accepted : Condition.read catalog rule = .ok condition) :
      Built condition
  | ofText (text : String) (accepted : Condition.ofText text = .ok condition) : Built condition
  | ofTabled (json : Json) (accepted : Condition.ofTabled json = .ok condition) : Built condition
  | combine (parts : List Condition) (operator : String) (all : ∀ part ∈ parts, Built part)
      (accepted : Condition.combine parts operator = .ok (some condition)) : Built condition
  | replace (whole : Built before) (path : Path) (fresh : Built part)
      (accepted : before.replace path part = .ok condition) : Built condition
  | setOperator (whole : Built before) (path : Path) (text : String)
      (accepted : before.setOperator path text = .ok condition) : Built condition
  | setOperand (whole : Built before) (path : Path) (value : Value)
      (accepted : before.setOperand path value = .ok condition) : Built condition
  | add (whole : Built before) (path : Path) (fresh : Built expression) (operator : Option String)
      (accepted : before.add path expression operator = .ok condition) : Built condition
  | remove (whole : Built before) (path : Path) (accepted : before.remove path = .ok condition) :
      Built condition

-- What storage and evaluation rely on.
structure Storable (condition : Condition) : Prop where
  shallow : condition.depth ≤ maxDepth
  finite : condition.isFinite = true

theorem read_storable (accepted : read catalog rule = .ok condition) : Storable condition := by
  obtain ⟨lexemes,cut,fits⟩ := read_cut accepted
  refine ⟨fits.shallow,(isFinite_leaves condition).mpr ?_⟩
  intro n leaf
  obtain ⟨token,member,writes⟩ := Grammar.derives_leaves fits.derives _ leaf
  obtain ⟨lexeme,present,rfl⟩ := List.mem_map.mp member
  obtain ⟨spelling,_,spells⟩ := Lexeme.member_spelled cut present
  exact Token.spells_finite (Grammar.value_number writes ▸ spells)

theorem toCondition_storable (wire : Wire) (finite : wire.isFinite = true)
    (accepted : wire.toCondition 1 = .ok condition) : Storable condition := by
  have bound := wire.toCondition_depth 1 accepted
  exact ⟨by omega,wire.toCondition_finite 1 accepted finite⟩

theorem ofText_storable (accepted : ofText text = .ok condition) : Storable condition := by
  unfold ofText ofWire at accepted
  split at accepted
  · cases accepted
  next wire found =>
    obtain ⟨json,_,inText⟩ := Option.bind_eq_some_iff.mp found
    apply toCondition_storable wire _ accepted
    exact Wire.ofJson_finite json (Option.filter_eq_some_iff.mp inText).1

theorem ofTabled_storable (accepted : ofTabled json = .ok condition) : Storable condition := by
  unfold ofTabled ofWire at accepted
  split at accepted
  · cases accepted
  next wire found => exact toCondition_storable wire (Wire.ofJson_finite _ found) accepted

def join (connective : Connective) (left right : Condition) : Except Fault Condition :=
  (compound (.logical connective) left right).limited

theorem foldlM_measured (connective : Connective) (first : Condition) (rest : List Condition) :
    rest.foldlM (fun whole next => Measured.join (.logical connective) whole next.measured) first.measured =
      (rest.foldlM (join connective) first).map measured := by
  induction rest generalizing first with
  | nil => rfl
  | cons next rest ih =>
    rw [List.foldlM_cons,List.foldlM_cons,Measured.join_limited]
    change ((join connective first next).map measured).bind _ = ((join connective first next).bind _).map measured
    cases join connective first next with
    | error fault => rfl
    | ok joined => exact ih joined

theorem combine_join (first : Condition) (rest : List Condition) (operator : String) :
    combine (first :: rest) operator = (Connective.read operator).bind fun connective =>
      (rest.foldlM (join connective) first).map some := by
  unfold combine
  cases Connective.read operator with
  | error fault => rfl
  | ok connective =>
    simp only [foldlM_measured,Except.bind]
    cases rest.foldlM (join connective) first <;> rfl

theorem join_storable (left : Storable first) (right : Storable second)
    (accepted : join connective first second = .ok condition) : Storable condition := by
  obtain ⟨rfl,shallow⟩ := limited_ok accepted
  exact ⟨shallow,(Bool.and_eq_true _ _).mpr ⟨left.finite,right.finite⟩⟩

theorem joined_storable (connective : Connective) (rest : List Condition) (start : Storable first)
    (all : ∀ part ∈ rest, Storable part)
    (accepted : rest.foldlM (join connective) first = .ok condition) : Storable condition := by
  induction rest generalizing first with
  | nil => cases accepted; exact start
  | cons next rest ih =>
    rw [List.foldlM_cons] at accepted
    obtain ⟨joined,joins,further⟩ := bind_ok accepted
    apply ih _ _ further
    · exact join_storable start (all next (List.mem_cons_self ..)) joins
    · intro part member
      exact all part (List.mem_cons_of_mem _ member)

theorem combine_storable (parts : List Condition) (all : ∀ part ∈ parts, Storable part)
    (accepted : combine parts operator = .ok (some condition)) : Storable condition := by
  cases parts with
  | nil => cases accepted
  | cons first rest =>
    rw [combine_join] at accepted
    obtain ⟨connective,_,joins⟩ := bind_ok accepted
    cases joined : rest.foldlM (join connective) first with
    | error fault => rw [joined] at joins; cases joins
    | ok result =>
      rw [joined] at joins
      cases joins
      apply joined_storable connective rest _ _ joined
      · exact all first (List.mem_cons_self ..)
      · intro part member
        exact all part (List.mem_cons_of_mem _ member)

-- A new part is measured from where it stands, and beside it nothing changes.
theorem replace_storable (whole : Storable before) (finite : part.isFinite = true)
    (accepted : before.replace path part = .ok condition) : Storable condition := by
  obtain ⟨put,fits⟩ := replace_exact.mp accepted
  have bound := put_depth part path put
  have := whole.shallow
  exact ⟨by omega,put_finite part path put whole.finite finite⟩

theorem setOperator_storable (whole : Storable before)
    (accepted : before.setOperator path text = .ok condition) : Storable condition := by
  obtain ⟨_,_,puts,replaced⟩ := Edit.apply_sound (.setOperator path text) accepted
  cases puts with
  | setOperator found =>
    have finite := at_finite path found whole.finite
    refine replace_storable whole ?_ replaced
    exact finite

theorem setOperand_storable (whole : Storable before)
    (accepted : before.setOperand path value = .ok condition) : Storable condition := by
  obtain ⟨_,_,puts,replaced⟩ := Edit.apply_sound (.setOperand path value) accepted
  cases puts with
  | setOperand fits => exact replace_storable whole (setOperand.unfit_none.mp fits) replaced

theorem add_storable (whole : Storable before) (fresh : Storable expression)
    (accepted : before.add path expression operator = .ok condition) : Storable condition := by
  obtain ⟨_,_,puts,replaced⟩ := Edit.apply_sound (.add path expression operator) accepted
  cases puts with
  | add found =>
    refine replace_storable whole ?_ replaced
    exact (Bool.and_eq_true _ _).mpr ⟨at_finite path found whole.finite,fresh.finite⟩

theorem remove_storable (whole : Storable before)
    (accepted : before.remove path = .ok condition) : Storable condition := by
  obtain ⟨_,_,puts,replaced⟩ := Edit.apply_sound (.remove path) accepted
  cases puts with
  | remove found beside =>
    exact replace_storable whole (child_finite _ beside (at_finite _ found whole.finite)) replaced

theorem built_storable (built : Built condition) :
    condition.depth ≤ maxDepth ∧ condition.isFinite = true := by
  suffices storable : Storable condition from ⟨storable.shallow,storable.finite⟩
  induction built with
  | read catalog rule accepted => exact read_storable accepted
  | ofText text accepted => exact ofText_storable accepted
  | ofTabled json accepted => exact ofTabled_storable accepted
  | combine parts operator _ accepted all => exact combine_storable parts all accepted
  | replace _ path _ accepted whole fresh => exact replace_storable whole fresh.finite accepted
  | setOperator _ path text accepted whole => exact setOperator_storable whole accepted
  | setOperand _ path value accepted whole => exact setOperand_storable whole accepted
  | add _ path _ operator accepted whole fresh => exact add_storable whole fresh accepted
  | remove _ path accepted whole => exact remove_storable whole accepted

theorem edited_rule_storable :
    (compound (.logical .and)
      (compound (.comparison .greater) (operand (.string "salary")) (operand (.number Double.zero)))
      (operand (.boolean true))).depth ≤ maxDepth ∧
    (compound (.logical .and)
      (compound (.comparison .greater) (operand (.string "salary")) (operand (.number Double.zero)))
      (operand (.boolean true))).isFinite = true := by
  have readable : Catalog.Readable NameSet.empty := by
    intro name known
    cases known
  have rule := render_again readable
    (compound (.comparison .greater) (operand (.string "salary")) (operand (.boolean true))) rfl (by decide)
  have other := render_again readable (operand (.boolean true)) rfl (by decide)
  have changed := Built.setOperand (.read _ _ rule) [.right] (.number Double.zero) rfl
  exact built_storable (.add changed [] (.read _ _ other) none rfl)

end Condition

end Eligibility
