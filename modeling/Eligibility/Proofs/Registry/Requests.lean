import Eligibility.Proofs.Condition.Parts
import Eligibility.Registry

namespace Eligibility

namespace Registry

open Operation (perform_bind perform_look perform_lift perform_map)

namespace Request

-- The key a request is addressed to; clearing is addressed to none in particular.
def key? : Request → Option RuleKey
  | create name _ => some ⟨.single,name⟩
  | createCombined name _ _ => some ⟨.combined,name⟩
  | get key => some key
  | contains key => some key
  | evaluate key _ => some key
  | save key _ => some key
  | setOperator key _ _ => some key
  | setOperand key _ _ => some key
  | add key _ _ _ => some key
  | removePart key _ => some key
  | remove key => some key
  | clear => none

def concerns (key : RuleKey) (request : Request) : Bool := request.key?.all (· = key)

def asks : Request → Bool
  | get _ | contains _ | evaluate .. => true
  | _ => false

-- Requests that exchange the condition of a rule for another one.
def alters : Request → Bool
  | save .. | setOperator .. | setOperand .. | add .. | removePart .. => true
  | _ => false

theorem concerns_iff (key : RuleKey) (request : Request) :
    request.concerns key = true ↔ request.key? = none ∨ request.key? = some key := by
  unfold concerns
  cases request.key? with
  | none => simp
  | some other => simp

theorem alters_acts {request : Request} (alters : request.alters = true) : request.asks = false := by
  cases request with
  | save | setOperator | setOperand | add | removePart => rfl
  | create | createCombined | get | contains | evaluate | remove | clear => cases alters

end Request

inductive Makes (catalog : Catalog) : Request → StoredRule → Prop where
  | create (reads : Condition.read catalog text = .ok condition) :
      Makes catalog (.create name text) ⟨⟨.single,name⟩,[text],none,some condition⟩
  | createCombined (reads : texts.mapM (Condition.read catalog) = .ok conditions)
      (named : Connective.read operator = .ok connective)
      (joins : Condition.combine conditions connective.text = .ok condition) :
      Makes catalog (.createCombined name texts operator) ⟨⟨.combined,name⟩,texts,some connective,condition⟩

-- What becomes of a condition by a request: the saved one, or the outcome of one edit.
inductive Turns (catalog : Catalog) : Request → Option Condition → Option Condition → Prop where
  | save : Turns catalog (.save key after) before after
  | setOperator (accepted : before.setOperator path text = .ok after) :
      Turns catalog (.setOperator key path text) (some before) (some after)
  | setOperand (accepted : before.setOperand path value = .ok after) :
      Turns catalog (.setOperand key path value) (some before) (some after)
  | add (reads : Condition.read catalog text = .ok expression)
      (accepted : before.add path expression operator = .ok after) :
      Turns catalog (.add key path text operator) (some before) (some after)
  | removePart (accepted : before.remove path = .ok after) :
      Turns catalog (.removePart key path) (some before) (some after)

inductive Effect (registry : Registry) : Request → Answer → Registry → Prop where
  | entered (makes : Makes registry.catalog request rule) (free : registry.find? rule.key = none) :
      Effect registry request (.rule rule) (registry.put rule.key rule)
  | altered (addressed : request.key? = some key) (held : registry.find? key = some rule)
      (turns : Turns registry.catalog request rule.condition condition) :
      Effect registry request (.rule {rule with condition := condition})
        (registry.put key {rule with condition := condition})
  | removed (held : registry.find? key = some rule) :
      Effect registry (.remove key) (.rule rule) {registry with rules := registry.rules.erase key}
  | cleared : Effect registry .clear .done registry.clear

-- Either the work has come to a rule and its effect, or it has ended before anything was written.
inductive Outcome (registry : Registry) (request : Request) : Except Fault StoredRule × Registry → Prop where
  | refused : Outcome registry request (.error fault,registry)
  | taken (effect : Effect registry request (.rule rule) after) : Outcome registry request (.ok rule,after)

inductive Done (registry : Registry) (request : Request) : Except Fault Answer → Registry → Prop where
  | refused : Done registry request (.error fault) registry
  | looked (asks : request.asks = true) : Done registry request answer registry
  | taken (effect : Effect registry request answer after) : Done registry request (.ok answer) after

section

variable {registry after : Registry} {request : Request} {key : RuleKey} {rule : StoredRule} {edit : Edit}
  {answer : Answer} {fault : Fault}

theorem makes_key {catalog : Catalog} (makes : Makes catalog request rule) : request.key? = some rule.key := by
  cases makes <;> rfl

theorem find_put (registry : Registry) (key : RuleKey) (rule : StoredRule) (other : RuleKey) :
    (registry.put key rule).find? other = if other = key then some rule else registry.find? other :=
  Table.find_insert registry.rules key other rule

theorem contains_iff (registry : Registry) (key : RuleKey) :
    registry.contains key = true ↔ ∃ rule, registry.find? key = some rule := Option.isSome_iff_exists

theorem get_ok : registry.get key = .ok rule ↔ registry.find? key = some rule := by
  unfold get
  cases registry.find? key <;> simp

theorem vacant_ok : registry.vacant key = .ok () ↔ registry.find? key = none := by
  unfold vacant
  split
  next taken =>
    obtain ⟨rule,held⟩ := (contains_iff registry key).mp taken
    simp [held]
  next free =>
    rw [contains_iff] at free
    simpa [Option.eq_none_iff_forall_ne_some] using free

-- While a step only looks, a fault still ends the work with nothing written.
theorem Outcome.behind {operation : Operation Registry α} {next : α → Operation Registry StoredRule}
    {answer : Except Fault α} (looks : operation.perform registry = (answer,registry))
    (further : ∀ result, answer = .ok result → Outcome registry request ((next result).perform registry)) :
    Outcome registry request ((operation >>= next).perform registry) := by
  rw [perform_bind,looks]
  cases answer with
  | error fault => exact .refused
  | ok result => exact further result rfl

theorem enter_outcome (makes : Makes registry.catalog request rule) :
    Outcome registry request ((enter rule).perform registry) :=
  .behind (perform_look _ _) fun _ free => .taken (.entered makes (vacant_ok.mp free))

theorem create_outcome (registry : Registry) (name text : String) :
    Outcome registry (.create name text) ((create name text).perform registry) :=
  .behind (perform_look _ _) fun _ reads => enter_outcome (.create reads)

theorem createCombined_outcome (registry : Registry) (name : String) (texts : List String) (operator : String) :
    Outcome registry (.createCombined name texts operator) ((createCombined name texts operator).perform registry) := by
  refine .behind (perform_look _ _) fun conditions reads => ?_
  refine .behind (perform_lift _ _) fun connective named => ?_
  exact .behind (perform_lift _ _) fun condition joins => enter_outcome (.createCombined reads named joins)

theorem save_outcome (registry : Registry) (key : RuleKey) (condition : Option Condition) :
    Outcome registry (.save key condition) ((save key condition).perform registry) :=
  .behind (perform_look _ _) fun _ held => .taken (.altered rfl (get_ok.mp held) .save)

theorem edit_outcome (registry : Registry) (edit : Edit) (addressed : request.key? = some key)
    (turns : ∀ before after, edit.apply before = .ok after →
      Turns registry.catalog request (some before) (some after)) :
    Outcome registry request ((Registry.edit key edit).perform registry) := by
  refine .behind (perform_look _ _) fun rule held => ?_
  cases there : rule.condition with
  | none => exact .refused
  | some before =>
    refine .behind (perform_lift _ _) fun after accepted => ?_
    exact .taken (.altered addressed (get_ok.mp held) (there ▸ turns before after accepted))

theorem add_outcome (registry : Registry) (key : RuleKey) (path : Path) (text : String)
    (operator : Option String) :
    Outcome registry (.add key path text operator) ((Registry.add key path text operator).perform registry) :=
  .behind (perform_look _ _) fun _ reads => edit_outcome registry _ rfl fun _ _ accepted => .add reads accepted

theorem remove_outcome (registry : Registry) (key : RuleKey) :
    Outcome registry (.remove key) ((Registry.remove key).perform registry) :=
  .behind (perform_look _ _) fun _ held => .taken (.removed (get_ok.mp held))

theorem Outcome.done {operation : Operation Registry StoredRule}
    (known : Outcome registry request (operation.perform registry)) :
    Done registry request ((Answer.rule <$> operation).perform registry).1
      ((Answer.rule <$> operation).perform registry).2 := by
  rw [perform_map]
  generalize operation.perform registry = result at known
  cases known with
  | refused => exact .refused
  | taken effect => exact .taken effect

theorem look_done (question : Registry → Except Fault α) (change : α → Answer) (asks : request.asks = true) :
    Done registry request ((change <$> Operation.look question).perform registry).1
      ((change <$> Operation.look question).perform registry).2 := by
  rw [perform_map,perform_look]
  exact .looked asks

theorem step_done (registry : Registry) (request : Request) :
    Done registry request (registry.step request).1 (registry.step request).2 := by
  cases request with
  | create name text => exact Outcome.done (create_outcome registry name text)
  | createCombined name texts operator => exact Outcome.done (createCombined_outcome registry name texts operator)
  | get | contains | evaluate => exact look_done _ _ rfl
  | save key condition => exact Outcome.done (save_outcome registry key condition)
  | setOperator key path text =>
    exact Outcome.done (edit_outcome registry _ rfl fun _ _ accepted => .setOperator accepted)
  | setOperand key path value =>
    exact Outcome.done (edit_outcome registry _ rfl fun _ _ accepted => .setOperand accepted)
  | add key path text operator => exact Outcome.done (add_outcome registry key path text operator)
  | removePart key path => exact Outcome.done (edit_outcome registry _ rfl fun _ _ accepted => .removePart accepted)
  | remove key => exact Outcome.done (remove_outcome registry key)
  | clear => exact .taken .cleared

theorem write_taken (key : RuleKey) (rule : StoredRule) :
    (write key rule).perform registry = (.ok rule,registry.put key rule) := rfl

theorem enter_taken (free : registry.find? rule.key = none) :
    (enter rule).perform registry = (.ok rule,registry.put rule.key rule) := by
  simp only [enter,perform_bind,perform_look,vacant_ok.mpr free,write_taken]

theorem save_taken (held : registry.find? key = some rule) (condition : Option Condition) :
    (save key condition).perform registry =
      (.ok {rule with condition := condition},registry.put key {rule with condition := condition}) := by
  simp only [save,perform_bind,perform_look,get_ok.mpr held,write_taken]

theorem edit_taken {before after : Condition} (held : registry.find? key = some rule)
    (there : rule.condition = some before) (accepted : edit.apply before = .ok after) :
    (Registry.edit key edit).perform registry =
      (.ok {rule with condition := some after},registry.put key {rule with condition := some after}) := by
  simp only [Registry.edit,perform_bind,perform_look,perform_lift,get_ok.mpr held,there,accepted,write_taken]

theorem served {operation : Operation Registry StoredRule} (serves : serve request = Answer.rule <$> operation)
    (taken : operation.perform registry = (.ok rule,after)) :
    registry.step request = (.ok (.rule rule),after) := by
  rw [step,serves,perform_map,taken]
  rfl

theorem turns_taken {condition : Option Condition} (addressed : request.key? = some key)
    (held : registry.find? key = some rule) (turns : Turns registry.catalog request rule.condition condition) :
    registry.step request =
      (.ok (.rule {rule with condition := condition}),registry.put key {rule with condition := condition}) := by
  generalize there : rule.condition = before at turns
  cases turns with
  | save =>
    cases addressed
    exact served rfl (save_taken held _)
  | setOperator accepted | setOperand accepted | removePart accepted =>
    cases addressed
    exact served rfl (edit_taken held there accepted)
  | add reads accepted =>
    cases addressed
    refine served rfl ?_
    simp only [Registry.add,perform_bind,perform_look,Registry.read,reads]
    exact edit_taken held there accepted

theorem makes_taken (makes : Makes registry.catalog request rule) (free : registry.find? rule.key = none) :
    registry.step request = (.ok (.rule rule),registry.put rule.key rule) := by
  cases makes with
  | create reads =>
    refine served rfl ?_
    simp only [create,perform_bind,perform_look,Registry.read,reads]
    exact enter_taken free
  | createCombined reads named joins =>
    have readable : List.mapM registry.read _ = .ok _ := reads
    refine served rfl ?_
    simp only [createCombined,perform_bind,perform_look,perform_lift,readable,named,joins]
    exact enter_taken free

theorem effect_taken (effect : Effect registry request answer after) :
    registry.step request = (.ok answer,after) := by
  cases effect with
  | entered makes free => exact makes_taken makes free
  | altered addressed held turns => exact turns_taken addressed held turns
  | removed held =>
    refine served rfl ?_
    simp only [Registry.remove,perform_bind,perform_look,get_ok.mpr held]
    rfl
  | cleared => rfl

theorem step_exact (acts : request.asks = false) :
    registry.step request = (.ok answer,after) ↔ Effect registry request answer after := by
  constructor
  · intro taken
    have done := registry.step_done request
    rw [taken] at done
    cases done with
    | looked asks => rw [acts] at asks; cases asks
    | taken effect => exact effect
  · exact effect_taken

theorem step_refused (refused : (registry.step request).1 = .error fault) :
    (registry.step request).2 = registry := by
  have done := registry.step_done request
  rw [refused] at done
  generalize (registry.step request).2 = after at done
  cases done with
  | refused => rfl
  | looked => rfl

theorem step_catalog (registry : Registry) (request : Request) :
    (registry.step request).2.catalog = registry.catalog := by
  have done := registry.step_done request
  generalize (registry.step request).1 = answer,(registry.step request).2 = after at done
  cases done with
  | refused => rfl
  | looked => rfl
  | taken effect => cases effect <;> rfl

theorem step_elsewhere (registry : Registry) (key : RuleKey) (elsewhere : request.concerns key = false) :
    (registry.step request).2.find? key = registry.find? key := by
  have done := registry.step_done request
  generalize (registry.step request).1 = answer,(registry.step request).2 = after at done
  have different {other : RuleKey} (addressed : request.key? = some other) : key ≠ other := by
    rintro rfl
    rw [(request.concerns_iff key).mpr (.inr addressed)] at elsewhere
    cases elsewhere
  cases done with
  | refused => rfl
  | looked => rfl
  | taken effect =>
    cases effect with
    | entered makes free => rw [find_put,if_neg (different (makes_key makes))]
    | altered addressed held turns => rw [find_put,if_neg (different addressed)]
    | removed held => exact (Table.find_erase _ _ _).trans (if_neg (different rfl))
    | cleared => cases elsewhere

end

structure Event where
  request : Request
  answer : Except Fault Answer

def Event.succeeded (event : Event) : Bool := event.answer.isOk

def trace (registry : Registry) : List Request → List Event
  | [] => []
  | request :: rest => ⟨request,(registry.step request).1⟩ :: trace (registry.step request).2 rest

theorem run_catalog (registry : Registry) (requests : List Request) :
    (registry.run requests).catalog = registry.catalog := by
  induction requests generalizing registry with
  | nil => rfl
  | cons request rest ih => exact (ih (registry.step request).2).trans (registry.step_catalog request)

end Registry

end Eligibility
