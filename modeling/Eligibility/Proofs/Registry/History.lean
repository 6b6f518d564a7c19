import Eligibility.Proofs.Registry.Requests

namespace Eligibility

inductive Edited : Option Condition → List Edit → Option Condition → Prop where
  | nil : Edited condition [] condition
  | cons (accepted : Edit.apply before edit = .ok next) (further : Edited (some next) edits after) :
      Edited (some before) (edit :: edits) after

namespace Registry

def Request.edit? (catalog : Catalog) : Request → Option Edit
  | setOperator _ path text => some (.setOperator path text)
  | setOperand _ path value => some (.setOperand path value)
  | add _ path text operator =>
    (Condition.read catalog text).toOption.map fun expression => .add path expression operator
  | removePart _ path => some (.remove path)
  | _ => none

-- Requests after which it does not matter what lay under the key before.
def Request.settles : Request → Bool
  | create .. | createCombined .. | save .. | remove _ | clear => true
  | _ => false

def Event.settles (key : RuleKey) (event : Event) : Bool :=
  event.succeeded && event.request.settles && event.request.concerns key

def Event.edit? (catalog : Catalog) (key : RuleKey) (event : Event) : Option Edit :=
  if event.succeeded ∧ event.request.key? = some key then event.request.edit? catalog else none

def edits (catalog : Catalog) (key : RuleKey) (events : List Event) : List Edit :=
  events.filterMap (·.edit? catalog key)

inductive States (catalog : Catalog) : Request → RuleKey → Option Condition → Prop where
  | made (makes : Makes catalog request rule) : States catalog request rule.key rule.condition
  | saved : States catalog (.save key condition) key condition

-- The condition last stated for a key and the events since then; before that, the rule held at first.
inductive Origin (catalog : Catalog) (key : RuleKey) (first : Option StoredRule) :
    List Event → Option Condition → List Event → Prop where
  | kept (held : first = some rule) (unsettled : ∀ event ∈ events, event.settles key = false) :
      Origin catalog key first events rule.condition events
  | stated (earlier : List Event) (states : States catalog request key condition)
      (unsettled : ∀ event ∈ later, event.settles key = false) :
      Origin catalog key first (earlier ++ ⟨request,.ok answer⟩ :: later) condition later

def Grown (catalog : Catalog) (key : RuleKey) (first : Option StoredRule) (events : List Event)
    (condition : Option Condition) : Prop :=
  ∃ stated later, Origin catalog key first events stated later ∧
    Edited stated (edits catalog key later) condition

structure Replaced (before : Registry) (key : RuleKey) (rule : StoredRule) (after : Registry) : Prop where
  stored : after.get key = .ok rule
  elsewhere : ∀ other, other ≠ key → after.find? other = before.find? other
  catalog : after.catalog = before.catalog

section

variable {catalog : Catalog} {key : RuleKey} {first : Option StoredRule} {request : Request}
  {answer : Answer} {fault : Fault} {rule : StoredRule} {condition : Option Condition} {edit : Edit}
  {old new : Condition} {event : Event} {events : List Event}

theorem turns_edit {before after : Option Condition} (turns : Turns catalog request before after) :
    (∃ key, request = .save key after) ∨ ∃ edit old new, request.edit? catalog = some edit ∧
      before = some old ∧ edit.apply old = .ok new ∧ after = some new := by
  cases turns with
  | save => exact .inl ⟨_,rfl⟩
  | setOperator accepted => exact .inr ⟨_,_,_,rfl,rfl,accepted,rfl⟩
  | setOperand accepted => exact .inr ⟨_,_,_,rfl,rfl,accepted,rfl⟩
  | add reads accepted =>
    refine .inr ⟨.add _ _ _,_,_,?_,rfl,accepted,rfl⟩
    simp [Request.edit?,reads,Except.toOption]
  | removePart accepted => exact .inr ⟨_,_,_,rfl,rfl,accepted,rfl⟩

theorem edit_unsettled {edit : Edit} (asked : request.edit? catalog = some edit) :
    request.settles = false := by
  cases request with
  | setOperator | setOperand | add | removePart => rfl
  | create | createCombined | get | contains | evaluate | save | remove | clear => cases asked

theorem asks_idle (catalog : Catalog) (asks : request.asks = true) :
    request.settles = false ∧ request.edit? catalog = none := by
  cases request with
  | get | contains | evaluate => exact ⟨rfl,rfl⟩
  | create | createCombined | save | setOperator | setOperand | add | removePart | remove | clear => cases asks

theorem edits_cons : edits catalog key (event :: events) =
    (event.edit? catalog key).toList ++ edits catalog key events := by
  unfold edits
  cases asked : event.edit? catalog key <;> simp [asked]

-- Either nothing has settled the key, or whatever happens before makes no difference.
theorem grown_cases (grown : Grown catalog key first events condition) :
    (∃ rule, first = some rule ∧ (∀ event ∈ events, event.settles key = false) ∧
      Edited rule.condition (edits catalog key events) condition) ∨
    ∀ former event, Grown catalog key former (event :: events) condition := by
  obtain ⟨stated,later,origin,edited⟩ := grown
  cases origin with
  | kept held unsettled => exact .inl ⟨_,held,unsettled,edited⟩
  | stated earlier states unsettled =>
    exact .inr fun _ event => ⟨stated,later,.stated (event :: earlier) states unsettled,edited⟩

theorem grown_idle (idle : event.settles key = false) (unedited : event.edit? catalog key = none)
    (grown : Grown catalog key first events condition) : Grown catalog key first (event :: events) condition := by
  rcases grown_cases grown with ⟨rule,held,unsettled,edited⟩ | settled
  · refine ⟨_,_,.kept held (List.forall_mem_cons.mpr ⟨idle,unsettled⟩),?_⟩
    rwa [edits_cons,unedited]
  · exact settled first event

theorem grown_stated (states : States catalog request key rule.condition)
    (grown : Grown catalog key (some rule) events condition) :
    Grown catalog key first (⟨request,.ok answer⟩ :: events) condition := by
  rcases grown_cases grown with ⟨_,⟨⟩,unsettled,edited⟩ | settled
  · exact ⟨_,events,.stated [] states unsettled,edited⟩
  · exact settled first _

theorem grown_gone (grown : Grown catalog key none events condition) :
    Grown catalog key first (event :: events) condition := by
  rcases grown_cases grown with ⟨_,⟨⟩,_⟩ | settled
  exact settled first event

theorem grown_edited (idle : event.settles key = false) (asked : event.edit? catalog key = some edit)
    (before : rule.condition = some old) (accepted : edit.apply old = .ok new)
    (grown : Grown catalog key (some {rule with condition := some new}) events condition) :
    Grown catalog key (some rule) (event :: events) condition := by
  rcases grown_cases grown with ⟨_,⟨⟩,unsettled,edited⟩ | settled
  · refine ⟨_,_,.kept rfl (List.forall_mem_cons.mpr ⟨idle,unsettled⟩),?_⟩
    rw [edits_cons,asked,before]
    exact .cons accepted edited
  · exact settled _ event

theorem event_elsewhere (event : Event) (elsewhere : event.request.concerns key = false) :
    event.settles key = false ∧ event.edit? catalog key = none := by
  refine ⟨by simp [Event.settles,elsewhere],if_neg ?_⟩
  rintro ⟨_,addressed⟩
  rw [(event.request.concerns_iff key).mpr (.inr addressed)] at elsewhere
  cases elsewhere

theorem event_failed (event : Event) (failed : event.answer = .error fault) :
    event.settles key = false ∧ event.edit? catalog key = none := by
  have unmet : event.succeeded = false := by simp [Event.succeeded,failed,Except.isOk,Except.toBool]
  simp [Event.settles,Event.edit?,unmet]

theorem event_looked (event : Event) (asks : event.request.asks = true) :
    event.settles key = false ∧ event.edit? catalog key = none := by
  have idle := asks_idle catalog asks
  simp [Event.settles,Event.edit?,idle]

theorem grown_step (start : Registry) (request : Request)
    (grown : Grown start.catalog key ((start.step request).2.find? key) events condition) :
    Grown start.catalog key (start.find? key) (⟨request,(start.step request).1⟩ :: events) condition := by
  cases concerned : request.concerns key with
  | false =>
    rw [start.step_elsewhere key concerned] at grown
    obtain ⟨idle,unedited⟩ := event_elsewhere ⟨request,_⟩ concerned
    exact grown_idle idle unedited grown
  | true =>
    have done := start.step_done request
    generalize (start.step request).1 = answer,(start.step request).2 = after at done grown
    have same {other : RuleKey} (own : request.key? = some other) : other = key := by
      rcases (request.concerns_iff key).mp concerned with nobody | addressed
      · rw [nobody] at own; cases own
      · exact Option.some.inj (own.symm.trans addressed)
    cases done with
    | refused =>
      obtain ⟨idle,unedited⟩ := event_failed ⟨request,_⟩ rfl
      exact grown_idle idle unedited grown
    | looked asks =>
      obtain ⟨idle,unedited⟩ := event_looked ⟨request,answer⟩ asks
      exact grown_idle idle unedited grown
    | taken effect =>
      cases effect with
      | entered makes free =>
        obtain rfl := same (makes_key makes)
        rw [find_put,if_pos rfl] at grown
        exact grown_stated (.made makes) grown
      | altered own held turns =>
        obtain rfl := same own
        rw [held]
        rw [find_put,if_pos rfl] at grown
        rcases turns_edit turns with ⟨_,rfl⟩ | ⟨edit,old,new,asked,before,accepted,rfl⟩
        · cases own
          refine grown_stated ?_ grown
          exact .saved
        · exact grown_edited (by simp [Event.settles,edit_unsettled asked])
            ((if_pos ⟨rfl,own⟩).trans asked) before accepted grown
      | removed held =>
        obtain rfl := same rfl
        rw [find?,Table.find_erase,if_pos rfl] at grown
        exact grown_gone grown
      | cleared => exact grown_gone grown

theorem run_grown (start : Registry) (requests : List Request)
    (held : (start.run requests).find? key = some rule) :
    Grown start.catalog key (start.find? key) (start.trace requests) rule.condition := by
  induction requests generalizing start with
  | nil => exact ⟨_,[],.kept held (by simp [trace]),.nil⟩
  | cons request rest ih =>
    have grown := ih (start.step request).2 held
    rw [start.step_catalog request] at grown
    exact start.grown_step request grown

theorem altered_exact (alters : request.alters = true) (addressed : request.key? = some key)
    (start : Registry) :
    (start.step request).1 = .ok answer ↔ ∃ rule condition, start.find? key = some rule ∧
      Turns start.catalog request rule.condition condition ∧
      answer = .rule {rule with condition := condition} := by
  constructor
  · intro taken
    obtain ⟨after,step⟩ : ∃ after, start.step request = (.ok answer,after) := ⟨_,Prod.ext taken rfl⟩
    have effect := (step_exact (Request.alters_acts alters)).mp step
    cases effect with
    | entered makes => cases makes <;> cases alters
    | altered own held turns =>
      obtain rfl := Option.some.inj (own.symm.trans addressed)
      exact ⟨_,_,held,turns,rfl⟩
    | removed => cases alters
    | cleared => cases alters
  · rintro ⟨rule,condition,held,turns,rfl⟩
    rw [turns_taken addressed held turns]

theorem altered_replaced (alters : request.alters = true) (addressed : request.key? = some key)
    (start : Registry) (taken : (start.step request).1 = .ok (.rule rule)) :
    Replaced start key rule (start.step request).2 := by
  obtain ⟨former,condition,held,turns,same⟩ := (altered_exact alters addressed start).mp taken
  cases same
  rw [turns_taken addressed held turns]
  refine ⟨get_ok.mpr ?_,?_,rfl⟩
  · rw [find_put,if_pos rfl]
  · intro other different
    rw [find_put,if_neg different]

end

-- A condition held after a run is the one last stated under its key, with the edits since then that succeeded,
-- in their order.
theorem requests_atomic (start : Registry) :
    (∀ request fault, (start.step request).1 = .error fault → (start.step request).2 = start) ∧
    (∀ request key, request.alters = true → request.key? = some key →
      (∀ answer, (start.step request).1 = .ok answer ↔ ∃ rule condition, start.find? key = some rule ∧
        Turns start.catalog request rule.condition condition ∧
        answer = .rule {rule with condition := condition}) ∧
      ∀ rule, (start.step request).1 = .ok (.rule rule) → Replaced start key rule (start.step request).2) ∧
    (∀ requests key rule, (start.run requests).find? key = some rule →
      Grown start.catalog key (start.find? key) (start.trace requests) rule.condition) := by
  refine ⟨fun _ _ => step_refused,?_,fun requests _ _ => run_grown start requests⟩
  intro request key alters addressed
  exact ⟨fun _ => altered_exact alters addressed start,fun _ => altered_replaced alters addressed start⟩

-- An edit that fails is skipped, the next one is not.
example : ((ofCatalog Catalog.standard).run
    [.create "open" "true OR false",.setOperator ⟨.single,"open"⟩ [.left] "and",
      .setOperator ⟨.single,"open"⟩ [] "and"]).find? ⟨.single,"open"⟩ =
    some ⟨⟨.single,"open"⟩,["true OR false"],none,
      some (.compound (.logical .and) (.operand (.boolean true)) (.operand (.boolean false)))⟩ := by
  decide +kernel

end Registry

end Eligibility
