import Eligibility.Proofs.Registry.Listing
import Eligibility.Proofs.Registry.Requests

namespace Eligibility

namespace Registry

open Operation (perform_bind perform_map)

-- Two registries that requests to one key cannot tell apart.
structure Agree (key : RuleKey) (one other : Registry) : Prop where
  catalog : one.catalog = other.catalog
  found : one.find? key = other.find? key

structure Same (one other : Registry) : Prop where
  catalog : one.catalog = other.catalog
  found : ∀ key, one.find? key = other.find? key

-- What an operation answers, and does to one key, shows from what lies under that key.
def Local (key : RuleKey) (operation : Operation Registry α) : Prop :=
  ∀ one other, Agree key one other → (operation.perform one).1 = (operation.perform other).1 ∧
    Agree key (operation.perform one).2 (operation.perform other).2

-- Requests of several clients, one at a time, each client's in its own order.
inductive Interleaved : List (List Request) → List Request → Prop where
  | done (finished : ∀ client ∈ clients, client = []) : Interleaved clients []
  | next (request : Request) (before after : List (List Request))
      (further : Interleaved (before ++ rest :: after) mixed) :
      Interleaved (before ++ (request :: rest) :: after) (request :: mixed)

def Foreign (one other : List Request) : Prop :=
  ∀ request ∈ one, ∀ further ∈ other, request.key? ≠ further.key?

structure Apart (clients : List (List Request)) : Prop where
  keyed : ∀ request ∈ clients.flatten, request.key? ≠ none
  distinct : clients.Pairwise Foreign

section

variable {key : RuleKey} {one other : Registry} {rule : StoredRule} {request : Request}

theorem put_agree (agree : Agree key one other) (place : RuleKey) (rule : StoredRule) :
    Agree key (one.put place rule) (other.put place rule) := by
  refine ⟨agree.catalog,?_⟩
  rw [find_put,find_put,agree.found]

theorem erase_agree (agree : Agree key one other) (place : RuleKey) :
    Agree key {one with rules := one.rules.erase place} {other with rules := other.rules.erase place} := by
  refine ⟨agree.catalog,?_⟩
  have found : one.rules.find? key = other.rules.find? key := agree.found
  simp only [find?,Table.find_erase,found]

theorem read_same (agree : Agree key one other) : one.read = other.read := by
  unfold Registry.read
  rw [agree.catalog]

theorem get_same (agree : Agree key one other) : one.get key = other.get key := by
  simp only [get,agree.found]

theorem contains_same (agree : Agree key one other) : one.contains key = other.contains key :=
  congrArg Option.isSome agree.found

theorem vacant_same (agree : Agree key one other) : one.vacant key = other.vacant key := by
  simp only [vacant,contains_same agree]

theorem evaluate_same (agree : Agree key one other) (record : Record) :
    one.evaluate key record = other.evaluate key record := by
  simp only [Registry.evaluate,get_same agree]

theorem Local.look {question : Registry → Except Fault α}
    (same : ∀ one other, Agree key one other → question one = question other) :
    Local key (Operation.look question) :=
  fun one other agree => ⟨same one other agree,agree⟩

theorem Local.lift (answer : Except Fault α) : Local key (liftM answer) := fun _ _ agree => ⟨rfl,agree⟩

theorem Local.bind {operation : Operation Registry α} {next : α → Operation Registry β}
    (first : Local key operation) (further : ∀ result, Local key (next result)) :
    Local key (operation >>= next) := by
  intro one other agree
  obtain ⟨answers,agrees⟩ := first one other agree
  rw [perform_bind,perform_bind,answers]
  cases (operation.perform other).1 with
  | error fault => exact ⟨rfl,agrees⟩
  | ok result => exact further result _ _ agrees

theorem Local.map {operation : Operation Registry α} (known : Local key operation) (change : α → β) :
    Local key (change <$> operation) := by
  intro one other agree
  obtain ⟨answers,agrees⟩ := known one other agree
  rw [perform_map,perform_map,answers]
  exact ⟨rfl,agrees⟩

theorem get_local (key : RuleKey) : Local key (Operation.look (·.get key)) := .look fun _ _ => get_same

theorem write_local (key : RuleKey) (rule : StoredRule) : Local key (write key rule) :=
  fun _ _ agree => ⟨rfl,put_agree agree key rule⟩

theorem enter_local (own : rule.key = key) : Local key (enter rule) := by
  subst own
  exact .bind (.look fun _ _ => vacant_same) fun _ => write_local _ rule

theorem create_local (name text : String) : Local ⟨.single,name⟩ (create name text) :=
  .bind (.look fun _ _ agree => by rw [read_same agree]) fun _ => enter_local rfl

theorem createCombined_local (name : String) (texts : List String) (operator : String) :
    Local ⟨.combined,name⟩ (createCombined name texts operator) := by
  refine .bind (.look fun _ _ agree => by rw [read_same agree]) fun _ => ?_
  exact .bind (.lift _) fun _ => .bind (.lift _) fun _ => enter_local rfl

theorem save_local (key : RuleKey) (condition : Option Condition) : Local key (save key condition) :=
  .bind (get_local key) fun _ => write_local key _

theorem edit_local (key : RuleKey) (edit : Edit) : Local key (Registry.edit key edit) := by
  refine .bind (get_local key) fun rule => ?_
  cases rule.condition with
  | none => exact .lift (.error _)
  | some condition => exact .bind (.lift _) fun _ => write_local key _

theorem add_local (key : RuleKey) (path : Path) (text : String) (operator : Option String) :
    Local key (Registry.add key path text operator) :=
  .bind (.look fun _ _ agree => by rw [read_same agree]) fun _ => edit_local key _

theorem remove_local (key : RuleKey) : Local key (Registry.remove key) := by
  refine .bind (get_local key) fun rule => ?_
  exact fun _ _ agree => ⟨rfl,erase_agree agree key⟩

theorem serve_local (addressed : request.key? = some key) : Local key (serve request) := by
  cases request <;> cases addressed
  case create name text => exact (create_local name text).map _
  case createCombined name texts operator => exact (createCombined_local name texts operator).map _
  case get => exact (get_local key).map _
  case contains => exact Local.map (.look fun _ _ agree => by rw [contains_same agree]) _
  case evaluate record => exact Local.map (.look fun _ _ agree => evaluate_same agree record) _
  case save condition => exact (save_local key condition).map _
  case setOperator path text => exact (edit_local key _).map _
  case setOperand path value => exact (edit_local key _).map _
  case add path text operator => exact (add_local key path text operator).map _
  case removePart path => exact (edit_local key _).map _
  case remove => exact (remove_local key).map _

theorem step_concerned (agree : Agree key one other) (concerned : request.concerns key = true) :
    (one.step request).1 = (other.step request).1 ∧
      Agree key (one.step request).2 (other.step request).2 := by
  rcases (request.concerns_iff key).mp concerned with everyone | addressed
  · cases request <;> cases everyone
    exact ⟨rfl,agree.catalog,rfl⟩
  · exact serve_local addressed one other agree

theorem step_ignored (agree : Agree key one other) (ignored : request.concerns key = false) :
    Agree key (one.step request).2 other :=
  ⟨(one.step_catalog request).trans agree.catalog,(one.step_elsewhere key ignored).trans agree.found⟩

-- Two runs side by side, one of them without the requests that do not concern a key.
theorem run_concerned (requests : List Request) (agree : Agree key one other) :
    (one.trace requests).filter (·.request.concerns key) =
        other.trace (requests.filter (·.concerns key)) ∧
      Agree key (one.run requests) (other.run (requests.filter (·.concerns key))) := by
  induction requests generalizing one other with
  | nil => exact ⟨rfl,agree⟩
  | cons request rest ih =>
    cases concerned : request.concerns key with
    | true =>
      obtain ⟨answer,after⟩ := step_concerned agree concerned
      obtain ⟨answers,final⟩ := ih after
      simp only [trace,List.filter_cons,concerned,if_true,answer,answers,true_and]
      exact final
    | false =>
      simp only [trace,List.filter_cons,concerned,Bool.false_eq_true,if_false]
      exact ih (step_ignored agree concerned)

theorem Same.agree (same : Same one other) (key : RuleKey) : Agree key one other :=
  ⟨same.catalog,same.found key⟩

theorem Same.names (same : Same one other) (kind : RuleKind) : one.names kind = other.names kind := by
  refine congrArg NameSet.names (NameSet.eq_of_contains _ _ ?_)
  intro name
  have held := contains_same (same.agree ⟨kind,name⟩)
  rw [← NameSet.mem_names,← NameSet.mem_names]
  exact (one.mem_names kind name).trans (held ▸ (other.mem_names kind name).symm)

end

section

variable {clients before after : List (List Request)} {client rest one other mixed : List Request}
  {request : Request} {key : RuleKey}

theorem Foreign.left (foreign : Foreign (request :: rest) client) : Foreign rest client :=
  fun inner inside => foreign inner (List.mem_cons_of_mem _ inside)

theorem Foreign.right (foreign : Foreign client (request :: rest)) : Foreign client rest :=
  fun inner inside further member => foreign inner inside further (List.mem_cons_of_mem _ member)

theorem Apart.keep (apart : Apart (before ++ (request :: rest) :: after)) : Apart (before ++ rest :: after) := by
  obtain ⟨earlier,later,across⟩ := List.pairwise_append.mp apart.distinct
  obtain ⟨first,further⟩ := List.pairwise_cons.mp later
  refine ⟨?_,List.pairwise_append.mpr ⟨earlier,List.pairwise_cons.mpr ⟨?_,further⟩,?_⟩⟩
  · intro inner member
    apply apart.keyed
    simp only [List.flatten_append,List.flatten_cons,List.mem_append,List.mem_cons] at member ⊢
    exact member.imp_right (Or.imp_left .inr)
  · intro client there
    exact (first client there).left
  · intro client there
    have ⟨own,others⟩ := List.forall_mem_cons.mp (across client there)
    exact List.forall_mem_cons.mpr ⟨own.right,others⟩

theorem Apart.addressed (apart : Apart clients) (there : request ∈ clients.flatten)
    (concerned : request.concerns key = true) : request.key? = some key :=
  ((request.concerns_iff key).mp concerned).resolve_left (apart.keyed request there)

theorem Apart.alone (apart : Apart (before ++ (request :: rest) :: after))
    (concerned : request.concerns key = true) : before.flatten.filter (·.concerns key) = [] := by
  rw [List.filter_eq_nil_iff]
  intro earlier member shared
  obtain ⟨client,there,inside⟩ := List.mem_flatten.mp member
  have own := apart.addressed (by simp) concerned
  have foreign := apart.addressed (by simp [member]) shared
  obtain ⟨_,_,across⟩ := List.pairwise_append.mp apart.distinct
  exact across client there _ (List.mem_cons_self ..) earlier inside request (List.mem_cons_self ..)
    (foreign.trans own.symm)

-- What concerns a key comes from one client, and so in that client's order.
theorem interleaved_concerned (mixes : Interleaved clients mixed) (apart : Apart clients) (key : RuleKey) :
    mixed.filter (·.concerns key) = clients.flatten.filter (·.concerns key) := by
  induction mixes with
  | done finished => rw [List.flatten_eq_nil_iff.mpr finished]
  | next request before after further ih =>
    have follow := ih apart.keep
    simp only [List.flatten_append,List.flatten_cons,List.filter_append] at follow ⊢
    cases concerned : request.concerns key with
    | true =>
      rw [apart.alone concerned,List.nil_append] at follow ⊢
      simp only [List.filter_cons,concerned,if_true,List.cons_append,follow]
    | false => simpa [List.filter_cons,concerned] using follow

end

-- Clients without a common key lead to the same rules, and get the same answers, in whatever order their
-- requests come.
theorem keys_apart (start : Registry) :
    (∀ requests key,
      (start.run requests).find? key = (start.run (requests.filter (·.concerns key))).find? key ∧
      (start.trace requests).filter (·.request.concerns key) =
        start.trace (requests.filter (·.concerns key))) ∧
    (∀ clients one other, Apart clients → Interleaved clients one → Interleaved clients other →
      Same (start.run one) (start.run other) ∧
      (∀ kind, (start.run one).names kind = (start.run other).names kind) ∧
      ∀ key, (start.trace one).filter (·.request.concerns key) =
        (start.trace other).filter (·.request.concerns key)) := by
  have agree (key : RuleKey) : Agree key start start := ⟨rfl,rfl⟩
  refine ⟨?_,?_⟩
  · intro requests key
    obtain ⟨answers,final⟩ := run_concerned requests (agree key)
    exact ⟨final.found,answers⟩
  · intro clients one other apart first second
    have concerned (key : RuleKey) : one.filter (·.concerns key) = other.filter (·.concerns key) :=
      (interleaved_concerned first apart key).trans (interleaved_concerned second apart key).symm
    have same : Same (start.run one) (start.run other) := by
      refine ⟨(start.run_catalog one).trans (start.run_catalog other).symm,?_⟩
      intro key
      rw [(run_concerned one (agree key)).2.found,concerned,(run_concerned other (agree key)).2.found]
    refine ⟨same,same.names,?_⟩
    intro key
    rw [(run_concerned one (agree key)).1,concerned,(run_concerned other (agree key)).1]

-- Two clients, one name: as a single rule and as a combined one.
theorem shared_name_apart :
    Same ((ofCatalog Catalog.standard).run [.create "adult" "age",.createCombined "adult" [] "or"])
      ((ofCatalog Catalog.standard).run [.createCombined "adult" [] "or",.create "adult" "age"]) := by
  have apart : Apart [[.create "adult" "age"],[.createCombined "adult" [] "or"]] := by
    refine ⟨?_,?_⟩
    · simp [Request.key?]
    · simp [Foreign,Request.key?]
  have finished : Interleaved [[],[]] [] := .done (by simp)
  exact ((keys_apart _).2 _ _ _ apart (.next _ [] [_] (.next _ [[]] [] finished))
    (.next _ [_] [] (.next _ [] [[]] finished))).1

end Registry

end Eligibility
