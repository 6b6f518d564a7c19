import Eligibility.Proofs.Condition.Built
import Eligibility.Proofs.Registry.Listing
import Eligibility.Proofs.Registry.Requests

namespace Eligibility

-- A single rule comes from one text, a combined one has a connective.
structure StoredRule.Sound (catalog : Catalog) (rule : StoredRule) : Prop where
  single : rule.key.kind = .single → rule.connective = none ∧ ∃ text, rule.texts = [text]
  combined : rule.key.kind = .combined → ∃ connective, rule.connective = some connective
  readable : ∀ text ∈ rule.texts, ∃ condition, Condition.read catalog text = .ok condition
  storable : ∀ condition, rule.condition = some condition → condition.Storable

namespace Registry

def Sound (registry : Registry) : Prop :=
  ∀ key rule, registry.find? key = some rule → rule.key = key ∧ rule.Sound registry.catalog

def Request.Storable (request : Request) : Prop :=
  ∀ key condition, request = .save key (some condition) → condition.Storable

variable {catalog : Catalog} {registry : Registry} {request : Request} {rule : StoredRule}

theorem makes_sound (makes : Makes catalog request rule) : rule.Sound catalog := by
  cases makes with
  | create reads =>
    refine ⟨fun _ => ⟨rfl,_,rfl⟩,nofun,?_,?_⟩
    · intro text member
      obtain rfl := List.mem_singleton.mp member
      exact ⟨_,reads⟩
    · rintro condition ⟨⟩
      exact Condition.read_storable reads
  | createCombined reads named joins =>
    refine ⟨nofun,fun _ => ⟨_,rfl⟩,(mapM_accepted _ _).mp ⟨_,reads⟩,?_⟩
    rintro condition same
    dsimp only at same
    rw [same] at joins
    refine Condition.combine_storable _ ?_ joins
    intro part member
    obtain ⟨text,_,accepted⟩ := mapM_results reads part member
    exact Condition.read_storable accepted

theorem turns_storable {before after : Option Condition} (turns : Turns catalog request before after)
    (given : request.Storable) (whole : ∀ condition, before = some condition → condition.Storable) :
    ∀ condition, after = some condition → condition.Storable := by
  cases turns with
  | save =>
    rintro condition rfl
    exact given _ condition rfl
  | setOperator accepted =>
    rintro condition ⟨⟩
    exact Condition.setOperator_storable (whole _ rfl) accepted
  | setOperand accepted =>
    rintro condition ⟨⟩
    exact Condition.setOperand_storable (whole _ rfl) accepted
  | add reads accepted =>
    rintro condition ⟨⟩
    exact Condition.add_storable (whole _ rfl) (Condition.read_storable reads) accepted
  | removePart accepted =>
    rintro condition ⟨⟩
    exact Condition.remove_storable (whole _ rfl) accepted

theorem empty_sound (catalog : Catalog) : Sound (ofCatalog catalog) := by
  intro key rule held
  rw [find?,ofCatalog,Table.find_empty] at held
  cases held

theorem put_sound (sound : Sound registry) {key : RuleKey} (own : rule.key = key)
    (fits : rule.Sound registry.catalog) : Sound (registry.put key rule) := by
  intro other held found
  rw [find_put] at found
  split at found
  next same =>
    cases found
    exact ⟨own.trans same.symm,fits⟩
  · exact sound other held found

theorem erase_sound (sound : Sound registry) (key : RuleKey) :
    Sound {registry with rules := registry.rules.erase key} := by
  intro other rule held
  rw [find?,Table.find_erase] at held
  split at held
  · cases held
  · exact sound other rule held

theorem step_sound (sound : Sound registry) (given : request.Storable) :
    Sound (registry.step request).2 := by
  have done := registry.step_done request
  generalize (registry.step request).1 = answer,(registry.step request).2 = after at done
  cases done with
  | refused => exact sound
  | looked => exact sound
  | taken effect =>
    cases effect with
    | entered makes free => exact put_sound sound rfl (makes_sound makes)
    | altered addressed held turns =>
      obtain ⟨own,fits⟩ := sound _ _ held
      refine put_sound sound ?_ ?_
      · exact own
      · exact ⟨fits.single,fits.combined,fits.readable,turns_storable turns given fits.storable⟩
    | removed held => exact erase_sound sound _
    | cleared => exact empty_sound _

theorem run_sound (requests : List Request) (sound : Sound registry)
    (given : ∀ request ∈ requests, request.Storable) : Sound (registry.run requests) := by
  induction requests generalizing registry with
  | nil => exact sound
  | cons request rest ih =>
    have ⟨first,further⟩ := List.forall_mem_cons.mp given
    exact ih (step_sound sound first) further

-- Whatever requests lead to, the names listed are those of the rules held.
theorem reached_sound (catalog : Catalog) (requests : List Request)
    (saved : ∀ key condition, .save key (some condition) ∈ requests →
      condition.depth ≤ Condition.maxDepth ∧ condition.isFinite = true) :
    ((ofCatalog catalog).run requests).catalog = catalog ∧
    Sound ((ofCatalog catalog).run requests) ∧
    (∀ kind, Listed ((ofCatalog catalog).run requests) kind) ∧
    (((ofCatalog catalog).run requests).isEmpty = true ↔
      ((ofCatalog catalog).run requests).names .single = [] ∧
        ((ofCatalog catalog).run requests).names .combined = []) := by
  have given : ∀ request ∈ requests, request.Storable := by
    rintro request member key condition rfl
    have ⟨shallow,finite⟩ := saved key condition member
    exact ⟨shallow,finite⟩
  exact ⟨run_catalog _ requests,run_sound requests (empty_sound catalog) given,listed _,isEmpty_iff _⟩

def mixedRequests : List Request :=
  [.create "open" "true OR false",.setOperator ⟨.single,"open"⟩ [] "and",.createCombined "none" [] "or",
    .save ⟨.combined,"none"⟩ (some (.operand (.boolean true)))]

theorem mixedRequests_sound :
    ((ofCatalog Catalog.standard).run mixedRequests).contains ⟨.single,"open"⟩ = true ∧
    ((ofCatalog Catalog.standard).run mixedRequests).contains ⟨.combined,"none"⟩ = true ∧
    Sound ((ofCatalog Catalog.standard).run mixedRequests) := by
  refine ⟨by decide +kernel,by decide +kernel,(reached_sound Catalog.standard mixedRequests ?_).2.1⟩
  intro key condition member
  obtain ⟨_,rfl⟩ : key = ⟨.combined,"none"⟩ ∧ condition = .operand (.boolean true) := by
    simpa [mixedRequests] using member
  exact ⟨by decide,rfl⟩

end Registry

end Eligibility
