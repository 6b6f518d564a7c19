import Eligibility.Registry

namespace Eligibility

namespace Registry

structure Listed (registry : Registry) (kind : RuleKind) : Prop where
  ascending : (registry.names kind).Pairwise (· < ·)
  exact : ∀ name, name ∈ registry.names kind ↔ registry.contains ⟨kind,name⟩ = true
  count : (registry.names kind).length = registry.size kind

variable (registry : Registry) (kind : RuleKind)

theorem mem_ofKind (key : RuleKey) :
    key ∈ registry.ofKind kind ↔ key.kind = kind ∧ registry.contains key = true := by
  rw [ofKind,List.mem_filter,Table.mem_keys,beq_iff_eq,and_comm]
  rfl

theorem ofKind_names : ((registry.ofKind kind).map (·.name)).Nodup := by
  have keys : (registry.ofKind kind).Nodup := List.Pairwise.filter _ registry.rules.distinct
  rw [List.nodup_iff_pairwise_ne,List.pairwise_map]
  refine List.Pairwise.imp_of_mem ?_ keys
  intro one other left right different same
  have kinds : one.kind = other.kind :=
    ((registry.mem_ofKind kind one).mp left).1.trans ((registry.mem_ofKind kind other).mp right).1.symm
  cases one
  cases other
  exact different ((RuleKey.mk.injEq ..).mpr ⟨kinds,same⟩)

theorem mem_names (name : String) :
    name ∈ registry.names kind ↔ registry.contains ⟨kind,name⟩ = true := by
  rw [names,NameSet.mem_names,NameSet.contains_ofList,List.mem_map]
  constructor
  · rintro ⟨key,member,rfl⟩
    obtain ⟨rfl,held⟩ := (registry.mem_ofKind kind key).mp member
    exact held
  · intro held
    exact ⟨⟨kind,name⟩,(registry.mem_ofKind kind _).mpr ⟨rfl,held⟩,rfl⟩

theorem names_length : (registry.names kind).length = registry.size kind := by
  rw [names,(NameSet.ofList_perm (registry.ofKind_names kind)).length_eq,List.length_map,size]

theorem listed : Listed registry kind :=
  ⟨NameSet.ascending _,registry.mem_names kind,registry.names_length kind⟩

theorem isEmpty_iff :
    registry.isEmpty = true ↔ registry.names .single = [] ∧ registry.names .combined = [] := by
  have unnamed (kind : RuleKind) : registry.names kind = [] ↔ ∀ name, registry.contains ⟨kind,name⟩ = false := by
    simp only [List.eq_nil_iff_forall_not_mem,mem_names,Bool.not_eq_true]
  have held : registry.isEmpty = true ↔ ∀ key, registry.contains key = false := by
    simp only [isEmpty,List.isEmpty_iff,← Bool.not_eq_true,← Table.mem_keys,contains]
    rw [← List.eq_nil_iff_forall_not_mem,Table.keys,List.map_eq_nil_iff]
  rw [held,unnamed,unnamed]
  constructor
  · intro all
    exact ⟨fun name => all _,fun name => all _⟩
  · rintro ⟨single,combined⟩ ⟨kind,name⟩
    cases kind with
    | single => exact single name
    | combined => exact combined name

end Registry

end Eligibility
