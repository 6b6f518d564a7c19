namespace Eligibility

structure Table (κ α : Type) where
  entries : List (κ × α)
  distinct : (entries.map (·.1)).Nodup

namespace Table

variable {κ α : Type} [DecidableEq κ]

def empty : Table κ α := ⟨[],List.nodup_nil⟩

def keys (table : Table κ α) : List κ := table.entries.map (·.1)

def size (table : Table κ α) : Nat := table.entries.length

def find? (table : Table κ α) (key : κ) : Option α := table.entries.lookup key

def contains (table : Table κ α) (key : κ) : Bool := (table.find? key).isSome

def erase (table : Table κ α) (key : κ) : Table κ α :=
  ⟨table.entries.filter (·.1 ≠ key),
    table.distinct.sublist (List.filter_sublist.map _)⟩

theorem erase_keys (table : Table κ α) (key other : κ) :
    other ∈ (table.erase key).keys ↔ other ≠ key ∧ other ∈ table.keys := by
  simp only [keys,erase,List.mem_map,List.mem_filter,decide_eq_true_eq]
  constructor
  · rintro ⟨entry,⟨member,different⟩,rfl⟩
    exact ⟨different,entry,member,rfl⟩
  · rintro ⟨different,entry,member,rfl⟩
    exact ⟨entry,⟨member,different⟩,rfl⟩

-- Takes the place of an entry under the same key.
def insert (table : Table κ α) (key : κ) (value : α) : Table κ α :=
  ⟨(key,value) :: (table.erase key).entries,by
    rw [List.map_cons,List.nodup_cons]
    exact ⟨fun member => ((erase_keys table key key).mp member).1 rfl,(table.erase key).distinct⟩⟩

theorem lookup_filter_ne (entries : List (κ × α)) (key other : κ) (different : other ≠ key) :
    (entries.filter (·.1 ≠ key)).lookup other = entries.lookup other := by
  induction entries with
  | nil => rfl
  | cons entry rest ih =>
    obtain ⟨held,value⟩ := entry
    by_cases same : held = key
    · subst same
      have skipped : (other == held) = false := by simpa using different
      rw [List.filter_cons_of_neg (by simp),ih,List.lookup_cons,skipped]
    · rw [List.filter_cons_of_pos (by simpa using same),List.lookup_cons,List.lookup_cons,ih]

theorem lookup_filter_self (entries : List (κ × α)) (key : κ) :
    (entries.filter (·.1 ≠ key)).lookup key = none := by
  induction entries with
  | nil => rfl
  | cons entry rest ih =>
    obtain ⟨held,value⟩ := entry
    by_cases same : held = key
    · rw [List.filter_cons_of_neg (by simpa using same),ih]
    · have skipped : (key == held) = false := by simpa using fun equal => same equal.symm
      rw [List.filter_cons_of_pos (by simpa using same),List.lookup_cons,skipped]
      exact ih

theorem find_erase (table : Table κ α) (key other : κ) :
    (table.erase key).find? other = if other = key then none else table.find? other := by
  split
  next same => subst same; exact lookup_filter_self _ _
  next different => exact lookup_filter_ne _ _ _ different

theorem find_insert (table : Table κ α) (key other : κ) (value : α) :
    (table.insert key value).find? other = if other = key then some value else table.find? other := by
  split
  next same => subst same; simp [insert,find?]
  next different =>
    have skipped : (other == key) = false := by simpa using different
    simp only [insert,find?,List.lookup_cons,skipped]
    exact lookup_filter_ne _ _ _ different

theorem erase_absent (table : Table κ α) (key : κ) (absent : key ∉ table.keys) : table.erase key = table := by
  have kept : table.entries.filter (·.1 ≠ key) = table.entries := by
    refine List.filter_eq_self.mpr ?_
    intro entry member
    exact decide_eq_true fun same => absent (List.mem_map.mpr ⟨entry,member,same⟩)
  unfold erase
  simp only [kept]

theorem find_empty (key : κ) : (empty : Table κ α).find? key = none := rfl

theorem mem_keys (table : Table κ α) (key : κ) : key ∈ table.keys ↔ table.contains key = true := by
  rw [contains,find?,List.lookup_isSome_iff,keys,List.mem_map]
  constructor
  · rintro ⟨entry,member,rfl⟩
    exact ⟨entry,member,beq_self_eq_true _⟩
  · rintro ⟨entry,member,same⟩
    exact ⟨entry,member,(beq_iff_eq.mp same).symm⟩

theorem insert_size (table : Table κ α) (key : κ) (value : α) :
    (table.insert key value).size ≤ table.size + 1 :=
  Nat.succ_le_succ (List.length_filter_le _ _)

end Table

end Eligibility
