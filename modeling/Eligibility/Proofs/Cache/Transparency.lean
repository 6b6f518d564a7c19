import Eligibility.Cache

namespace Eligibility

namespace Cache

open Operation (perform_bind perform_look perform_lift perform_map)

-- Entries are what their texts are read as, and no more than the capacity.
structure Faithful (cache : Cache) : Prop where
  entries : ∀ rule condition, cache.held.find? rule = some condition →
    Condition.read Catalog.standard rule = .ok condition
  bounded : cache.size ≤ cache.capacity

inductive Reads (cache : Cache) (rule : String) : Except Fault Condition × Cache → Prop where
  | hit (held : cache.held.find? rule = some condition) : Reads cache rule (.ok condition,cache)
  | failed (absent : cache.held.find? rule = none)
      (fails : Condition.read Catalog.standard rule = .error fault) : Reads cache rule (.error fault,cache)
  | missed (absent : cache.held.find? rule = none)
      (reads : Condition.read Catalog.standard rule = .ok condition) :
      Reads cache rule (.ok condition,cache.keep rule condition)

structure Transparent (cache : Cache) : Prop extends Faithful cache where
  answers : ∀ rule, (cache.step (.read rule)).1 = (Condition.read Catalog.standard rule).map .condition
  failed : ∀ rule fault, (cache.step (.read rule)).1 = .error fault → (cache.step (.read rule)).2 = cache
  hit : ∀ rule, cache.contains rule = true → (cache.step (.read rule)).2 = cache
  kept : ∀ rule answer, 0 < cache.capacity → (cache.step (.read rule)).1 = .ok answer →
    (cache.step (.read rule)).2.contains rule = true
  checks : ∀ rule record, (cache.step (.check rule record)).1 =
    if isBlankText rule then .ok (.truth false)
    else (Condition.read Catalog.standard rule).map fun condition => .truth (verdict (some condition) record)

section

variable {cache : Cache} {rule : String} {condition : Condition} {answer : Answer} {fault : Fault}

theorem read_reads (cache : Cache) (rule : String) : Reads cache rule ((read rule).perform cache) := by
  unfold read
  rw [perform_bind,perform_look]
  cases held : cache.held.find? rule with
  | some condition => exact .hit held
  | none =>
    simp only [perform_bind,perform_lift]
    cases reads : Condition.read Catalog.standard rule with
    | error fault => exact .failed held reads
    | ok condition => exact .missed held reads

theorem keep_capacity (cache : Cache) (rule : String) (condition : Condition) :
    (cache.keep rule condition).capacity = cache.capacity := by
  unfold keep
  split <;> rfl

theorem keep_contains (room : 0 < cache.capacity) : (cache.keep rule condition).contains rule = true := by
  rw [keep,if_neg (by omega)]
  simp [contains,Table.contains,Table.find_insert]

theorem keep_faithful (faithful : Faithful cache)
    (reads : Condition.read Catalog.standard rule = .ok condition) : Faithful (cache.keep rule condition) := by
  unfold keep
  split
  · exact faithful
  next room =>
    refine ⟨?_,?_⟩
    · intro other found held
      dsimp only at held
      rw [Table.find_insert] at held
      split at held
      next same =>
        cases held
        exact same ▸ reads
      · split at held
        · cases held
        · exact faithful.entries other found held
    · -- A full store has been emptied, any other one has room for one more.
      refine Nat.le_trans (Table.insert_size _ _ _) ?_
      split
      · exact Nat.succ_le_of_lt (Nat.pos_of_ne_zero room)
      next more => exact Nat.lt_of_not_le more

theorem read_answer (faithful : Faithful cache) (rule : String) :
    ((read rule).perform cache).1 = Condition.read Catalog.standard rule := by
  have known := cache.read_reads rule
  generalize (read rule).perform cache = result at known
  cases known with
  | hit held => exact (faithful.entries _ _ held).symm
  | failed absent fails => exact fails.symm
  | missed absent reads => exact reads.symm

theorem read_faithful (faithful : Faithful cache) (rule : String) :
    Faithful ((read rule).perform cache).2 ∧ ((read rule).perform cache).2.capacity = cache.capacity := by
  have known := cache.read_reads rule
  generalize (read rule).perform cache = result at known
  cases known with
  | hit | failed => exact ⟨faithful,rfl⟩
  | missed absent reads => exact ⟨keep_faithful faithful reads,keep_capacity cache rule _⟩

theorem step_faithful (faithful : Faithful cache) (request : Request) :
    Faithful (cache.step request).2 ∧ (cache.step request).2.capacity = cache.capacity := by
  cases request with
  | read rule =>
    rw [step,serve,perform_map]
    exact read_faithful faithful rule
  | contains rule => exact ⟨faithful,rfl⟩
  | check rule record =>
    rw [step,serve,perform_map,check]
    split
    · exact ⟨faithful,rfl⟩
    · rw [perform_map]
      exact read_faithful faithful rule
  | clear => exact ⟨⟨nofun,Nat.zero_le _⟩,rfl⟩

theorem run_faithful (requests : List Request) (faithful : Faithful cache) :
    Faithful (cache.run requests) ∧ (cache.run requests).capacity = cache.capacity := by
  induction requests generalizing cache with
  | nil => exact ⟨faithful,rfl⟩
  | cons request rest ih =>
    obtain ⟨next,same⟩ := step_faithful faithful request
    obtain ⟨final,kept⟩ := ih next
    exact ⟨final,kept.trans same⟩

theorem step_read (faithful : Faithful cache) (rule : String) :
    (cache.step (.read rule)).1 = (Condition.read Catalog.standard rule).map .condition := by
  rw [step,serve,perform_map,read_answer faithful]

theorem step_failed (failed : (cache.step (.read rule)).1 = .error fault) :
    (cache.step (.read rule)).2 = cache := by
  rw [step,serve,perform_map] at failed ⊢
  have known := cache.read_reads rule
  generalize (read rule).perform cache = result at known failed ⊢
  cases known with
  | hit | missed => cases failed
  | failed => rfl

theorem step_hit (held : cache.contains rule = true) : (cache.step (.read rule)).2 = cache := by
  obtain ⟨condition,found⟩ := Option.isSome_iff_exists.mp held
  rw [step,serve,perform_map]
  have known := cache.read_reads rule
  generalize (read rule).perform cache = result at known ⊢
  cases known with
  | hit => rfl
  | failed absent | missed absent => cases absent.symm.trans found

theorem step_kept (room : 0 < cache.capacity) (taken : (cache.step (.read rule)).1 = .ok answer) :
    (cache.step (.read rule)).2.contains rule = true := by
  rw [step,serve,perform_map] at taken ⊢
  have known := cache.read_reads rule
  generalize (read rule).perform cache = result at known taken ⊢
  cases known with
  | hit held => exact Option.isSome_iff_exists.mpr ⟨_,held⟩
  | failed => cases taken
  | missed => exact keep_contains room

theorem step_check (faithful : Faithful cache) (rule : String) (record : Record) :
    (cache.step (.check rule record)).1 = if isBlankText rule then .ok (.truth false)
      else (Condition.read Catalog.standard rule).map fun condition => .truth (verdict (some condition) record) := by
  rw [step,serve,perform_map,check]
  split
  · rfl
  · rw [perform_map,read_answer faithful]
    cases Condition.read Catalog.standard rule <;> rfl

theorem faithful_transparent (faithful : Faithful cache) : Transparent cache where
  toFaithful := faithful
  answers := step_read faithful
  failed _ _ := step_failed
  hit _ := step_hit
  kept _ _ := step_kept
  checks := step_check faithful

end

-- Whatever is asked of a new store, also of the one that a program shares.
theorem run_transparent (capacity : Nat) (requests : List Request) :
    ((ofCapacity capacity).run requests).capacity = capacity ∧
      Transparent ((ofCapacity capacity).run requests) := by
  have new : Faithful (ofCapacity capacity) := ⟨nofun,Nat.zero_le _⟩
  obtain ⟨faithful,same⟩ := run_faithful requests new
  exact ⟨same,faithful_transparent faithful⟩

end Cache

end Eligibility
