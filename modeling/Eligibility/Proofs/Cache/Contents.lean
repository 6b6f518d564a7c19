import Eligibility.Proofs.Cache.Transparency
import Eligibility.Proofs.Text
import Mathlib.Data.List.Basic

namespace Eligibility

namespace Cache

open Operation (perform_map)

def IsRule (rule : String) : Prop := ∃ condition, Condition.read Catalog.standard rule = .ok condition

def Request.rule? : Request → Option String
  | .read rule | .check rule _ => some rule
  | .contains _ | .clear => none

def Request.Obtains (request : Request) (rule : String) : Prop := request.rule? = some rule ∧ IsRule rule

-- What empties a store: to be cleared, or a rule it does not hold while it is full.
inductive Resets (cache : Cache) : Request → Prop where
  | clear : Resets cache .clear
  | full (obtains : request.Obtains rule) (new : cache.contains rule = false) (full : cache.size = cache.capacity) :
      Resets cache request

inductive Quiet : Cache → List Request → Prop where
  | nil : Quiet cache []
  | cons (stays : ¬Resets cache request) (further : Quiet (cache.step request).2 rest) : Quiet cache (request :: rest)

-- The requests since the last reset, with the one that made it; all of them if there was none.
inductive SinceReset (first : Cache) : List Request → List Request → Prop where
  | start (quiet : Quiet first requests) : SinceReset first requests requests
  | reset (earlier : List Request) (resets : Resets (first.run earlier) request)
      (quiet : Quiet ((first.run earlier).step request).2 later) :
      SinceReset first (earlier ++ request :: later) (request :: later)

-- In between are requests that fail, requests for a rule that is held, and questions.
inductive Brings : Cache → List Request → List String → Prop where
  | done : Brings cache [] []
  | next (obtains : request.Obtains rule) (further : Brings (cache.step request).2 rest rules) :
      Brings cache (request :: rest) (rule :: rules)
  | failed (asks : request.rule? = some rule) (fails : ¬IsRule rule)
      (further : Brings (cache.step request).2 rest rules) : Brings cache (request :: rest) rules
  | again (asks : request.rule? = some rule) (held : cache.contains rule = true)
      (further : Brings (cache.step request).2 rest rules) : Brings cache (request :: rest) rules
  | question (rule : String) (further : Brings cache rest rules) : Brings cache (.contains rule :: rest) rules

inductive Moves (cache : Cache) : Request → Cache → Prop where
  | question (rule : String) : Moves cache (.contains rule) cache
  | clear : Moves cache .clear cache.clear
  | failed (asks : request.rule? = some rule) (fails : ¬IsRule rule) : Moves cache request cache
  | hit (obtains : request.Obtains rule) (held : cache.contains rule = true) : Moves cache request cache
  | missed (obtains : request.Obtains rule) (new : cache.contains rule = false) (condition : Condition) :
      Moves cache request (cache.keep rule condition)

-- A store after rules that came in turn: emptied after some full rounds of them, it holds the last ones.
structure Holds (cache : Cache) (older last : List String) : Prop where
  keys : cache.held.keys.Perm last
  rounds : cache.capacity ∣ older.length
  fits : last.length ≤ cache.capacity
  begun : last = [] → older = []

section

variable {cache first after : Cache} {rule other : String} {request : Request} {requests recent : List Request}
  {rules older last : List String}

theorem mem_held : rule ∈ cache.held.keys ↔ cache.contains rule = true := Table.mem_keys cache.held rule

theorem contains_rule (faithful : Faithful cache) (held : cache.contains rule = true) : IsRule rule := by
  obtain ⟨condition,found⟩ := Option.isSome_iff_exists.mp held
  exact ⟨condition,faithful.entries rule condition found⟩

theorem blank_fails (blank : isBlankText rule = true) : ¬IsRule rule := by
  rintro ⟨condition,reads⟩
  unfold Condition.read at reads
  rw [Text.trim_blank (List.all_eq_true.mp blank)] at reads
  cases reads

theorem obtains_only (obtains : request.Obtains rule) : request.Obtains other ↔ other = rule := by
  constructor
  · intro further
    exact Option.some.inj (further.1.symm.trans obtains.1)
  · rintro rfl
    exact obtains

theorem obtains_none (asks : request.rule? = some rule) (fails : ¬IsRule rule) : ¬request.Obtains other := by
  rintro ⟨same,states⟩
  cases same.symm.trans asks
  exact fails states

theorem read_moves (faithful : Faithful cache) (asks : request.rule? = some rule) :
    Moves cache request ((read rule).perform cache).2 := by
  have known := cache.read_reads rule
  generalize (read rule).perform cache = result at known
  cases known with
  | hit held =>
    have there : cache.contains rule = true := Option.isSome_iff_exists.mpr ⟨_,held⟩
    exact .hit ⟨asks,contains_rule faithful there⟩ there
  | failed absent fails =>
    refine .failed asks ?_
    rintro ⟨condition,reads⟩
    cases fails.symm.trans reads
  | missed absent reads =>
    have new : cache.contains rule = false := Option.isSome_eq_false_iff.mpr (Option.isNone_iff_eq_none.mpr absent)
    exact .missed ⟨asks,_,reads⟩ new _

theorem step_moves (faithful : Faithful cache) (request : Request) : Moves cache request (cache.step request).2 := by
  cases request with
  | read rule =>
    rw [step,serve,perform_map]
    exact read_moves faithful rfl
  | contains rule => exact .question rule
  | check rule record =>
    have asks : (Request.check rule record).rule? = some rule := rfl
    rw [step,serve,perform_map,check]
    split
    next blank => exact .failed asks (blank_fails blank)
    · rw [perform_map]
      exact read_moves faithful asks
  | clear => exact .clear

theorem moves_new (moves : Moves cache request after) (obtains : request.Obtains rule)
    (new : cache.contains rule = false) : ∃ condition, after = cache.keep rule condition := by
  cases moves with
  | question => cases obtains.1
  | clear => cases obtains.1
  | failed asks fails => exact absurd obtains (obtains_none asks fails)
  | hit other held =>
    cases (obtains_only obtains).mp other
    rw [new] at held
    cases held
  | missed other _ condition =>
    cases (obtains_only obtains).mp other
    exact ⟨condition,rfl⟩

theorem moves_nothing (moves : Moves cache request after) (asks : request.rule? = some rule)
    (known : ¬IsRule rule ∨ cache.contains rule = true) : after = cache := by
  cases moves with
  | question | failed | hit => rfl
  | clear => cases asks
  | missed obtains new =>
    cases obtains.1.symm.trans asks
    rcases known with fails | held
    · exact absurd obtains.2 fails
    · rw [new] at held
      cases held

theorem keep_keys (room : 0 < cache.capacity) (new : cache.contains rule = false) (condition : Condition) :
    (cache.keep rule condition).held.keys =
      rule :: if cache.capacity ≤ cache.size then [] else cache.held.keys := by
  have absent : rule ∉ cache.held.keys := by
    rw [mem_held]
    exact Bool.eq_false_iff.mp new
  rw [keep,if_neg (by omega)]
  split
  · rfl
  · show rule :: (cache.held.erase rule).keys = _
    rw [Table.erase_absent _ _ absent]

theorem keep_full (room : 0 < cache.capacity) (new : cache.contains rule = false)
    (full : cache.size = cache.capacity) (condition : Condition) :
    (cache.keep rule condition).held.keys = [rule] := by
  rw [keep_keys room new,if_pos (Nat.le_of_eq full.symm)]

theorem keep_room (new : cache.contains rule = false) (free : cache.size < cache.capacity) (condition : Condition) :
    (cache.keep rule condition).held.keys = rule :: cache.held.keys := by
  rw [keep_keys (Nat.zero_lt_of_lt free) new,if_neg (Nat.not_le_of_lt free)]

theorem quiet_step (faithful : Faithful cache) (stays : ¬Resets cache request) :
    rule ∈ (cache.step request).2.held.keys ↔ rule ∈ cache.held.keys ∨ request.Obtains rule := by
  have moves := step_moves faithful request
  generalize (cache.step request).2 = after at moves
  cases moves with
  | question named =>
    have nothing : ¬(Request.contains named).Obtains rule := fun obtains => nomatch obtains.1
    exact (or_iff_left nothing).symm
  | clear => exact absurd .clear stays
  | failed asks fails => exact (or_iff_left (obtains_none asks fails)).symm
  | hit obtains held =>
    rw [obtains_only obtains]
    refine (or_iff_left_of_imp ?_).symm
    rintro rfl
    exact mem_held.mpr held
  | missed obtains new condition =>
    have free : cache.size < cache.capacity :=
      Nat.lt_of_le_of_ne faithful.bounded fun full => stays (.full obtains new full)
    rw [keep_room new free,List.mem_cons,obtains_only obtains,or_comm]

theorem reset_step (faithful : Faithful cache) (room : 0 < cache.capacity) (resets : Resets cache request) :
    rule ∈ (cache.step request).2.held.keys ↔ request.Obtains rule := by
  cases resets with
  | clear => exact ⟨nofun,fun obtains => nomatch obtains.1⟩
  | full obtains new full =>
    obtain ⟨condition,kept⟩ := moves_new (step_moves faithful request) obtains new
    rw [kept,keep_full room new full,List.mem_singleton,obtains_only obtains]

theorem quiet_run (faithful : Faithful cache) (quiet : Quiet cache requests) :
    rule ∈ (cache.run requests).held.keys ↔
      rule ∈ cache.held.keys ∨ ∃ request ∈ requests, request.Obtains rule := by
  induction quiet with
  | nil => simp [run]
  | cons stays _ ih =>
    rw [List.exists_mem_cons_iff,← or_assoc,← quiet_step faithful stays]
    exact ih (step_faithful faithful _).1

theorem since_exists (first : Cache) (requests : List Request) : ∃ recent, SinceReset first requests recent := by
  induction requests generalizing first with
  | nil => exact ⟨[],.start .nil⟩
  | cons request rest ih =>
    obtain ⟨recent,since⟩ := ih (first.step request).2
    cases since with
    | start quiet =>
      by_cases resets : Resets first request
      · exact ⟨_,.reset [] resets quiet⟩
      · exact ⟨_,.start (.cons resets quiet)⟩
    | reset earlier resets quiet => exact ⟨_,.reset (request :: earlier) resets quiet⟩

theorem since_exact (faithful : Faithful first) (room : 0 < first.capacity) (new : first.held.keys = [])
    (since : SinceReset first requests recent) :
    rule ∈ (first.run requests).held.keys ↔ ∃ request ∈ recent, request.Obtains rule := by
  cases since with
  | start quiet => rw [quiet_run faithful quiet,new,List.mem_nil_iff,false_or]
  | @reset request later earlier resets quiet =>
    obtain ⟨reached,same⟩ := run_faithful earlier faithful
    have next := (step_faithful reached request).1
    have split : first.run (earlier ++ request :: later) = ((first.run earlier).step request).2.run later :=
      List.foldl_append
    rw [split,quiet_run next quiet,reset_step reached (same ▸ room) resets,List.exists_mem_cons_iff]

theorem keep_holds (room : 0 < cache.capacity) (holds : Holds cache older last) (new : cache.contains rule = false)
    (condition : Condition) :
    ∃ before behind, older ++ last ++ [rule] = before ++ behind ∧
      Holds (cache.keep rule condition) before behind := by
  have count : cache.size = last.length := (List.length_map _).symm.trans holds.keys.length_eq
  have same := keep_capacity cache rule condition
  rcases Nat.eq_or_lt_of_le holds.fits with full | free
  · refine ⟨older ++ last,[rule],rfl,?_⟩
    constructor
    · rw [keep_full room new (count.trans full)]
    · rw [same,List.length_append,full]
      exact Nat.dvd_add holds.rounds (Nat.dvd_refl _)
    · rw [same]
      exact room
    · nofun
  · refine ⟨older,last ++ [rule],List.append_assoc ..,?_⟩
    constructor
    · rw [keep_room new (count ▸ free)]
      exact (holds.keys.cons rule).trans (List.perm_append_singleton rule last).symm
    · rw [same]
      exact holds.rounds
    · rw [same,List.length_append]
      exact free
    · simp

theorem brings_run (faithful : Faithful cache) (room : 0 < cache.capacity) (holds : Holds cache older last)
    (brings : Brings cache requests rules) (distinct : (older ++ last ++ rules).Nodup) :
    ∃ before behind, older ++ last ++ rules = before ++ behind ∧ Holds (cache.run requests) before behind := by
  induction brings generalizing older last with
  | done => exact ⟨older,last,List.append_nil _,holds⟩
  | @next _ _ cache request rule obtains _ ih =>
    obtain ⟨reached,same⟩ := step_faithful faithful request
    have fresh : rule ∉ last := by
      intro member
      exact (List.nodup_append.mp distinct).2.2 rule (List.mem_append_right older member) rule
        (List.mem_cons_self ..) rfl
    have new : cache.contains rule = false := by
      rw [← Bool.not_eq_true,← mem_held,holds.keys.mem_iff]
      exact fresh
    obtain ⟨condition,kept⟩ := moves_new (step_moves faithful request) obtains new
    obtain ⟨before,behind,parts,further⟩ := keep_holds room holds new condition
    rw [List.append_cons,parts] at distinct ⊢
    exact ih reached (same ▸ room) (kept ▸ further) distinct
  | failed asks fails _ ih =>
    have kept := moves_nothing (step_moves faithful _) asks (.inl fails)
    rw [kept] at ih
    rw [run,List.foldl_cons,kept]
    exact ih faithful room holds distinct
  | again asks held _ ih =>
    have kept := moves_nothing (step_moves faithful _) asks (.inr held)
    rw [kept] at ih
    rw [run,List.foldl_cons,kept]
    exact ih faithful room holds distinct
  | question _ _ ih => exact ih faithful room holds distinct

theorem holds_last (holds : Holds cache older last) (filled : older ++ last ≠ []) :
    cache.size = ((older ++ last).length - 1) % cache.capacity + 1 ∧
      cache.held.keys.Perm ((older ++ last).drop ((older ++ last).length - cache.size)) := by
  have count : cache.size = last.length := (List.length_map _).symm.trans holds.keys.length_eq
  have fits := holds.fits
  obtain ⟨rounds,whole⟩ := holds.rounds
  have begun : 0 < last.length := by
    refine List.length_pos_of_ne_nil ?_
    intro nothing
    exact filled (by rw [holds.begun nothing,nothing]; rfl)
  rw [count,List.length_append,Nat.add_sub_cancel,List.drop_left]
  refine ⟨?_,holds.keys⟩
  have before : older.length + last.length - 1 = cache.capacity * rounds + (last.length - 1) := by omega
  rw [before,Nat.mul_add_mod,Nat.mod_eq_of_lt (by omega)]
  omega

end

-- What is held was asked for since the last reset, so rules that are new fill the store in rounds.
theorem contents_exact (capacity : Nat) (room : 0 < capacity) (requests : List Request) :
    (∃ recent, SinceReset (ofCapacity capacity) requests recent) ∧
    (∀ recent, SinceReset (ofCapacity capacity) requests recent → ∀ rule,
      rule ∈ ((ofCapacity capacity).run requests).held.keys ↔ ∃ request ∈ recent, request.Obtains rule) ∧
    ∀ rules, Brings (ofCapacity capacity) requests rules → rules ≠ [] → rules.Nodup →
      ((ofCapacity capacity).run requests).size = (rules.length - 1) % capacity + 1 ∧
        ((ofCapacity capacity).run requests).held.keys.Perm
          (rules.drop (rules.length - ((ofCapacity capacity).run requests).size)) := by
  have new : Faithful (ofCapacity capacity) := ⟨nofun,Nat.zero_le _⟩
  refine ⟨since_exists _ _,fun recent since rule => since_exact new room rfl since,?_⟩
  intro rules brings filled distinct
  have first : Holds (ofCapacity capacity) [] [] := ⟨.nil,Nat.dvd_zero _,Nat.zero_le _,fun _ => rfl⟩
  obtain ⟨before,behind,rfl,holds⟩ := brings_run new room first brings distinct
  have same : ((ofCapacity capacity).run requests).capacity = capacity := (run_faithful requests new).2
  have last := holds_last holds filled
  rwa [same] at last

-- Two rules, a text that is none and a hit fill a store of two, and the third rule begins again.
theorem contents_second_round :
    0 < 2 ∧ ((ofCapacity 2).run [.read "true",.read "x",.check "false" .empty,.read "true",.read "1"]).size = 1 ∧
      ((ofCapacity 2).run [.read "true",.read "x",.check "false" .empty,.read "true",.read "1"]).held.keys.Perm
        ["1"] := by
  have yes : IsRule "true" := ⟨.operand (.boolean true),by decide +kernel⟩
  have no : IsRule "false" := ⟨.operand (.boolean false),by decide +kernel⟩
  have one : IsRule "1" := ⟨.operand (.number (Double.ofChars ['1'])),by decide +kernel⟩
  have fails : ¬IsRule "x" := by
    rintro ⟨condition,reads⟩
    have refused : Condition.read Catalog.standard "x" = .error (.unknownAttribute "x") := by decide +kernel
    cases refused.symm.trans reads
  have brings : Brings (ofCapacity 2) [.read "true",.read "x",.check "false" .empty,.read "true",.read "1"]
      ["true","false","1"] :=
    .next ⟨rfl,yes⟩ (.failed rfl fails (.next ⟨rfl,no⟩ (.again rfl (by decide +kernel)
      (.next ⟨rfl,one⟩ .done))))
  obtain ⟨count,keys⟩ := (contents_exact 2 (by decide) _).2.2 _ brings (by decide) (by decide)
  rw [count] at keys
  exact ⟨by decide,count,keys⟩

end Cache

end Eligibility
