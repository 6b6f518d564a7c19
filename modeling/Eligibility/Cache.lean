import Eligibility.Rule.Grammar
import Eligibility.Table
import Eligibility.Verdict

namespace Eligibility

structure Cache where
  capacity : Nat
  held : Table String Condition

namespace Cache

open Operation (look)

def ofCapacity (capacity : Nat) : Cache := ⟨capacity,Table.empty⟩

def sharedCapacity : Nat := 1024

def size (cache : Cache) : Nat := cache.held.size

def contains (cache : Cache) (rule : String) : Bool := cache.held.contains rule

def clear (cache : Cache) : Cache := {cache with held := Table.empty}

-- Without capacity nothing is kept.
def keep (cache : Cache) (rule : String) (condition : Condition) : Cache :=
  if cache.capacity = 0 then cache
  else
    let room := if cache.capacity ≤ cache.size then Table.empty else cache.held
    {cache with held := room.insert rule condition}

def read (rule : String) : Operation Cache Condition := do
  match ← look fun cache => .ok (cache.held.find? rule) with
  | some condition => return condition
  | none =>
    let condition ← Condition.read Catalog.standard rule
    modify (·.keep rule condition)
    return condition

-- A blank rule states no condition, so no record meets it.
def check (rule : String) (record : Record) : Operation Cache Bool :=
  if isBlankText rule then return verdict none record
  else (fun condition => verdict (some condition) record) <$> read rule

inductive Request where
  | read (rule : String)
  | contains (rule : String)
  | check (rule : String) (record : Record)
  | clear

inductive Answer where
  | condition (condition : Condition)
  | truth (truth : Bool)
  | done
deriving DecidableEq

def serve : Request → Operation Cache Answer
  | .read rule => .condition <$> read rule
  | .contains rule => .truth <$> look fun cache => .ok (cache.contains rule)
  | .check rule record => .truth <$> check rule record
  | .clear => do
    modify clear
    return .done

def step (cache : Cache) (request : Request) : Except Fault Answer × Cache := (serve request).perform cache

def run (cache : Cache) (requests : List Request) : Cache :=
  requests.foldl (fun cache request => (cache.step request).2) cache

end Cache

end Eligibility
