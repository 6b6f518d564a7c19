import Eligibility.Condition.Edit
import Eligibility.Rule.Grammar
import Eligibility.StoredRule
import Eligibility.Table

namespace Eligibility

structure Registry where
  catalog : Catalog
  rules : Table RuleKey StoredRule

namespace Registry

open Operation (look)

def ofCatalog (catalog : Catalog) : Registry := ⟨catalog,Table.empty⟩

def find? (registry : Registry) (key : RuleKey) : Option StoredRule := registry.rules.find? key

def contains (registry : Registry) (key : RuleKey) : Bool := registry.rules.contains key

def ofKind (registry : Registry) (kind : RuleKind) : List RuleKey :=
  registry.rules.keys.filter (·.kind == kind)

def names (registry : Registry) (kind : RuleKind) : List String :=
  (NameSet.ofList ((registry.ofKind kind).map (·.name))).names

def size (registry : Registry) (kind : RuleKind) : Nat := (registry.ofKind kind).length

def isEmpty (registry : Registry) : Bool := registry.rules.entries.isEmpty

def clear (registry : Registry) : Registry := {registry with rules := Table.empty}

def put (registry : Registry) (key : RuleKey) (rule : StoredRule) : Registry :=
  {registry with rules := registry.rules.insert key rule}

def read (registry : Registry) (text : String) : Except Fault Condition :=
  Condition.read registry.catalog text

def get (registry : Registry) (key : RuleKey) : Except Fault StoredRule :=
  match registry.find? key with
  | some rule => .ok rule
  | none => .error (.ruleNotFound key)

def evaluate (registry : Registry) (key : RuleKey) (record : Record) : Except Fault Bool :=
  (registry.get key).map (·.verdict record)

def vacant (registry : Registry) (key : RuleKey) : Except Fault Unit :=
  if registry.contains key then .error (.duplicateRule key.name) else .ok ()

def write (key : RuleKey) (rule : StoredRule) : Operation Registry StoredRule := do
  modify (·.put key rule)
  return rule

def enter (rule : StoredRule) : Operation Registry StoredRule := do
  look (·.vacant rule.key)
  write rule.key rule

def create (name text : String) : Operation Registry StoredRule := do
  let condition ← look (·.read text)
  enter ⟨⟨.single,name⟩,[text],none,some condition⟩

-- All texts are read before the operator is.
def createCombined (name : String) (texts : List String) (operator : String) : Operation Registry StoredRule := do
  let conditions ← look fun registry => texts.mapM registry.read
  let connective ← Connective.read operator
  let condition ← Condition.combine conditions connective.text
  enter ⟨⟨.combined,name⟩,texts,some connective,condition⟩

-- The condition of a rule gives way to another one, unchecked.
def save (key : RuleKey) (condition : Option Condition) : Operation Registry StoredRule := do
  let rule ← look (·.get key)
  write key {rule with condition := condition}

def edit (key : RuleKey) (edit : Edit) : Operation Registry StoredRule := do
  let rule ← look (·.get key)
  match rule.condition with
  | none => throw (.node (.noExpression key))
  | some condition =>
    let edited ← edit.apply condition
    write key {rule with condition := some edited}

-- The added text is read even if there is no rule to add it to.
def add (key : RuleKey) (path : Path) (text : String) (operator : Option String) :
    Operation Registry StoredRule := do
  let expression ← look (·.read text)
  edit key (.add path expression operator)

def remove (key : RuleKey) : Operation Registry StoredRule := do
  let rule ← look (·.get key)
  modify fun registry => {registry with rules := registry.rules.erase key}
  return rule

inductive Request where
  | create (name text : String)
  | createCombined (name : String) (texts : List String) (operator : String)
  | get (key : RuleKey)
  | contains (key : RuleKey)
  | evaluate (key : RuleKey) (record : Record)
  | save (key : RuleKey) (condition : Option Condition)
  | setOperator (key : RuleKey) (path : Path) (text : String)
  | setOperand (key : RuleKey) (path : Path) (value : Value)
  | add (key : RuleKey) (path : Path) (text : String) (operator : Option String)
  | removePart (key : RuleKey) (path : Path)
  | remove (key : RuleKey)
  | clear

inductive Answer where
  | rule (rule : StoredRule)
  | truth (truth : Bool)
  | done
deriving DecidableEq

def serve : Request → Operation Registry Answer
  | .create name text => .rule <$> create name text
  | .createCombined name texts operator => .rule <$> createCombined name texts operator
  | .get key => .rule <$> look (·.get key)
  | .contains key => .truth <$> look fun registry => .ok (registry.contains key)
  | .evaluate key record => .truth <$> look (·.evaluate key record)
  | .save key condition => .rule <$> save key condition
  | .setOperator key path text => .rule <$> edit key (.setOperator path text)
  | .setOperand key path value => .rule <$> edit key (.setOperand path value)
  | .add key path text operator => .rule <$> add key path text operator
  | .removePart key path => .rule <$> edit key (.remove path)
  | .remove key => .rule <$> remove key
  | .clear => do
    modify clear
    return .done

def step (registry : Registry) (request : Request) : Except Fault Answer × Registry :=
  (serve request).perform registry

def run (registry : Registry) (requests : List Request) : Registry :=
  requests.foldl (fun registry request => (registry.step request).2) registry

end Registry

end Eligibility
