namespace Eligibility

-- Names are kept once each and in ascending order, so equal sets are equal as values.
structure NameSet where
  names : List String
  ascending : names.Pairwise (· < ·)
deriving DecidableEq

namespace NameSet

def insertName (name : String) : List String → List String
  | [] => [name]
  | first :: rest =>
    if name < first then name :: first :: rest
    else if name = first then first :: rest
    else first :: insertName name rest

theorem mem_insertName (name other : String) (names : List String) :
    other ∈ insertName name names ↔ other = name ∨ other ∈ names := by
  induction names with
  | nil => simp [insertName]
  | cons first rest ih =>
    unfold insertName
    split
    · simp
    · split
      next same => subst same; simp
      next => simp only [List.mem_cons,ih]; exact or_left_comm

theorem insertName_ascending (name : String) (names : List String)
    (ascending : names.Pairwise (· < ·)) : (insertName name names).Pairwise (· < ·) := by
  induction names with
  | nil => simp [insertName]
  | cons first rest ih =>
    have above : ∀ other ∈ rest, first < other := fun _ member =>
      List.rel_of_pairwise_cons ascending member
    unfold insertName
    split
    next below =>
      refine List.Pairwise.cons ?_ ascending
      intro other member
      rcases List.mem_cons.mp member with rfl | later
      · exact below
      · exact String.lt_trans below (above other later)
    next notBelow =>
      split
      · exact ascending
      next different =>
        refine List.Pairwise.cons ?_ (ih (List.Pairwise.of_cons ascending))
        intro other member
        rcases (mem_insertName name other rest).mp member with rfl | later
        · exact Classical.byContradiction fun notAbove =>
            different (String.le_antisymm notAbove notBelow)
        · exact above other later

def empty : NameSet := ⟨[],List.Pairwise.nil⟩

def insert (set : NameSet) (name : String) : NameSet :=
  ⟨insertName name set.names,insertName_ascending name set.names set.ascending⟩

def ofList (names : List String) : NameSet := names.foldl insert empty

def contains (set : NameSet) (name : String) : Bool := set.names.contains name

theorem contains_insert (set : NameSet) (name other : String) :
    (set.insert name).contains other = true ↔ other = name ∨ set.contains other = true := by
  simp [contains,insert,mem_insertName]

theorem contains_ofList (names : List String) (name : String) :
    (ofList names).contains name = true ↔ name ∈ names := by
  suffices general : ∀ set : NameSet,
      (names.foldl insert set).contains name = true ↔ name ∈ names ∨ set.contains name = true by
    have exact := general empty
    simpa [ofList,contains,empty] using exact
  induction names with
  | nil => simp
  | cons first rest ih =>
    intro set
    rw [List.foldl_cons,ih,contains_insert,List.mem_cons]
    constructor
    · rintro (later | rfl | known)
      · exact .inl (.inr later)
      · exact .inl (.inl rfl)
      · exact .inr known
    · rintro ((rfl | later) | known)
      · exact .inr (.inl rfl)
      · exact .inl later
      · exact .inr (.inr known)

theorem mem_names (set : NameSet) (name : String) : name ∈ set.names ↔ set.contains name = true := by
  simp [contains]

theorem names_nodup (set : NameSet) : set.names.Nodup := by
  refine List.nodup_iff_pairwise_ne.mpr (set.ascending.imp ?_)
  rintro first second below rfl
  exact String.lt_irrefl first below

theorem ofList_perm {names : List String} (distinct : names.Nodup) : (ofList names).names.Perm names := by
  refine (List.perm_ext_iff_of_nodup (names_nodup _) distinct).mpr ?_
  intro name
  rw [mem_names,contains_ofList]

theorem eq_of_contains (one other : NameSet)
    (same : ∀ name, one.contains name = true ↔ other.contains name = true) : one = other := by
  have perm : one.names.Perm other.names := by
    refine (List.perm_ext_iff_of_nodup one.names_nodup other.names_nodup).mpr ?_
    intro name
    rw [mem_names,mem_names,same]
  have names : one.names = other.names := by
    refine perm.eq_of_pairwise ?_ one.ascending other.ascending
    intro first second _ _ below above
    exact absurd (String.lt_trans below above) (String.lt_irrefl first)
  cases one
  cases other
  cases names
  rfl

end NameSet

abbrev Catalog := NameSet

-- The catalog used where none is given.
def Catalog.standard : Catalog := NameSet.ofList ["age","department","salary","experience"]

end Eligibility
