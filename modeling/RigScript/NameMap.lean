/-! ## Maps by name

A map from names to values that lists its names in order. -/

namespace RigScript

/-- A map whose entries stand in the order of their names. -/
structure NameMap (α : Type) where
  entries : List (String × α) := []
  deriving DecidableEq, Repr

namespace NameMap

/-- The value in the first entry of the name. -/
def findIn (name : String) : List (String × α) → Option α
  | [] => none
  | (k, v) :: r => if name = k then some v else findIn name r

/-- Put an entry in its place, over the one that has the name already. -/
def insertIn (name : String) (a : α) : List (String × α) → List (String × α)
  | [] => [(name, a)]
  | (k, v) :: r =>
    if name = k then (name, a) :: r
    else if name < k then (name, a) :: (k, v) :: r
    else (k, v) :: insertIn name a r

def find? (m : NameMap α) (name : String) : Option α := findIn name m.entries

def insert (m : NameMap α) (name : String) (a : α) : NameMap α := ⟨insertIn name a m.entries⟩

def contains (m : NameMap α) (name : String) : Bool := (m.find? name).isSome

def names (m : NameMap α) : List String := m.entries.map (·.1)

def size (m : NameMap α) : Nat := m.entries.length

def isEmpty (m : NameMap α) : Bool := m.entries.isEmpty

/-- A map from a list of entries, of which later ones win. -/
def ofList (l : List (String × α)) : NameMap α := l.foldl (fun m e => m.insert e.1 e.2) {}

/-- A set of names in order, each once. -/
def sorted (names : List String) : List String := (ofList (names.map (·, ()))).names

theorem findIn_insertIn (name name' : String) (a : α) (l : List (String × α)) :
    findIn name' (insertIn name a l) = if name' = name then some a else findIn name' l := by
  induction l with
  | nil => rfl
  | cons e r ih =>
    obtain ⟨k, v⟩ := e
    simp only [insertIn]
    by_cases h : name = k
    · subst h; by_cases h' : name' = name <;> simp [findIn, h']
    · by_cases hl : name < k
      · simp only [h, hl, if_false, if_true, findIn]
      · simp only [h, hl, if_false, findIn, ih]
        by_cases h1 : name' = k
        · subst h1
          have : ¬ name' = name := fun e => h e.symm
          simp [this]
        · simp [h1]

@[simp] theorem find?_empty (name : String) : ({} : NameMap α).find? name = none := rfl

theorem find?_insert (m : NameMap α) (name name' : String) (a : α) :
    (m.insert name a).find? name' = if name' = name then some a else m.find? name' :=
  findIn_insertIn name name' a m.entries

@[simp] theorem find?_insert_self (m : NameMap α) (name : String) (a : α) :
    (m.insert name a).find? name = some a := by simp [find?_insert]

theorem contains_insert (m : NameMap α) (name name' : String) (a : α) :
    (m.insert name a).contains name' = (decide (name' = name) || m.contains name') := by
  by_cases h : name' = name <;> simp [contains, find?_insert, h]

end NameMap

end RigScript
