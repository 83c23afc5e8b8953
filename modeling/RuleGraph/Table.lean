/-!
# Tables ordered by key

A table is a list of named values in the order of the names. `insert` replaces the value of a name
that is there already, so that the last value written is the one found.
-/
namespace RuleGraph

abbrev Table (α : Type) := List (String × α)

namespace Table

variable {α β : Type}

def insert (key : String) (value : α) : Table α → Table α
  | [] => [(key, value)]
  | (k, v) :: rest =>
    if key = k then (key, value) :: rest
    else if key < k then (key, value) :: (k, v) :: rest
    else (k, v) :: insert key value rest

def get? (table : Table α) (key : String) : Option α :=
  match table with
  | [] => none
  | (k, v) :: rest => if key = k then some v else get? rest key

def contains (table : Table α) (key : String) : Bool := (get? table key).isSome

def keys (table : Table α) : List String := table.map Prod.fst

/-- Write all entries of a list into a table, the later ones over the earlier. -/
def insertAll (table : Table α) (entries : List (String × α)) : Table α :=
  entries.foldl (fun t e => insert e.1 e.2 t) table

def ofList (entries : List (String × α)) : Table α := insertAll [] entries

theorem get?_insert_self (table : Table α) (key : String) (value : α) :
    get? (insert key value table) key = some value := by
  induction table with
  | nil => simp [insert, get?]
  | cons e rest ih =>
    obtain ⟨k, v⟩ := e
    simp only [insert]
    split
    · simp [get?]
    · split
      · simp [get?]
      · rename_i h _
        simp [get?, h, ih]

theorem get?_insert_of_ne (table : Table α) {key other : String} (value : α) (h : other ≠ key) :
    get? (insert key value table) other = get? table other := by
  induction table with
  | nil => simp [insert, get?, h]
  | cons e rest ih =>
    obtain ⟨k, v⟩ := e
    simp only [insert]
    split
    · rename_i hk
      subst hk
      simp [get?, h]
    · split
      · simp [get?, h]
      · simp [get?, ih]

theorem get?_insert (table : Table α) (key other : String) (value : α) :
    get? (insert key value table) other = if other = key then some value else get? table other := by
  split
  · rename_i h
    rw [h, get?_insert_self]
  · rename_i h
    exact get?_insert_of_ne table value h

end Table
end RuleGraph
