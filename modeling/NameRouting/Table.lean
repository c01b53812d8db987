/-!
# Tables

A table assigns values to texts and keeps its entries in the order in which their keys came first.
Environments, property tables and process environments are tables.
-/

namespace NameRouting

/-- An assignment of values to texts, in the order of first assignment. -/
structure Table (α : Type) where
  entries : List (String × α)
deriving Inhabited, Repr, DecidableEq

namespace Table

variable {α : Type}

/-- The table without entries. -/
def empty : Table α :=
  ⟨[]⟩

/-- The value of the first entry with a key. -/
def getEntry? (key : String) : List (String × α) → Option α
  | [] => none
  | entry :: rest => if entry.1 = key then some entry.2 else getEntry? key rest

/-- The value assigned to a key. -/
def get? (table : Table α) (key : String) : Option α :=
  getEntry? key table.entries

/-- The entries with one key set: an assigned key keeps its place, a new one comes last. -/
def putEntry (key : String) (value : α) : List (String × α) → List (String × α)
  | [] => [(key, value)]
  | entry :: rest =>
    if entry.1 = key then (key, value) :: rest else entry :: putEntry key value rest

/-- The table with one key set to a value. -/
def insert (table : Table α) (key : String) (value : α) : Table α :=
  ⟨putEntry key value table.entries⟩

/-- The table without a key. -/
def erase (table : Table α) (key : String) : Table α :=
  ⟨table.entries.filter (·.1 ≠ key)⟩

/-- One table with the entries of another set on top, in their order. -/
def update (table other : Table α) : Table α :=
  other.entries.foldl (fun done entry => done.insert entry.1 entry.2) table

/-- The table that results from setting the entries one after the other. -/
def ofEntries (entries : List (String × α)) : Table α :=
  update empty ⟨entries⟩

/-- The keys in order. -/
def keys (table : Table α) : List String :=
  table.entries.map (·.1)

@[simp]
theorem get?_empty (key : String) : (empty : Table α).get? key = none :=
  rfl

/-- A key that was just set has its value. -/
@[simp]
theorem get?_insert_self (table : Table α) (key : String) (value : α) :
    (table.insert key value).get? key = some value := by
  obtain ⟨entries⟩ := table
  simp only [get?, insert]
  induction entries with
  | nil => simp [putEntry, getEntry?]
  | cons entry rest ih =>
    by_cases h : entry.1 = key <;> simp [putEntry, getEntry?, h, ih]

/-- Setting a key leaves every other key alone. -/
theorem get?_insert_of_ne (table : Table α) {key other : String} (value : α) (h : key ≠ other) :
    (table.insert key value).get? other = table.get? other := by
  obtain ⟨entries⟩ := table
  simp only [get?, insert]
  induction entries with
  | nil => simp [putEntry, getEntry?, h]
  | cons entry rest ih =>
    by_cases hk : entry.1 = key
    · simp [putEntry, getEntry?, hk, h]
    · simp [putEntry, getEntry?, hk, ih]

/-- An erased key has no value. -/
@[simp]
theorem get?_erase_self (table : Table α) (key : String) : (table.erase key).get? key = none := by
  obtain ⟨entries⟩ := table
  simp only [get?, erase]
  induction entries with
  | nil => rfl
  | cons entry rest ih =>
    by_cases h : entry.1 = key
    · simp only [List.filter_cons, h, ne_eq, not_true, decide_false]
      exact ih
    · simp only [List.filter_cons, h, ne_eq, not_false_iff, decide_true, ite_true, getEntry?,
        ite_false]
      exact ih

end Table

end NameRouting
