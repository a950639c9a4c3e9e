/-
# Tables from names to values

A table is a list of entries in which a later entry for a name hides the earlier
ones. Only the lookup can be observed, and one equation says what an insertion
does to it.
-/

namespace ApiHeader.Schema

/-- Values found by name; the entry inserted last comes first. -/
structure NameTable (α : Type) where
  entries : List (String × α)
  deriving DecidableEq, Repr

namespace NameTable

variable {α : Type}

/-- The table without entries. -/
def empty : NameTable α := ⟨[]⟩

/-- The table in which `name` has the given value. -/
def insert (table : NameTable α) (name : String) (value : α) : NameTable α :=
  ⟨(name, value) :: table.entries⟩

/-- The value of a name. -/
def find? (table : NameTable α) (name : String) : Option α :=
  table.entries.lookup name

/-- Whether a name has a value. -/
def contains (table : NameTable α) (name : String) : Bool :=
  (table.find? name).isSome

/-- The names of all entries, hidden ones included. -/
def names (table : NameTable α) : List String :=
  table.entries.map Prod.fst

@[simp]
theorem find?_empty (name : String) : (empty : NameTable α).find? name = none := rfl

theorem find?_insert (table : NameTable α) (name other : String) (value : α) :
    (table.insert name value).find? other = if other = name then some value else table.find? other := by
  by_cases h : other = name
  · simp [find?, insert, h]
  · have differs : (other == name) = false := by simpa using h
    simp [find?, insert, List.lookup_cons, differs, h]

theorem mem_names_of_find? {table : NameTable α} {name : String} {value : α}
    (h : table.find? name = some value) : name ∈ table.names := by
  obtain ⟨entries⟩ := table
  induction entries with
  | nil => simp [find?] at h
  | cons entry entries ih =>
    rw [find?, List.lookup_cons] at h
    split at h
    · next same => simp [names, eq_of_beq same]
    · have inside := ih h
      simp only [names, List.map_cons, List.mem_cons] at inside ⊢
      exact Or.inr inside

end NameTable

end ApiHeader.Schema
