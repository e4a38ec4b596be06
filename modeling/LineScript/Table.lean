/-!
# Tables
A table gives each of its names one entry and keeps the names in the order in which they first
came. A new entry for a name takes the place of the old one.
-/
namespace LineScript

/-- Named entries, in the order in which their names first came. -/
structure Table (α : Type) where
  entries : List (String × α)

namespace Table

variable {α β : Type}

def empty : Table α := ⟨[]⟩

/-- The entry of a name. -/
def find? (table : Table α) (name : String) : Option α := table.entries.lookup name

/-- The entries with one more, in the place of the old entry for the name if there is one. -/
def insertEntry (name : String) (value : α) : List (String × α) → List (String × α)
  | [] => [(name, value)]
  | entry :: rest =>
    if entry.1 = name then (name, value) :: rest else entry :: insertEntry name value rest

/-- The table with an entry for a name. -/
def insert (table : Table α) (name : String) (value : α) : Table α :=
  ⟨insertEntry name value table.entries⟩

def names (table : Table α) : List String := table.entries.map (·.1)

/-- The same names with other entries. -/
def map (f : α → β) (table : Table α) : Table β :=
  ⟨table.entries.map fun entry => (entry.1, f entry.2)⟩

/-- The entries of a list in order, later ones in the place of earlier ones. -/
def ofList (entries : List (String × α)) : Table α :=
  entries.foldl (fun table entry => table.insert entry.1 entry.2) empty

theorem mem_of_find? {table : Table α} {name : String} {value : α}
    (found : table.find? name = some value) : (name, value) ∈ table.entries := by
  obtain ⟨before, after, shape, _⟩ := List.lookup_eq_some_iff.mp found
  simp [shape]

/-- An insertion brings in no entry but its own. -/
theorem mem_of_mem_insert {table : Table α} {name : String} {value : α} {entry : String × α}
    (member : entry ∈ (table.insert name value).entries) :
    entry ∈ table.entries ∨ entry = (name, value) := by
  obtain ⟨entries⟩ := table
  induction entries with
  | nil => exact .inr (by simpa [insert, insertEntry] using member)
  | cons first rest ih =>
    simp only [insert, insertEntry] at member ih
    by_cases same : first.1 = name
    · rw [if_pos same] at member
      rcases List.mem_cons.mp member with rfl | later
      · exact .inr rfl
      · exact .inl (List.mem_cons_of_mem _ later)
    · rw [if_neg same] at member
      rcases List.mem_cons.mp member with rfl | later
      · exact .inl (by simp)
      · exact (ih later).imp_left (List.mem_cons_of_mem _)

private theorem mem_of_mem_foldl {given : List (String × α)} {table : Table α} {entry : String × α}
    (member : entry ∈
      (given.foldl (fun table entry => table.insert entry.1 entry.2) table).entries) :
    entry ∈ table.entries ∨ entry ∈ given := by
  induction given generalizing table with
  | nil => exact .inl member
  | cons first rest ih =>
    rcases ih member with old | later
    · rcases mem_of_mem_insert old with older | rfl
      · exact .inl older
      · exact .inr (by simp)
    · exact .inr (List.mem_cons_of_mem _ later)

theorem mem_of_mem_ofList {given : List (String × α)} {entry : String × α}
    (member : entry ∈ (ofList given).entries) : entry ∈ given := by
  rcases mem_of_mem_foldl member with old | new
  · cases old
  · exact new

theorem lookup_insertEntry_self (name : String) (value : α) (entries : List (String × α)) :
    (insertEntry name value entries).lookup name = some value := by
  induction entries with
  | nil => simp [insertEntry]
  | cons entry rest ih =>
    obtain ⟨key, old⟩ := entry
    by_cases h : key = name
    · simp [insertEntry, h]
    · have hne : (name == key) = false := by simp [Ne.symm h]
      simp [insertEntry, h, List.lookup_cons, hne, ih]

theorem lookup_insertEntry_ne {name other : String} (h : other ≠ name) (value : α)
    (entries : List (String × α)) :
    (insertEntry name value entries).lookup other = entries.lookup other := by
  have hne : (other == name) = false := by simp [h]
  induction entries with
  | nil => simp [insertEntry, List.lookup_cons, hne]
  | cons entry rest ih =>
    obtain ⟨key, old⟩ := entry
    by_cases hkey : key = name
    · simp [insertEntry, hkey, List.lookup_cons, hne]
    · simp [insertEntry, hkey, List.lookup_cons, ih]

theorem find?_insert_self (table : Table α) (name : String) (value : α) :
    (table.insert name value).find? name = some value :=
  lookup_insertEntry_self name value table.entries

theorem find?_insert_ne (table : Table α) {name other : String} (h : other ≠ name) (value : α) :
    (table.insert name value).find? other = table.find? other :=
  lookup_insertEntry_ne h value table.entries

end Table

end LineScript
