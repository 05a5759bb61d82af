/-!
# Tables

Fixed credentials are kept in a table with one row for each key. Putting a row
under a key that is taken replaces the old one, so nothing of it is left, and a
table built from a list holds the last entry of each key.
-/

namespace Gatehouse

/-- Rows under distinct keys. -/
structure Table (α : Type) where
  rows : List (String × α)
  /-- Each key once. -/
  distinct : (rows.map Prod.fst).Nodup

namespace Table

variable {α : Type}

/-- Replaces the row of `key`, or adds one at the end. -/
def putRow (key : String) (value : α) : List (String × α) → List (String × α)
  | [] => [(key, value)]
  | row :: rows =>
    if row.1 = key then (key, value) :: rows else row :: putRow key value rows

theorem mem_keys_putRow {key name : String} {value : α} {rows : List (String × α)} :
    name ∈ (putRow key value rows).map Prod.fst ↔ name = key ∨ name ∈ rows.map Prod.fst := by
  induction rows with
  | nil => simp [putRow]
  | cons row rows ih =>
    rw [putRow]
    split
    · rename_i h; subst h; simp
    · simp only [List.map_cons, List.mem_cons, ih]
      exact ⟨fun h => by rcases h with h | h | h <;> simp [h],
        fun h => by rcases h with h | h | h <;> simp [h]⟩

theorem nodup_putRow {key : String} {value : α} {rows : List (String × α)}
    (h : (rows.map Prod.fst).Nodup) : ((putRow key value rows).map Prod.fst).Nodup := by
  induction rows with
  | nil => simp [putRow]
  | cons row rows ih =>
    obtain ⟨hr, hs⟩ := List.nodup_cons.1 (List.map_cons .. ▸ h)
    rw [putRow]
    split
    · rename_i hk; subst hk; exact h
    · rename_i hk
      rw [List.map_cons, List.nodup_cons]
      refine ⟨fun hm => ?_, ih hs⟩
      rcases mem_keys_putRow.1 hm with he | hm
      · exact hk he
      · exact hr hm

/-- The table without rows. -/
def empty : Table α := ⟨[], .nil⟩

/-- The table with `value` under `key`. -/
def put (table : Table α) (key : String) (value : α) : Table α :=
  ⟨putRow key value table.rows, nodup_putRow table.distinct⟩

/-- The table that holds the last entry of each key. -/
def ofList (entries : List (String × α)) : Table α :=
  entries.foldl (fun table entry => table.put entry.1 entry.2) empty

/-- The row under `key`. -/
def find? (table : Table α) (key : String) : Option α := table.rows.lookup key

def size (table : Table α) : Nat := table.rows.length

def isEmpty (table : Table α) : Bool := table.rows.isEmpty

theorem lookup_putRow {key name : String} {value : α} {rows : List (String × α)} :
    (putRow key value rows).lookup name = if name = key then some value else rows.lookup name := by
  induction rows with
  | nil =>
    by_cases h : name = key
    · simp [putRow, h]
    · simp [putRow, List.lookup_cons, h, beq_false_of_ne h]
  | cons row rows ih =>
    obtain ⟨k, v⟩ := row
    rw [putRow]
    by_cases hk : k = key
    · subst hk
      by_cases h : name = k
      · simp [h]
      · simp [List.lookup_cons, h, beq_false_of_ne h]
    · by_cases h : name = k
      · subst h; simp [hk]
      · simp [List.lookup_cons, hk, beq_false_of_ne h, ih]

/-- What is put under a key is found there, and the other keys are left alone. -/
theorem find?_put (table : Table α) (key name : String) (value : α) :
    (table.put key value).find? name = if name = key then some value else table.find? name :=
  lookup_putRow

theorem lookup_append (rows more : List (String × α)) (key : String) :
    (rows ++ more).lookup key = (rows.lookup key).or (more.lookup key) := by
  induction rows with
  | nil => rfl
  | cons row rows ih =>
    obtain ⟨k, v⟩ := row
    by_cases h : key = k
    · simp [h]
    · simp [List.lookup_cons, beq_false_of_ne h, ih]

theorem find?_putAll (entries : List (String × α)) (table : Table α) (key : String) :
    (entries.foldl (fun table entry => table.put entry.1 entry.2) table).find? key =
      (entries.reverse.lookup key).or (table.find? key) := by
  induction entries generalizing table with
  | nil => rfl
  | cons entry entries ih =>
    obtain ⟨k, v⟩ := entry
    rw [List.foldl_cons, ih, find?_put, List.reverse_cons, lookup_append]
    by_cases h : key = k
    · cases entries.reverse.lookup key <;> simp [h]
    · cases entries.reverse.lookup key <;> simp [List.lookup_cons, h, beq_false_of_ne h]

/-- A table built from a list holds the last entry of each key. -/
theorem find?_ofList (entries : List (String × α)) (key : String) :
    (ofList entries).find? key = entries.reverse.lookup key := by
  rw [ofList, find?_putAll]
  cases entries.reverse.lookup key <;> rfl

end Table

end Gatehouse
