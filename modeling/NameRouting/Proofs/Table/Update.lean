import Mathlib.Data.List.Induction
import Mathlib.Data.List.Nodup
import NameRouting.Table

/-!
# Tables set on top of each other

A key that is set again keeps its place, so the order of a table tells when each key came
first and its values tell what came last.  Setting a table on top of another one is the
same as setting the entries that it was made of one after the other, however often a key
is repeated among them.
-/

namespace NameRouting.Table

variable {α β : Type}

/-- No key stands twice in the table. -/
def HasDistinctKeys (table : Table α) : Prop :=
  table.keys.Nodup

/-- The table with other keys for its entries. -/
def mapKeys (f : String → String) (table : Table α) : Table α :=
  ⟨table.entries.map fun entry => (f entry.1, entry.2)⟩

/-! ## One key -/

theorem insert_of_not_mem {table : Table α} {key : String} (hkey : key ∉ table.keys) (value : α) :
    table.insert key value = ⟨table.entries ++ [(key, value)]⟩ := by
  obtain ⟨entries⟩ := table
  rw [insert, Table.mk.injEq]
  induction entries with
  | nil => rfl
  | cons entry rest ih =>
      rw [keys, List.map_cons, List.mem_cons, not_or] at hkey
      rw [putEntry, if_neg (Ne.symm hkey.1), ih hkey.2, List.cons_append]

theorem keys_insert_of_mem {table : Table α} {key : String} (hkey : key ∈ table.keys) (value : α) :
    (table.insert key value).keys = table.keys := by
  obtain ⟨entries⟩ := table
  rw [keys] at hkey
  rw [keys, keys, insert]
  induction entries with
  | nil => cases hkey
  | cons entry rest ih =>
      by_cases hfirst : entry.1 = key
      · rw [putEntry, if_pos hfirst, List.map_cons, List.map_cons, hfirst]
      · rw [List.map_cons, List.mem_cons] at hkey
        have hrest := ih (hkey.resolve_left (Ne.symm hfirst))
        rw [putEntry, if_neg hfirst, List.map_cons, List.map_cons, hrest]

theorem keys_insert_of_not_mem {table : Table α} {key : String} (hkey : key ∉ table.keys)
    (value : α) : (table.insert key value).keys = table.keys ++ [key] := by
  rw [insert_of_not_mem hkey, keys, List.map_append]
  rfl

theorem mem_keys_insert_self (table : Table α) (key : String) (value : α) :
    key ∈ (table.insert key value).keys := by
  by_cases hkey : key ∈ table.keys
  · rwa [keys_insert_of_mem hkey]
  · rw [keys_insert_of_not_mem hkey]
    exact List.mem_append_right _ (List.mem_singleton.mpr rfl)

theorem mem_keys_insert_of_mem {table : Table α} {other : String} (hother : other ∈ table.keys)
    (key : String) (value : α) : other ∈ (table.insert key value).keys := by
  by_cases hkey : key ∈ table.keys
  · rwa [keys_insert_of_mem hkey]
  · rw [keys_insert_of_not_mem hkey]
    exact List.mem_append_left _ hother

theorem hasDistinctKeys_empty : (empty : Table α).HasDistinctKeys :=
  List.nodup_nil

theorem HasDistinctKeys.insert {table : Table α} (hdistinct : table.HasDistinctKeys)
    (key : String) (value : α) : (table.insert key value).HasDistinctKeys := by
  rw [HasDistinctKeys]
  by_cases hkey : key ∈ table.keys
  · rwa [keys_insert_of_mem hkey]
  · rw [keys_insert_of_not_mem hkey, List.nodup_append]
    refine ⟨hdistinct, List.nodup_singleton key, ?_⟩
    rintro other hother _ hmem rfl
    rw [List.mem_singleton.mp hmem] at hother
    exact hkey hother

/-- The later of two values for a key counts. -/
theorem insert_insert_self (table : Table α) (key : String) (value later : α) :
    (table.insert key value).insert key later = table.insert key later := by
  obtain ⟨entries⟩ := table
  simp only [insert]
  congr 1
  induction entries with
  | nil => simp [putEntry]
  | cons entry rest ih =>
      by_cases hkey : entry.1 = key
      · simp [putEntry, hkey]
      · simp [putEntry, hkey, ih]

/-- A key that has its place already can be set before or after another one. -/
theorem insert_insert_comm {table : Table α} {key other : String} (hmem : key ∈ table.keys)
    (hne : key ≠ other) (value otherValue : α) :
    (table.insert other otherValue).insert key value =
      (table.insert key value).insert other otherValue := by
  obtain ⟨entries⟩ := table
  simp only [insert, keys] at hmem ⊢
  congr 1
  induction entries with
  | nil => simp at hmem
  | cons entry rest ih =>
      by_cases hkey : entry.1 = key
      · have hother : ¬ entry.1 = other := fun h => hne (hkey.symm.trans h)
        simp [putEntry, hkey, hne]
      · have hrest : key ∈ rest.map (·.1) := by
          rw [List.map_cons, List.mem_cons] at hmem
          exact hmem.resolve_left (Ne.symm hkey)
        by_cases hother : entry.1 = other
        · simp [putEntry, hother, Ne.symm hne]
        · simp [putEntry, hkey, hother, ih hrest]

theorem get?_erase_of_ne (table : Table α) {key other : String} (hne : key ≠ other) :
    (table.erase key).get? other = table.get? other := by
  obtain ⟨entries⟩ := table
  simp only [get?, erase]
  induction entries with
  | nil => rfl
  | cons entry rest ih =>
      by_cases hkey : entry.1 = key
      · have hother : ¬ entry.1 = other := fun h => hne (hkey.symm.trans h)
        rw [List.filter_cons_of_neg (by simpa using hkey), ih, getEntry?, if_neg hother]
      · rw [List.filter_cons_of_pos (by simpa using hkey), getEntry?, getEntry?, ih]

/-! ## Many keys -/

@[simp]
theorem update_nil (table : Table α) : table.update ⟨[]⟩ = table :=
  rfl

theorem update_cons (table : Table α) (entry : String × α) (rest : List (String × α)) :
    table.update ⟨entry :: rest⟩ = (table.insert entry.1 entry.2).update ⟨rest⟩ :=
  rfl

theorem update_append (table : Table α) (entries others : List (String × α)) :
    table.update ⟨entries ++ others⟩ = (table.update ⟨entries⟩).update ⟨others⟩ :=
  List.foldl_append

theorem HasDistinctKeys.update {table : Table α} (hdistinct : table.HasDistinctKeys)
    (entries : List (String × α)) : (table.update ⟨entries⟩).HasDistinctKeys := by
  induction entries generalizing table with
  | nil => exact hdistinct
  | cons entry rest ih => exact ih (hdistinct.insert entry.1 entry.2)

theorem hasDistinctKeys_ofEntries (entries : List (String × α)) :
    (ofEntries entries).HasDistinctKeys :=
  hasDistinctKeys_empty.update entries

/-- A key that has its place already can be set before or after many others. -/
theorem insert_update {table : Table α} {key : String} (hmem : key ∈ table.keys)
    {entries : List (String × α)} (hfree : key ∉ entries.map (·.1)) (value : α) :
    (table.insert key value).update ⟨entries⟩ = (table.update ⟨entries⟩).insert key value := by
  induction entries generalizing table with
  | nil => rfl
  | cons entry rest ih =>
      rw [List.map_cons, List.mem_cons, not_or] at hfree
      have hkept : key ∈ (table.insert entry.1 entry.2).keys :=
        mem_keys_insert_of_mem hmem entry.1 entry.2
      rw [update_cons, update_cons, ← insert_insert_comm hmem hfree.1, ih hkept hfree.2]

theorem update_insert (table : Table α) {other : Table α} (hdistinct : other.HasDistinctKeys)
    (key : String) (value : α) :
    table.update (other.insert key value) = (table.update other).insert key value := by
  obtain ⟨entries⟩ := other
  rw [insert]
  induction entries generalizing table with
  | nil => rfl
  | cons entry rest ih =>
      obtain ⟨hfree, hrest⟩ := List.nodup_cons.mp hdistinct
      by_cases hkey : entry.1 = key
      · -- The key has its place in front of the others, which do not hold it.
        subst hkey
        rw [putEntry, if_pos rfl, update_cons, update_cons,
          ← insert_insert_self table entry.1 entry.2 value,
          insert_update (mem_keys_insert_self table entry.1 entry.2) hfree]
      · rw [putEntry, if_neg hkey, update_cons, update_cons, ih _ hrest]

/-- The entries that a table was made of can be set instead of the table. -/
theorem update_ofEntries (table : Table α) (entries : List (String × α)) :
    table.update (ofEntries entries) = table.update ⟨entries⟩ := by
  induction entries using List.reverseRecOn with
  | nil => rfl
  | append_singleton entries entry ih =>
      have hlast : ofEntries (entries ++ [entry]) = (ofEntries entries).insert entry.1 entry.2 :=
        update_append empty entries [entry]
      rw [hlast, update_insert table (hasDistinctKeys_ofEntries entries), ih, update_append]
      rfl

/-- A table is made of its own entries. -/
theorem ofEntries_entries {table : Table α} (hdistinct : table.HasDistinctKeys) :
    ofEntries table.entries = table := by
  obtain ⟨entries⟩ := table
  induction entries using List.reverseRecOn with
  | nil => rfl
  | append_singleton entries entry ih =>
      rw [HasDistinctKeys, keys, List.map_append, List.nodup_append] at hdistinct
      have hfree : entry.1 ∉ (⟨entries⟩ : Table α).keys := fun hmem =>
        hdistinct.2.2 _ hmem entry.1 (by simp) rfl
      have hlast : ofEntries (entries ++ [entry]) = (ofEntries entries).insert entry.1 entry.2 :=
        update_append empty entries [entry]
      rw [hlast, ih hdistinct.1, insert_of_not_mem hfree]

/-! ## What a table holds -/

theorem get?_update_of_not_mem (table : Table α) {key : String} {entries : List (String × α)}
    (hfree : key ∉ entries.map (·.1)) :
    (table.update ⟨entries⟩).get? key = table.get? key := by
  induction entries generalizing table with
  | nil => rfl
  | cons entry rest ih =>
      rw [List.map_cons, List.mem_cons, not_or] at hfree
      rw [update_cons, ih _ hfree.2, get?_insert_of_ne _ _ (Ne.symm hfree.1)]

/-- The last entry of a key counts. -/
theorem get?_update_of_last (table : Table α) (before : List (String × α)) (key : String)
    (value : α) {after : List (String × α)} (hlast : key ∉ after.map (·.1)) :
    (table.update ⟨before ++ (key, value) :: after⟩).get? key = some value := by
  rw [update_append, update_cons, get?_update_of_not_mem _ hlast, get?_insert_self]

theorem mem_entries_insert {table : Table α} {key : String} {value : α} {entry : String × α}
    (hmem : entry ∈ (table.insert key value).entries) :
    entry ∈ table.entries ∨ entry = (key, value) := by
  obtain ⟨entries⟩ := table
  simp only [insert] at hmem ⊢
  induction entries with
  | nil => exact .inr (List.mem_singleton.mp hmem)
  | cons first rest ih =>
      rw [putEntry] at hmem
      split at hmem
      · rcases List.mem_cons.mp hmem with rfl | hmem
        · exact .inr rfl
        · exact .inl (List.mem_cons_of_mem _ hmem)
      · rcases List.mem_cons.mp hmem with rfl | hmem
        · exact .inl List.mem_cons_self
        · exact (ih hmem).imp_left (List.mem_cons_of_mem _)

theorem mem_entries_update {table : Table α} {entries : List (String × α)} {entry : String × α}
    (hmem : entry ∈ (table.update ⟨entries⟩).entries) :
    entry ∈ table.entries ∨ entry ∈ entries := by
  induction entries generalizing table with
  | nil => exact .inl hmem
  | cons first rest ih =>
      rcases ih hmem with hmem | hmem
      · rcases mem_entries_insert hmem with hmem | rfl
        · exact .inl hmem
        · exact .inr List.mem_cons_self
      · exact .inr (List.mem_cons_of_mem _ hmem)

/-! ## Other keys -/

theorem mapKeys_insert {f : String → String} (hf : Function.Injective f) (table : Table α)
    (key : String) (value : α) :
    (table.insert key value).mapKeys f = (table.mapKeys f).insert (f key) value := by
  obtain ⟨entries⟩ := table
  simp only [insert, mapKeys]
  congr 1
  induction entries with
  | nil => rfl
  | cons entry rest ih =>
      by_cases hkey : entry.1 = key
      · simp [putEntry, hkey]
      · have hne : ¬ f entry.1 = f key := fun h => hkey (hf h)
        simp [putEntry, hkey, hne, ih]

theorem mapKeys_update {f : String → String} (hf : Function.Injective f) (table : Table α)
    (entries : List (String × α)) :
    (table.update ⟨entries⟩).mapKeys f =
      (table.mapKeys f).update ⟨entries.map fun entry => (f entry.1, entry.2)⟩ := by
  induction entries generalizing table with
  | nil => rfl
  | cons entry rest ih => rw [update_cons, ih, mapKeys_insert hf, List.map_cons, update_cons]

end NameRouting.Table
