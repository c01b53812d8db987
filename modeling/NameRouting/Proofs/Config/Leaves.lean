import NameRouting.Config.Flatten
import NameRouting.Proofs.Table.Update

/-!
# The leaves of a configuration

A nested mapping is a tree, and its leaves are the values that are no mappings.
Flattening assigns them to their keys in the order of the document.  It does so by
setting smaller tables on top of each other, one for each mapping, but what comes out is
what one walk over all leaves gives: which of two leaves with one key counts depends on
the order of the document alone, and not on how deep they lie.
-/

namespace NameRouting.Config

/-! ## Leaves -/

/-- A leaf of a nested mapping: the keys on the way to it, and its value. -/
structure Leaf where
  path : List Value
  value : Value

namespace Leaf

/-- The texts of the keys on the way to a leaf. -/
def steps (leaf : Leaf) : List String :=
  leaf.path.map Value.toText

/-- The key of a leaf: the texts on the way to it, separated by periods. -/
def key (leaf : Leaf) : String :=
  ".".intercalate leaf.steps

/-- The leaf as it is seen from one mapping further up. -/
def below (step : Value) (leaf : Leaf) : Leaf :=
  ⟨step :: leaf.path, leaf.value⟩

/-- The property that a leaf becomes, its key behind a given text. -/
def property (start : String) (leaf : Leaf) : String × Value :=
  (start ++ leaf.key, leafValue leaf.value)

end Leaf

mutual

/-- The leaves of a value, depth first: a value that is no mapping is a leaf itself. -/
def leavesOf : Value → List Leaf
  | .map entries => leaves entries
  | value => [⟨[], value⟩]

/-- The leaves below the entries of a mapping, in the order of the entries. -/
def leaves : List (Value × Value) → List Leaf
  | [] => []
  | (key, value) :: rest => (leavesOf value).map (Leaf.below key) ++ leaves rest

end

theorem steps_below (step : Value) (leaf : Leaf) :
    (leaf.below step).steps = step.toText :: leaf.steps :=
  rfl

theorem key_below (step : Value) (leaf : Leaf) :
    (leaf.below step).key = ".".intercalate (step.toText :: leaf.steps) :=
  rfl

/-- Every leaf of a mapping lies below one of its keys. -/
theorem exists_eq_below {entries : List (Value × Value)} {leaf : Leaf}
    (hleaf : leaf ∈ leaves entries) : ∃ step other, leaf = Leaf.below step other := by
  induction entries with
  | nil =>
      rw [leaves] at hleaf
      cases hleaf
  | cons entry rest ih =>
      rw [leaves, List.mem_append] at hleaf
      rcases hleaf with hleaf | hleaf
      · obtain ⟨other, -, rfl⟩ := List.mem_map.mp hleaf
        exact ⟨entry.1, other, rfl⟩
      · exact ih hleaf

/-- Below a key, a period stands between the key and what follows. -/
theorem key_behind_step (start : String) {entries : List (Value × Value)} {leaf : Leaf}
    (hleaf : leaf ∈ leaves entries) :
    start ++ "." ++ leaf.key = ".".intercalate (start :: leaf.steps) := by
  obtain ⟨step, other, rfl⟩ := exists_eq_below hleaf
  rw [key_below, steps_below, String.intercalate_cons_cons]

theorem leavesOf_of_ne_map {value : Value} (hvalue : ∀ entries, value = .map entries → False) :
    leavesOf value = [⟨[], value⟩] := by
  rw [leavesOf.eq_2 value hvalue]

/-- No leaf is a mapping. -/
theorem forall_mem_leaves_ne_map (inner : List (Value × Value)) (entries : List (Value × Value)) :
    ∀ leaf ∈ leaves entries, leaf.value ≠ .map inner := by
  induction entries using leaves.induct
    (fun value => ∀ leaf ∈ leavesOf value, leaf.value ≠ .map inner) with
  | case1 entries ih leaf hleaf =>
      rw [leavesOf] at hleaf
      exact ih leaf hleaf
  | case2 value hvalue leaf hleaf =>
      rw [leavesOf_of_ne_map hvalue, List.mem_singleton] at hleaf
      rw [hleaf]
      exact hvalue inner
  | case3 =>
      rw [leaves]
      exact nofun
  | case4 key value rest ihvalue ihrest =>
      rw [leaves, List.forall_mem_append, List.forall_mem_map]
      exact ⟨ihvalue, ihrest⟩

/-! ## One walk over the leaves -/

/-- Flattening sets the properties of all leaves, one after the other, on top of those
found before. -/
theorem flattenEntries_eq_update (start : String) (entries : List (Value × Value))
    (found : Table Value) :
    flattenEntries start entries found =
      found.update ⟨(leaves entries).map (Leaf.property start)⟩ := by
  induction start, entries, found using flattenEntries.induct
    (fun path value => flattenEntry path value = .ofEntries ((leavesOf value).map fun leaf =>
      (".".intercalate (path :: leaf.steps), leafValue leaf.value))) with
  | case1 path entries ih =>
      rw [flattenEntry, ih, leavesOf, Table.ofEntries]
      congr 2
      refine List.map_congr_left fun leaf hleaf => ?_
      rw [Leaf.property, key_behind_step path hleaf]
  | case2 path value hvalue =>
      rw [flattenEntry.eq_2 path value hvalue, leavesOf_of_ne_map hvalue]
      rfl
  | case3 start found =>
      rw [flattenEntries, leaves]
      rfl
  | case4 start key value rest found ihvalue ihrest =>
      have hmap : ((leavesOf value).map (Leaf.below key)).map (Leaf.property start) =
          (leavesOf value).map fun leaf =>
            (".".intercalate ((start ++ key.toText) :: leaf.steps), leafValue leaf.value) := by
        rw [List.map_map]
        refine List.map_congr_left fun leaf _ => ?_
        rw [String.intercalate_cons_append]
        rfl
      rw [flattenEntries, ihrest, ihvalue, Table.update_ofEntries, ← Table.update_append, leaves,
        List.map_append, hmap]

theorem flatten_eq_ofEntries (entries : List (Value × Value)) (start : String) :
    flatten entries start = .ofEntries ((leaves entries).map (Leaf.property start)) :=
  flattenEntries_eq_update start entries .empty

/-- The text in front is put before every key. -/
theorem flatten_eq_mapKeys (entries : List (Value × Value)) (start : String) :
    flatten entries start = (flatten entries "").mapKeys (start ++ ·) := by
  have hinjective : Function.Injective (start ++ ·) := fun _ _ h =>
    (String.append_right_inj start).mp h
  have hproperties : ((leaves entries).map (Leaf.property "")).map
      (fun entry => (start ++ entry.1, entry.2)) = (leaves entries).map (Leaf.property start) := by
    rw [List.map_map]
    refine List.map_congr_left fun leaf _ => ?_
    simp [Leaf.property]
  rw [flatten_eq_ofEntries, flatten_eq_ofEntries, Table.ofEntries, Table.ofEntries,
    Table.mapKeys_update hinjective, hproperties]
  rfl

/-! ## Tables as mappings -/

/-- A table as a mapping. -/
def asMapping (table : Table Value) : List (Value × Value) :=
  table.entries.map fun entry => (.text entry.1, entry.2)

/-- A value that flattening leaves as it is: neither a mapping nor a list. -/
def IsFlat : Value → Prop
  | .map _ | .list _ | .tuple _ => False
  | _ => True

theorem isFlat_leafValue {value : Value} (hvalue : ∀ entries, value ≠ .map entries) :
    IsFlat (leafValue value) := by
  cases value
  case map entries => exact absurd rfl (hvalue entries)
  all_goals trivial

theorem leavesOf_of_isFlat {value : Value} (hvalue : IsFlat value) :
    leavesOf value = [⟨[], value⟩] := by
  apply leavesOf_of_ne_map
  rintro entries rfl
  exact hvalue

theorem leafValue_of_isFlat {value : Value} (hvalue : IsFlat value) : leafValue value = value := by
  refine leafValue_eq_self ?_ ?_
  · rintro items rfl
    exact hvalue
  · rintro items rfl
    exact hvalue

theorem isFlat_of_mem_flatten {entries : List (Value × Value)} {start : String}
    {entry : String × Value} (hentry : entry ∈ (flatten entries start).entries) :
    IsFlat entry.2 := by
  rw [flatten_eq_ofEntries] at hentry
  rcases Table.mem_entries_update hentry with hentry | hentry
  · cases hentry
  · obtain ⟨leaf, hleaf, rfl⟩ := List.mem_map.mp hentry
    exact isFlat_leafValue fun inner => forall_mem_leaves_ne_map inner entries leaf hleaf

theorem map_property_leaves_asMapping {entries : List (String × Value)}
    (hflat : ∀ entry ∈ entries, IsFlat entry.2) :
    (leaves (asMapping ⟨entries⟩)).map (Leaf.property "") = entries := by
  induction entries with
  | nil =>
      rw [asMapping, List.map_nil, leaves]
      rfl
  | cons entry rest ih =>
      obtain ⟨hentry, hrest⟩ := List.forall_mem_cons.mp hflat
      have hproperty : Leaf.property "" (Leaf.below (.text entry.1) ⟨[], entry.2⟩) = entry := by
        have hvalue : leafValue (Leaf.below (.text entry.1) ⟨[], entry.2⟩).value = entry.2 :=
          leafValue_of_isFlat hentry
        rw [Leaf.property, hvalue, key_below, String.empty_append]
        rfl
      rw [asMapping, List.map_cons, leaves, leavesOf_of_isFlat hentry, List.map_append,
        List.map_singleton, List.map_singleton, hproperty]
      rw [asMapping] at ih
      rw [ih hrest, List.singleton_append]

/-- A table without mappings and lists is flat already. -/
theorem flatten_asMapping {table : Table Value} (hdistinct : table.HasDistinctKeys)
    (hflat : ∀ entry ∈ table.entries, IsFlat entry.2) :
    flatten (asMapping table) "" = table := by
  rw [flatten_eq_ofEntries, map_property_leaves_asMapping hflat,
    Table.ofEntries_entries hdistinct]

/-- Flattening a nested mapping is walking over its leaves, depth first and in order, and
assigning each of them to its key.  So the last leaf of a key counts, at any depth; a text
in front is put before every key; and what was flattened is not changed by flattening it
again. -/
theorem flatten_assigns_leaves (entries : List (Value × Value)) (start : String) :
    let table := flatten entries start
    table = .ofEntries ((leaves entries).map (Leaf.property start)) ∧
      (∀ before leaf after, leaves entries = before ++ leaf :: after →
        (∀ later ∈ after, later.key ≠ leaf.key) →
          table.get? (start ++ leaf.key) = some (leafValue leaf.value)) ∧
      (∀ key, (∀ leaf ∈ leaves entries, start ++ leaf.key ≠ key) → table.get? key = none) ∧
      table = (flatten entries "").mapKeys (start ++ ·) ∧
      flatten (asMapping table) "" = table := by
  intro table
  have htable : table = .ofEntries ((leaves entries).map (Leaf.property start)) :=
    flatten_eq_ofEntries entries start
  refine ⟨htable, ?_, ?_, flatten_eq_mapKeys entries start, ?_⟩
  · intro before leaf after hsplit hlast
    have hfree : start ++ leaf.key ∉ (after.map (Leaf.property start)).map (·.1) := by
      intro hmem
      obtain ⟨later, hlater, hkey⟩ := List.mem_map.mp (List.map_map ▸ hmem)
      exact hlast later hlater ((String.append_right_inj start).mp hkey)
    rw [htable, hsplit, List.map_append, List.map_cons, Table.ofEntries]
    exact Table.get?_update_of_last .empty _ _ _ hfree
  · intro key hnone
    have hfree : key ∉ ((leaves entries).map (Leaf.property start)).map (·.1) := by
      intro hmem
      obtain ⟨leaf, hleaf, hkey⟩ := List.mem_map.mp (List.map_map ▸ hmem)
      exact hnone leaf hleaf hkey
    rw [htable, Table.ofEntries, Table.get?_update_of_not_mem .empty hfree]
    rfl
  · refine flatten_asMapping ?_ fun entry hentry => isFlat_of_mem_flatten hentry
    rw [htable]
    exact Table.hasDistinctKeys_ofEntries _

/-- A leaf further down in the document counts, also when it lies higher. -/
example :
    flatten [(.text "a", .map [(.text "b", .int 1)]), (.text "a.b", .int 2), (.int 1, .null),
      (.text "1", .list [.int 3, .text "x"])] "p." =
      ⟨[("p.a.b", .int 2), ("p.1", .text "3,x")]⟩ :=
  rfl

end NameRouting.Config
