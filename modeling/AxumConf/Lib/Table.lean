import Mathlib.Data.List.AList

/-!
# Finite tables

Mathlib's `AList` is a finite map with unique keys. This file adds the
operations that a concurrent map or a table of pending activities needs besides
insertion, lookup and erasure: the number of entries, the number of entries
with a property, and dropping the entries without one.
-/

universe u v

abbrev AxumConf.Table (Key : Type u) (Value : Type v) : Type (max u v) :=
  AList fun _ : Key => Value

namespace AList

variable {Key : Type u} {Value : Key → Type v}

def size (table : AList Value) : Nat :=
  table.entries.length

def count (property : ∀ key, Value key → Bool) (table : AList Value) : Nat :=
  table.entries.countP fun entry => property entry.1 entry.2

/-- Drop every entry without the property. -/
def retain (keep : ∀ key, Value key → Bool) (table : AList Value) : AList Value where
  entries := table.entries.filter fun entry => keep entry.1 entry.2
  nodupKeys := table.nodupKeys.sublist List.filter_sublist

theorem size_retain_le (keep : ∀ key, Value key → Bool) (table : AList Value) :
    (table.retain keep).size ≤ table.size :=
  List.length_filter_le _ _

theorem mem_entries_retain {keep : ∀ key, Value key → Bool} {table : AList Value}
    {entry : Sigma Value} :
    entry ∈ (table.retain keep).entries ↔
      entry ∈ table.entries ∧ keep entry.1 entry.2 = true := by
  simp [retain, List.mem_filter]

variable [DecidableEq Key]

theorem lookup_retain (keep : ∀ key, Value key → Bool) (table : AList Value) (key : Key) :
    (table.retain keep).lookup key = (table.lookup key).filter (keep key) := by
  apply Option.ext
  intro value
  have inRetain := mem_lookup_iff (a := key) (b := value) (s := table.retain keep)
  have inTable := mem_lookup_iff (a := key) (b := value) (s := table)
  simp only [Option.mem_def, Option.filter_eq_some_iff] at inRetain inTable ⊢
  rw [inRetain, mem_entries_retain, inTable]

/-- An entry that erasing leaves was there before, under another key. -/
theorem lookup_of_lookup_erase {table : AList Value} {key other : Key} {held : Value other}
    (found : (table.erase key).lookup other = some held) :
    other ≠ key ∧ table.lookup other = some held := by
  have distinct : other ≠ key := by
    rintro rfl
    simp [lookup_erase] at found
  rw [lookup_erase_ne distinct] at found
  exact ⟨distinct, found⟩

/-- An entry is the one just inserted, or was there before under another key. -/
theorem lookup_insert_cases {Entry : Type v} {table : AList fun _ : Key => Entry}
    {key other : Key} {value held : Entry}
    (found : (table.insert key value).lookup other = some held) :
    (other = key ∧ held = value) ∨ (other ≠ key ∧ table.lookup other = some held) := by
  by_cases same : other = key
  · rw [same, lookup_insert] at found
    exact .inl ⟨same, (Option.some.inj found).symm⟩
  · rw [lookup_insert_ne same] at found
    exact .inr ⟨same, found⟩

/-- An entry can be brought to the front of the listing. -/
theorem entries_perm_erase {table : AList Value} {key : Key} {value : Value key}
    (found : table.lookup key = some value) :
    table.entries.Perm (⟨key, value⟩ :: (table.erase key).entries) := by
  have member : key ∈ table.keys := by
    rw [← mem_keys, ← lookup_isSome, found]
    rfl
  rcases List.exists_of_kerase member with ⟨held, front, back, _, split, erased⟩
  have heldEq : held = value := by
    have inEntries : (⟨key, held⟩ : Sigma Value) ∈ table.entries := by
      rw [split]
      simp
    have looked := mem_lookup_iff.mpr inEntries
    rw [found] at looked
    exact (Option.some.inj looked).symm
  subst heldEq
  change table.entries.Perm (⟨key, held⟩ :: List.kerase key table.entries)
  rw [erased, split]
  exact List.perm_middle

theorem erase_of_lookup_none {table : AList Value} {key : Key}
    (missing : table.lookup key = none) : table.erase key = table := by
  apply AList.ext
  exact List.kerase_of_notMem_keys (lookup_eq_none.mp missing)

theorem size_erase {table : AList Value} {key : Key} {value : Value key}
    (found : table.lookup key = some value) : (table.erase key).size + 1 = table.size := by
  have lengths := (entries_perm_erase found).length_eq
  simpa [size] using lengths.symm

theorem size_erase_le (table : AList Value) (key : Key) :
    (table.erase key).size ≤ table.size := by
  cases found : table.lookup key with
  | none => rw [erase_of_lookup_none found]
  | some value =>
      have := size_erase found
      omega

theorem size_insert (table : AList Value) (key : Key) (value : Value key) :
    (table.insert key value).size = (table.erase key).size + 1 :=
  rfl

theorem size_insert_of_lookup_none {table : AList Value} {key : Key}
    (missing : table.lookup key = none) (value : Value key) :
    (table.insert key value).size = table.size + 1 := by
  rw [size_insert, erase_of_lookup_none missing]

theorem exists_lookup_of_size_pos {table : AList Value} (positive : 0 < table.size) :
    ∃ key value, table.lookup key = some value := by
  cases listed : table.entries with
  | nil => simp [size, listed] at positive
  | cons entry rest =>
      refine ⟨entry.1, entry.2, ?_⟩
      apply mem_lookup_iff.mpr
      rw [listed]
      exact List.mem_cons_self

theorem lookup_of_size_eq_zero {table : AList Value} (empty : table.size = 0) (key : Key) :
    table.lookup key = none := by
  cases found : table.lookup key with
  | none => rfl
  | some value =>
      have := size_erase found
      omega

/-- A table with fewer entries, none of them changed, is no larger. -/
theorem size_le_of_subtable {small table : AList Value}
    (subtable : ∀ key value, small.lookup key = some value → table.lookup key = some value) :
    small.size ≤ table.size := by
  have subset : small.keys ⊆ table.keys := by
    intro key member
    rw [← mem_keys, ← lookup_isSome] at member ⊢
    rcases Option.isSome_iff_exists.mp member with ⟨value, found⟩
    rw [subtable key value found]
    rfl
  have shorter := (List.subperm_of_subset small.keys_nodup subset).length_le
  simpa [keys, List.keys, size] using shorter

theorem size_lt_of_subtable {small table : AList Value} {key : Key} {value : Value key}
    (subtable : ∀ key value, small.lookup key = some value → table.lookup key = some value)
    (found : table.lookup key = some value) (missing : small.lookup key = none) :
    small.size < table.size := by
  have remaining : small.size ≤ (table.erase key).size := by
    apply size_le_of_subtable
    intro other held lookedUp
    have distinct : other ≠ key := by
      rintro rfl
      rw [missing] at lookedUp
      cases lookedUp
    rw [lookup_erase_ne distinct]
    exact subtable other held lookedUp
  have oneMore := size_erase found
  omega

/-- Entries that each stand for another key of a table are at least as many as its keys. -/
theorem size_le_count {Other : Type u} {Held : Other → Type v} [DecidableEq Other]
    {table : AList Value} {others : AList Held} {property : ∀ other, Held other → Bool}
    (keyOf : ∀ other, Held other → Key)
    (covered : ∀ key value, table.lookup key = some value → ∃ other held,
      others.lookup other = some held ∧ property other held = true ∧ keyOf other held = key) :
    table.size ≤ others.count property := by
  have subset : table.keys ⊆ (others.entries.filter fun entry => property entry.1 entry.2).map
      fun entry => keyOf entry.1 entry.2 := by
    intro key member
    rw [← mem_keys, ← lookup_isSome] at member
    rcases Option.isSome_iff_exists.mp member with ⟨value, found⟩
    rcases covered key value found with ⟨other, held, foundOther, has, isKey⟩
    rw [List.mem_map]
    refine ⟨⟨other, held⟩, ?_, isKey⟩
    rw [List.mem_filter]
    exact ⟨mem_lookup_iff.mp foundOther, has⟩
  have shorter := (List.subperm_of_subset table.keys_nodup subset).length_le
  simpa [keys, List.keys, size, count, List.countP_eq_length_filter] using shorter

theorem forall_lookup_iff {table : AList Value} {Holds : ∀ key, Value key → Prop} :
    (∀ key value, table.lookup key = some value → Holds key value) ↔
      ∀ entry ∈ table.entries, Holds entry.1 entry.2 := by
  constructor
  · intro holds entry member
    exact holds entry.1 entry.2 (mem_lookup_iff.mpr member)
  · intro holds key value found
    exact holds ⟨key, value⟩ (mem_lookup_iff.mp found)

instance decidableForallLookup {table : AList Value} {Holds : ∀ key, Value key → Prop}
    [∀ key, DecidablePred (Holds key)] :
    Decidable (∀ key value, table.lookup key = some value → Holds key value) :=
  decidable_of_iff _ forall_lookup_iff.symm

theorem count_erase {table : AList Value} {key : Key} {value : Value key}
    (found : table.lookup key = some value) (property : ∀ key, Value key → Bool) :
    table.count property =
      (table.erase key).count property + (if property key value then 1 else 0) := by
  have counts := (entries_perm_erase found).countP_eq fun entry => property entry.1 entry.2
  simpa [count, List.countP_cons] using counts

theorem count_insert (table : AList Value) (key : Key) (value : Value key)
    (property : ∀ key, Value key → Bool) :
    (table.insert key value).count property =
      (table.erase key).count property + (if property key value then 1 else 0) := by
  change List.countP _ (⟨key, value⟩ :: (table.erase key).entries) = _
  simp [count, List.countP_cons]

theorem count_insert_of_lookup_none {table : AList Value} {key : Key}
    (missing : table.lookup key = none) (value : Value key)
    (property : ∀ key, Value key → Bool) :
    (table.insert key value).count property =
      table.count property + (if property key value then 1 else 0) := by
  rw [count_insert, erase_of_lookup_none missing]

theorem count_insert_of_lookup_some {table : AList Value} {key : Key} {value : Value key}
    (found : table.lookup key = some value) (changed : Value key)
    (property : ∀ key, Value key → Bool) :
    (table.insert key changed).count property + (if property key value then 1 else 0) =
      table.count property + (if property key changed then 1 else 0) := by
  rw [count_insert, count_erase found]
  omega

/-- Changing an entry without changing the property leaves the count. -/
theorem count_insert_of_same {table : AList Value} {key : Key} {value : Value key}
    (found : table.lookup key = some value) (changed : Value key)
    (property : ∀ key, Value key → Bool) (same : property key changed = property key value) :
    (table.insert key changed).count property = table.count property := by
  have counted := count_insert_of_lookup_some found changed property
  rw [same] at counted
  exact Nat.add_right_cancel counted

omit [DecidableEq Key] in
theorem count_le_of_imp {table : AList Value} {first second : ∀ key, Value key → Bool}
    (implies : ∀ key value, first key value = true → second key value = true) :
    table.count first ≤ table.count second :=
  List.countP_mono_left fun entry _ => implies entry.1 entry.2

omit [DecidableEq Key] in
theorem count_or_of_disjoint (table : AList Value) {first second : ∀ key, Value key → Bool}
    (disjoint : ∀ key value, first key value = true → second key value = false) :
    table.count (fun key value => first key value || second key value) =
      table.count first + table.count second := by
  simp only [count]
  induction table.entries with
  | nil => rfl
  | cons entry rest ih =>
      have apart := disjoint entry.1 entry.2
      simp only [List.countP_cons, ih]
      cases isFirst : first entry.1 entry.2 with
      | true =>
          simp only [apart isFirst, Bool.true_or, if_true, Bool.false_eq_true, if_false]
          omega
      | false =>
          simp only [Bool.false_or, Bool.false_eq_true, if_false]
          omega

/-- An entry with the weaker property only makes its count larger. -/
theorem count_lt_of_imp {table : AList Value} {first second : ∀ key, Value key → Bool}
    (implies : ∀ key value, first key value = true → second key value = true) {key : Key}
    {value : Value key} (found : table.lookup key = some value)
    (has : second key value = true) (lacks : first key value = false) :
    table.count first < table.count second := by
  have rest := @count_le_of_imp _ _ (table.erase key) first second implies
  rw [count_erase found first, count_erase found second, has, lacks]
  simp only [Bool.false_eq_true, if_false, if_true]
  omega

end AList
