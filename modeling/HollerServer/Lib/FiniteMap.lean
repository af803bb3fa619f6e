import Mathlib.Data.Fintype.EquivFin
import Mathlib.Data.List.AList

/-!
# Finite maps

A finite map is an association list without duplicate keys.  Mathlib's `AList`
carries that invariant; this module fixes the value type, states the lookup
laws as one equation for each operation, and adds an in-place update, an update
of all values, and the removal of the values that fail a test.
-/

/-- A finite map from keys to values. -/
abbrev FiniteMap (κ ν : Type) : Type :=
  AList fun _ : κ => ν

namespace FiniteMap

variable {κ ν : Type} [DecidableEq κ]

/-- The value stored under a key. -/
def get? (entries : FiniteMap κ ν) (key : κ) : Option ν :=
  AList.lookup key entries

/-- Store a value under a key, replacing what was there. -/
def put (entries : FiniteMap κ ν) (key : κ) (value : ν) : FiniteMap κ ν :=
  AList.insert key value entries

/-- Forget a key. -/
def delete (entries : FiniteMap κ ν) (key : κ) : FiniteMap κ ν :=
  AList.erase key entries

/-- Update the value stored under a key, if there is one. -/
def modify
    (entries : FiniteMap κ ν) (key : κ) (update : ν → ν) :
    FiniteMap κ ν :=
  match entries.get? key with
  | none => entries
  | some value => entries.put key (update value)

/-- The stored values, in storage order. -/
def values (entries : FiniteMap κ ν) : List ν :=
  entries.entries.map Sigma.snd

/-- The keys with their values, in storage order. -/
def pairs (entries : FiniteMap κ ν) : List (κ × ν) :=
  entries.entries.map fun entry => (entry.1, entry.2)

/-- Update every value. -/
def mapValues (entries : FiniteMap κ ν) (update : ν → ν) : FiniteMap κ ν where
  entries := entries.entries.map (.map id fun _ => update)
  nodupKeys := entries.nodupKeys.map₂ _ _

/-- Keep the values that pass a test. -/
def retain (entries : FiniteMap κ ν) (test : ν → Bool) : FiniteMap κ ν where
  entries := entries.entries.filter fun entry => test entry.2
  nodupKeys := entries.nodupKeys.sublist List.filter_sublist

@[simp]
theorem get?_empty (key : κ) :
    get? (∅ : FiniteMap κ ν) key = none :=
  AList.lookup_empty key

/-- Some key is free if there are infinitely many. -/
theorem exists_get?_eq_none [Infinite κ] (entries : FiniteMap κ ν) :
    ∃ key, entries.get? key = none := by
  obtain ⟨key, free⟩ :=
    Infinite.exists_notMem_finset entries.keys.toFinset
  refine ⟨key, AList.lookup_eq_none.mpr ?_⟩
  intro member
  exact free (List.mem_toFinset.mpr member)

theorem get?_put
    (entries : FiniteMap κ ν) (key key' : κ) (value : ν) :
    (entries.put key value).get? key' =
      if key' = key then some value else entries.get? key' := by
  unfold get? put
  split
  next same =>
    subst same
    exact AList.lookup_insert entries
  next different =>
    exact AList.lookup_insert_ne different

@[simp]
theorem get?_put_self
    (entries : FiniteMap κ ν) (key : κ) (value : ν) :
    (entries.put key value).get? key = some value := by
  rw [get?_put, if_pos rfl]

@[simp]
theorem get?_put_of_ne
    (entries : FiniteMap κ ν) {key key' : κ} (value : ν)
    (different : key' ≠ key) :
    (entries.put key value).get? key' = entries.get? key' := by
  rw [get?_put, if_neg different]

theorem get?_delete
    (entries : FiniteMap κ ν) (key key' : κ) :
    (entries.delete key).get? key' =
      if key' = key then none else entries.get? key' := by
  unfold get? delete
  split
  next same =>
    subst same
    exact AList.lookup_erase key' entries
  next different =>
    exact AList.lookup_erase_ne different

theorem get?_modify
    (entries : FiniteMap κ ν) (key key' : κ) (update : ν → ν) :
    (entries.modify key update).get? key' =
      if key' = key then (entries.get? key).map update
      else entries.get? key' := by
  unfold modify
  cases stored : entries.get? key with
  | none =>
      by_cases same : key' = key
      · rw [if_pos same, same]
        exact stored
      · rw [if_neg same]
  | some value =>
      exact entries.get?_put key key' (update value)

theorem modify_eq_put
    {entries : FiniteMap κ ν} {key : κ} {value : ν} {update : ν → ν}
    (stored : entries.get? key = some value) :
    entries.modify key update = entries.put key (update value) := by
  unfold modify
  rw [stored]

theorem isSome_get?_put
    {entries : FiniteMap κ ν} {key : κ} (key' : κ) (value : ν)
    (present : (entries.get? key).isSome = true) :
    ((entries.put key' value).get? key).isSome = true := by
  rw [get?_put]
  split
  next => rfl
  next => exact present

@[simp]
theorem isSome_get?_modify
    (entries : FiniteMap κ ν) (key key' : κ) (update : ν → ν) :
    ((entries.modify key update).get? key').isSome =
      (entries.get? key').isSome := by
  rw [get?_modify]
  split
  next same => rw [same, Option.isSome_map]
  next => rfl

/-- Every key of the earlier map has a value in the later one. -/
def Extends (later earlier : FiniteMap κ ν) : Prop :=
  ∀ key, (earlier.get? key).isSome = true →
    (later.get? key).isSome = true

theorem Extends.refl (entries : FiniteMap κ ν) : entries.Extends entries :=
  fun _ present => present

theorem Extends.put {later earlier : FiniteMap κ ν}
    (grown : later.Extends earlier) (key : κ) (value : ν) :
    (later.put key value).Extends earlier :=
  fun other present =>
    isSome_get?_put key value (grown other present)

theorem Extends.modify {later earlier : FiniteMap κ ν}
    (grown : later.Extends earlier) (key : κ) (update : ν → ν) :
    (later.modify key update).Extends earlier :=
  fun other present =>
    (isSome_get?_modify later key other update).trans
      (grown other present)

theorem mem_values
    {entries : FiniteMap κ ν} {value : ν} :
    value ∈ entries.values ↔ ∃ key, entries.get? key = some value := by
  unfold values get?
  rw [List.mem_map]
  constructor
  · rintro ⟨⟨key, stored⟩, member, rfl⟩
    exact ⟨key, AList.mem_lookup_iff.mpr member⟩
  · rintro ⟨key, found⟩
    exact ⟨⟨key, value⟩, AList.mem_lookup_iff.mp found, rfl⟩

theorem get?_mapValues
    (entries : FiniteMap κ ν) (update : ν → ν) (key : κ) :
    (entries.mapValues update).get? key =
      (entries.get? key).map update :=
  List.dlookup_map₂ key

theorem get?_retain
    (entries : FiniteMap κ ν) (test : ν → Bool) (key : κ) :
    (entries.retain test).get? key = (entries.get? key).filter test := by
  ext value
  have stored :
      value ∈ (entries.retain test).get? key ↔
        Sigma.mk key value ∈ (entries.retain test).entries :=
    AList.mem_lookup_iff
  have original :
      value ∈ entries.get? key ↔ Sigma.mk key value ∈ entries.entries :=
    AList.mem_lookup_iff
  rw [Option.mem_def] at stored original
  rw [stored, Option.filter_eq_some_iff, original]
  simp [retain]

theorem mem_pairs
    {entries : FiniteMap κ ν} {key : κ} {value : ν} :
    (key, value) ∈ entries.pairs ↔ entries.get? key = some value := by
  unfold pairs get?
  rw [List.mem_map]
  constructor
  · rintro ⟨⟨key', value'⟩, member, same⟩
    cases same
    exact AList.mem_lookup_iff.mpr member
  · intro found
    exact ⟨⟨key, value⟩, AList.mem_lookup_iff.mp found, rfl⟩

omit [DecidableEq κ] in
theorem nodup_keys_pairs (entries : FiniteMap κ ν) :
    (entries.pairs.map Prod.fst).Nodup := by
  have keys := entries.keys_nodup
  unfold AList.keys List.keys at keys
  unfold pairs
  rw [List.map_map]
  exact keys

end FiniteMap
