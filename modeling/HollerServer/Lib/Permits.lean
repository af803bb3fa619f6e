import HollerServer.Lib.FiniteMap

/-!
# A counting semaphore and the owners of its permits

A semaphore only knows how many permits are free.  Which task owns one is known
to the tasks.  The module counts the values of a finite map that pass a test and
proves, for each way a table of tasks and its semaphore move together, that free
permits and owned permits go on adding up to the capacity.
-/

namespace FiniteMap

variable {κ ν : Type} [DecidableEq κ]

/-- How many of the stored values pass a test. -/
def countWhere (entries : FiniteMap κ ν) (test : ν → Bool) : Nat :=
  entries.values.countP test

omit [DecidableEq κ] in
@[simp]
theorem countWhere_empty (test : ν → Bool) :
    countWhere (∅ : FiniteMap κ ν) test = 0 :=
  rfl

/-- A value that is replaced no longer counts, the one stored for it does. -/
theorem countWhere_put
    (entries : FiniteMap κ ν) (key : κ) (value : ν) (test : ν → Bool) :
    (entries.put key value).countWhere test +
        (if (entries.get? key).any test then 1 else 0) =
      entries.countWhere test + (if test value then 1 else 0) := by
  unfold countWhere values put
  rw [AList.entries_insert, List.map_cons, List.countP_cons]
  cases stored : entries.get? key with
  | none =>
      have absent : key ∉ entries.entries.keys :=
        AList.lookup_eq_none.mp stored
      rw [List.kerase_of_notMem_keys absent]
      rfl
  | some old =>
      have present : key ∈ entries.entries.keys := by
        by_contra absent
        have none_ := AList.lookup_eq_none.mpr absent
        exact absurd (stored.symm.trans none_) (by simp)
      obtain ⟨found, earlier, later, fresh, split, erased⟩ :=
        List.exists_of_kerase present
      have same : found = old := by
        have member : Sigma.mk key found ∈ entries.entries := by
          rw [split]
          exact List.mem_append_right _ (List.mem_cons_self ..)
        exact
          Option.some.inj ((AList.mem_lookup_iff.mpr member).symm.trans stored)
      subst same
      rw [erased, split]
      simp only [List.map_append, List.countP_append, List.map_cons,
        List.countP_cons, Option.any_some]
      omega

/-- A stored value that passes is counted. -/
theorem countWhere_pos
    {entries : FiniteMap κ ν} {key : κ} {value : ν} {test : ν → Bool}
    (stored : entries.get? key = some value) (passes : test value = true) :
    0 < entries.countWhere test :=
  List.countP_pos_iff.mpr
    ⟨value, mem_values.mpr ⟨key, stored⟩, passes⟩

/-- Nothing is counted exactly if no stored value passes. -/
theorem countWhere_eq_zero
    {entries : FiniteMap κ ν} {test : ν → Bool} :
    entries.countWhere test = 0 ↔
      ∀ key value, entries.get? key = some value → test value = false := by
  unfold countWhere
  rw [List.countP_eq_zero]
  constructor
  · intro none_ key value stored
    exact
      Bool.eq_false_iff.mpr
        (none_ value (mem_values.mpr ⟨key, stored⟩))
  · intro none_ value member
    obtain ⟨key, stored⟩ := mem_values.mp member
    exact Bool.eq_false_iff.mp (none_ key value stored)

omit [DecidableEq κ] in
/-- A stronger test passes no more values. -/
theorem countWhere_mono
    (entries : FiniteMap κ ν) {test other : ν → Bool}
    (weaker : ∀ value, test value = true → other value = true) :
    entries.countWhere test ≤ entries.countWhere other :=
  List.countP_mono_left fun value _ => weaker value

/-- A stronger test passes fewer values if one of them tells the tests apart. -/
theorem countWhere_lt
    {entries : FiniteMap κ ν} {test other : ν → Bool} {key : κ} {value : ν}
    (weaker : ∀ value, test value = true → other value = true)
    (stored : entries.get? key = some value)
    (passes : other value = true) (fails : test value = false) :
    entries.countWhere test < entries.countWhere other := by
  obtain ⟨earlier, later, split⟩ :=
    List.append_of_mem (mem_values.mpr ⟨key, stored⟩)
  have before : earlier.countP test ≤ earlier.countP other :=
    List.countP_mono_left fun value _ => weaker value
  have after : later.countP test ≤ later.countP other :=
    List.countP_mono_left fun value _ => weaker value
  unfold countWhere
  rw [split]
  simp only [List.countP_append, List.countP_cons, passes, fails, if_true,
    Bool.false_eq_true, if_false]
  omega

/-- If every key has an owner that passes and owners know their key, there are no
more keys than owners that pass. -/
theorem length_values_le_countWhere
    {ι μ : Type} [DecidableEq ι]
    {entries : FiniteMap κ ν} {owners : FiniteMap ι μ}
    (owner : ν → ι) (label : μ → κ) {test : μ → Bool}
    (owned :
      ∀ key value, entries.get? key = some value →
        ∃ item, owners.get? (owner value) = some item ∧
          label item = key ∧ test item = true) :
    entries.values.length ≤ owners.countWhere test := by
  have nodup : (entries.pairs.map fun pair => owner pair.2).Nodup := by
    refine List.Nodup.of_map (fun id => (owners.get? id).map label) ?_
    have sameKeys :
        (entries.pairs.map fun pair => owner pair.2).map
            (fun id => (owners.get? id).map label) =
          (entries.pairs.map Prod.fst).map some := by
      rw [List.map_map, List.map_map]
      apply List.map_congr_left
      rintro ⟨key, value⟩ member
      obtain ⟨item, found, labelled, _⟩ :=
        owned key value (mem_pairs.mp member)
      simp [found, labelled]
    rw [sameKeys]
    exact (entries.nodup_keys_pairs).map (Option.some_injective κ)
  have inside :
      (entries.pairs.map fun pair => owner pair.2) ⊆
        (owners.pairs.filter fun pair => test pair.2).map Prod.fst := by
    intro id member
    obtain ⟨⟨key, value⟩, stored, rfl⟩ := List.mem_map.mp member
    obtain ⟨item, found, _, passes⟩ :=
      owned key value (mem_pairs.mp stored)
    exact
      List.mem_map.mpr
        ⟨(owner value, item),
          List.mem_filter.mpr ⟨mem_pairs.mpr found, passes⟩, rfl⟩
  have shorter := (nodup.subperm inside).length_le
  rw [List.length_map, List.length_map] at shorter
  have counted :
      (owners.pairs.filter fun pair => test pair.2).length =
        owners.countWhere test := by
    unfold countWhere values pairs
    rw [← List.countP_eq_length_filter, List.countP_map, List.countP_map]
    rfl
  have same : entries.values.length = entries.pairs.length := by
    unfold values pairs
    rw [List.length_map, List.length_map]
  omega

end FiniteMap

/-- A counting semaphore. -/
structure Semaphore where
  available : Nat
  deriving DecidableEq, Repr

namespace Semaphore

def new (permits : Nat) : Semaphore where
  available := permits

/-- Take a permit, if one is free. -/
def tryAcquire (semaphore : Semaphore) : Option Semaphore :=
  match semaphore.available with
  | 0 => none
  | available + 1 => some { available }

/-- A permit is dropped. -/
def release (semaphore : Semaphore) : Semaphore where
  available := semaphore.available + 1

/-- Drop a permit if there is one to drop. -/
def releaseIf (semaphore : Semaphore) (owned : Bool) : Semaphore :=
  if owned then semaphore.release else semaphore

theorem tryAcquire_eq_some
    {semaphore rest : Semaphore} :
    semaphore.tryAcquire = some rest ↔
      semaphore.available = rest.available + 1 := by
  obtain ⟨available⟩ := semaphore
  obtain ⟨remaining⟩ := rest
  cases available with
  | zero => simp [tryAcquire]
  | succ available =>
      simp [tryAcquire]

theorem tryAcquire_eq_none {semaphore : Semaphore} :
    semaphore.tryAcquire = none ↔ semaphore.available = 0 := by
  obtain ⟨available⟩ := semaphore
  cases available with
  | zero => simp [tryAcquire]
  | succ available => simp [tryAcquire]

@[simp]
theorem available_releaseIf (semaphore : Semaphore) (owned : Bool) :
    (semaphore.releaseIf owned).available =
      semaphore.available + (if owned then 1 else 0) := by
  cases owned <;> rfl

section Balance

variable {κ ν : Type} [DecidableEq κ] {capacity : Nat} {owns : ν → Bool}
  {semaphore rest : Semaphore} {owners : FiniteMap κ ν} {key : κ}
  {value old : ν}

/-- Free permits and owned permits add up to the capacity. -/
def Balanced
    (capacity : Nat) (owns : ν → Bool) (semaphore : Semaphore)
    (owners : FiniteMap κ ν) : Prop :=
  semaphore.available + owners.countWhere owns = capacity

omit [DecidableEq κ] in
theorem balanced_new :
    Balanced capacity owns (new capacity) (∅ : FiniteMap κ ν) :=
  rfl

/-- A new owner takes a permit. -/
theorem Balanced.acquire
    (balanced : Balanced capacity owns semaphore owners)
    (acquired : semaphore.tryAcquire = some rest)
    (fresh : owners.get? key = none) (owner : owns value = true) :
    Balanced capacity owns rest (owners.put key value) := by
  have counted := owners.countWhere_put key value owns
  have taken := tryAcquire_eq_some.mp acquired
  simp only [fresh, owner, Option.any_none, if_true, Bool.false_eq_true,
    if_false, Nat.add_zero] at counted
  unfold Balanced at balanced ⊢
  omega

/-- An owner moves on; it keeps its permit or drops it. -/
theorem Balanced.move
    (balanced : Balanced capacity owns semaphore owners)
    (stored : owners.get? key = some old)
    (dropped : Bool)
    (exchanged :
      (if owns value then 1 else 0) + (if dropped then 1 else 0) =
        if owns old then 1 else 0) :
    Balanced capacity owns (semaphore.releaseIf dropped)
      (owners.put key value) := by
  have counted := owners.countWhere_put key value owns
  rw [stored, Option.any_some] at counted
  unfold Balanced at balanced ⊢
  rw [available_releaseIf]
  omega

omit [DecidableEq κ] in
theorem Balanced.countWhere_le
    (balanced : Balanced capacity owns semaphore owners) :
    owners.countWhere owns ≤ capacity := by
  unfold Balanced at balanced
  omega

omit [DecidableEq κ] in
/-- A permit is refused exactly when the capacity is owned. -/
theorem Balanced.tryAcquire_eq_none
    (balanced : Balanced capacity owns semaphore owners) :
    semaphore.tryAcquire = none ↔ owners.countWhere owns = capacity := by
  rw [Semaphore.tryAcquire_eq_none]
  unfold Balanced at balanced
  omega

end Balance

end Semaphore
