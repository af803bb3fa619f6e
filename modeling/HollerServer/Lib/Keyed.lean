import Mathlib.Data.List.Basic
import Mathlib.Order.Lattice

/-!
# Lists of keys and values

`List.lookup` in lists whose keys are in ascending order, as the entries of an
ordered map are.  Such a list is known by its lookups.
-/

namespace Keyed

variable {κ ν : Type} [BEq κ] [LawfulBEq κ]

section Lookup

variable {key other : κ} {value : ν} {entries : List (κ × ν)}

theorem lookup_self : ((key, value) :: entries).lookup key = some value := by
  simp

theorem lookup_of_ne (apart : key ≠ other) :
    ((other, value) :: entries).lookup key = entries.lookup key := by
  have unequal : (key == other) = false := beq_eq_false_iff_ne.mpr apart
  rw [List.lookup_cons, unequal]

theorem lookup_eq_none (absent : ∀ entry ∈ entries, entry.1 ≠ key) :
    entries.lookup key = none := by
  induction entries with
  | nil => rfl
  | cons entry rest ih =>
      obtain ⟨first, stored⟩ := entry
      have apart : key ≠ first :=
        fun same => absent _ List.mem_cons_self same.symm
      rw [lookup_of_ne apart]
      exact ih fun entry member =>
        absent entry (List.mem_cons_of_mem _ member)

theorem not_mem_keys (missing : entries.lookup key = none) :
    key ∉ entries.map Prod.fst := by
  induction entries with
  | nil => exact List.not_mem_nil
  | cons entry rest ih =>
      obtain ⟨first, stored⟩ := entry
      by_cases same : key = first
      · subst same
        rw [lookup_self] at missing
        cases missing
      · rw [lookup_of_ne same] at missing
        rw [List.map_cons, List.mem_cons, not_or]
        exact ⟨same, ih missing⟩

theorem mem_of_lookup (found : entries.lookup key = some value) :
    (key, value) ∈ entries := by
  induction entries with
  | nil => cases found
  | cons entry rest ih =>
      obtain ⟨first, stored⟩ := entry
      by_cases same : key = first
      · subst same
        rw [lookup_self] at found
        cases found
        exact List.mem_cons_self
      · rw [lookup_of_ne same] at found
        exact List.mem_cons_of_mem _ (ih found)

/-- With distinct keys each entry is found. -/
theorem lookup_of_mem
    (distinct : (entries.map Prod.fst).Nodup) (member : (key, value) ∈ entries) :
    entries.lookup key = some value := by
  induction entries with
  | nil => cases member
  | cons entry rest ih =>
      obtain ⟨first, stored⟩ := entry
      rw [List.map_cons, List.nodup_cons] at distinct
      rcases List.mem_cons.mp member with same | later
      · cases same
        exact lookup_self
      · have apart : key ≠ first := by
          rintro rfl
          exact distinct.1 (List.mem_map.mpr ⟨_, later, rfl⟩)
        rw [lookup_of_ne apart, ih distinct.2 later]

/-- A filter on keys keeps the lookups of the keys it keeps. -/
theorem lookup_filter (keep : κ → Bool) (kept : keep key = true) :
    (entries.filter fun entry => keep entry.1).lookup key =
      entries.lookup key := by
  induction entries with
  | nil => rfl
  | cons entry rest ih =>
      obtain ⟨first, stored⟩ := entry
      by_cases same : key = first
      · subst same
        rw [List.filter_cons, if_pos kept, lookup_self, lookup_self]
      · rw [lookup_of_ne same, ← ih, List.filter_cons]
        split
        · exact lookup_of_ne same
        · rfl

theorem lookup_filter_of_not (keep : κ → Bool) (out : keep key = false) :
    (entries.filter fun entry => keep entry.1).lookup key = none := by
  apply lookup_eq_none
  intro entry member same
  have kept : keep entry.1 = true := (List.mem_filter.mp member).2
  rw [same, out] at kept
  cases kept

end Lookup

variable [LinearOrder κ]

/-- The keys are strictly ascending. -/
def Ascending (entries : List (κ × ν)) : Prop :=
  entries.Pairwise fun first second => first.1 < second.1

namespace Ascending

variable {entries others : List (κ × ν)}

/-- A key up to the first one is not found behind it. -/
theorem lookup_tail {key first : κ} {value : ν}
    (ascending : Ascending ((first, value) :: entries))
    (low : key ≤ first) : entries.lookup key = none := by
  apply lookup_eq_none
  intro entry member same
  have above : first < entry.1 :=
    List.rel_of_pairwise_cons ascending member
  rw [same] at above
  exact absurd low (not_le_of_gt above)

/-- Two ascending lists with the same lookups are equal. -/
theorem ext (first : Ascending entries) (second : Ascending others)
    (same : ∀ key, entries.lookup key = others.lookup key) :
    entries = others := by
  induction entries generalizing others with
  | nil =>
      cases others with
      | nil => rfl
      | cons entry rest =>
          obtain ⟨key, value⟩ := entry
          have found := same key
          rw [lookup_self] at found
          cases found
  | cons entry rest ih =>
      obtain ⟨key, value⟩ := entry
      cases others with
      | nil =>
          have found := same key
          rw [lookup_self] at found
          cases found
      | cons entry' rest' =>
          obtain ⟨key', value'⟩ := entry'
          -- the smaller of two different first keys is found on one side only
          have sameKey : key = key' := by
            rcases lt_trichotomy key key' with less | equal | more
            · have found := same key
              rw [lookup_self, lookup_of_ne (ne_of_lt less),
                second.lookup_tail (le_of_lt less)] at found
              cases found
            · exact equal
            · have found := same key'
              rw [lookup_self, lookup_of_ne (ne_of_lt more),
                first.lookup_tail (le_of_lt more)] at found
              cases found
          subst sameKey
          have sameValue : value = value' := by
            have found := same key
            rw [lookup_self, lookup_self] at found
            exact Option.some.inj found
          subst sameValue
          have sameRest : rest = rest' := by
            apply ih (List.Pairwise.of_cons first)
              (List.Pairwise.of_cons second)
            intro other
            by_cases equal : other = key
            · rw [equal, first.lookup_tail le_rfl,
                second.lookup_tail le_rfl]
            · have found := same other
              rwa [lookup_of_ne equal, lookup_of_ne equal] at found
          rw [sameRest]

omit [BEq κ] [LawfulBEq κ] in
theorem filter (ascending : Ascending entries) (keep : κ × ν → Bool) :
    Ascending (entries.filter keep) :=
  List.Pairwise.filter keep ascending

end Ascending

end Keyed
