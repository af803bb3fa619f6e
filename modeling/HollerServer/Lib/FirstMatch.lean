import Mathlib.Data.List.Forall2
import Mathlib.Data.List.Nodup

/-!
# Rewriting the first match in a list

`rewriteFirst key wanted item` puts `item` in the place of the first element
with the wanted key.  The keys, their order and the elements under other keys
stay; where keys are pairwise distinct the element found is the only one that
goes.
-/

namespace List

variable {α κ : Type} [DecidableEq κ] (key : α → κ) (wanted : κ)

/-- The first element with the wanted key. -/
def findKey (items : List α) : Option α :=
  items.find? fun item => key item = wanted

/-- Replace the first element with the wanted key. -/
def rewriteFirst (replacement : α) : List α → List α
  | [] => []
  | item :: rest =>
      if key item = wanted then replacement :: rest
      else item :: rewriteFirst replacement rest

attribute [local simp] rewriteFirst

variable {key wanted}

theorem findKey_eq_some
    {items : List α} {item : α}
    (found : findKey key wanted items = some item) :
    item ∈ items ∧ key item = wanted :=
  ⟨List.mem_of_find?_eq_some found, by
    simpa using List.find?_some found⟩

/-- With distinct keys, the element of a key is the one that is found. -/
theorem findKey_of_mem
    {items : List α} {item : α}
    (distinct : (items.map key).Nodup)
    (member : item ∈ items) (keyed : key item = wanted) :
    findKey key wanted items = some item := by
  induction items with
  | nil => cases member
  | cons head rest inductionHypothesis =>
      rw [List.map_cons, List.nodup_cons] at distinct
      unfold findKey
      rw [List.find?_cons]
      rcases List.mem_cons.mp member with rfl | inRest
      · simp [keyed]
      · have different : key head ≠ wanted := by
          intro same
          refine distinct.1 ?_
          rw [same, ← keyed]
          exact List.mem_map_of_mem inRest
        simp only [different, decide_false]
        exact inductionHypothesis distinct.2 inRest

/-- The keys and their order stay. -/
theorem map_rewriteFirst
    {replacement : α} (keyed : key replacement = wanted)
    (items : List α) :
    (rewriteFirst key wanted replacement items).map key =
      items.map key := by
  induction items with
  | nil => rfl
  | cons head rest inductionHypothesis =>
      unfold rewriteFirst
      split
      next same => rw [List.map_cons, List.map_cons, keyed, same]
      next => rw [List.map_cons, List.map_cons, inductionHypothesis]

/-- The elements under other keys stay, in their order. -/
theorem filter_rewriteFirst
    {replacement : α} (keyed : key replacement = wanted)
    (items : List α) :
    (rewriteFirst key wanted replacement items).filter
        (fun item => key item ≠ wanted) =
      items.filter fun item => key item ≠ wanted := by
  induction items with
  | nil => rfl
  | cons head rest inductionHypothesis =>
      unfold rewriteFirst
      split
      next same => simp [keyed, same]
      next different =>
        simp only [List.filter_cons, inductionHypothesis]

theorem length_rewriteFirst (replacement : α) (items : List α) :
    (rewriteFirst key wanted replacement items).length =
      items.length := by
  induction items with
  | nil => rfl
  | cons head rest inductionHypothesis =>
      unfold rewriteFirst
      split
      next => rfl
      next => rw [List.length_cons, List.length_cons, inductionHypothesis]

/-- With distinct keys, the elements afterwards are the replacement and the
elements under other keys. -/
theorem mem_rewriteFirst
    {items : List α} {item replacement : α}
    (distinct : (items.map key).Nodup)
    (present : wanted ∈ items.map key) :
    item ∈ rewriteFirst key wanted replacement items ↔
      item = replacement ∨ (item ∈ items ∧ key item ≠ wanted) := by
  induction items with
  | nil => cases present
  | cons head rest inductionHypothesis =>
      rw [List.map_cons, List.nodup_cons] at distinct
      unfold rewriteFirst
      by_cases same : key head = wanted
      · rw [if_pos same, List.mem_cons]
        constructor
        · rintro (isNew | old)
          · exact Or.inl isNew
          · refine Or.inr ⟨List.mem_cons_of_mem _ old, ?_⟩
            intro keyed
            refine distinct.1 ?_
            rw [same, ← keyed]
            exact List.mem_map_of_mem old
        · rintro (isNew | ⟨old, different⟩)
          · exact Or.inl isNew
          · rcases List.mem_cons.mp old with rfl | inRest
            · exact absurd same different
            · exact Or.inr inRest
      · have presentRest : wanted ∈ rest.map key := by
          rcases List.mem_cons.mp present with isHead | inRest
          · exact absurd isHead.symm same
          · exact inRest
        rw [if_neg same, List.mem_cons,
          inductionHypothesis distinct.2 presentRest, List.mem_cons]
        constructor
        · rintro (rfl | isNew | ⟨old, different⟩)
          · exact Or.inr ⟨Or.inl rfl, same⟩
          · exact Or.inl isNew
          · exact Or.inr ⟨Or.inr old, different⟩
        · rintro (isNew | ⟨rfl | old, different⟩)
          · exact Or.inr (Or.inl isNew)
          · exact Or.inl rfl
          · exact Or.inr (Or.inr ⟨old, different⟩)

/-- The element found gives way to the replacement, and nothing else moves. -/
theorem rewriteFirst_eq_append
    {items : List α} {item : α}
    (found : findKey key wanted items = some item) (replacement : α) :
    ∃ earlier later,
      items = earlier ++ item :: later ∧
      rewriteFirst key wanted replacement items =
        earlier ++ replacement :: later := by
  induction items with
  | nil => cases found
  | cons head rest inductionHypothesis =>
      unfold findKey at found
      rw [List.find?_cons] at found
      unfold rewriteFirst
      by_cases same : key head = wanted
      · simp only [same, decide_true, Option.some.injEq] at found
        subst found
        rw [if_pos same]
        exact ⟨[], rest, rfl, rfl⟩
      · simp only [same, decide_false] at found
        obtain ⟨earlier, later, split, rewritten⟩ :=
          inductionHypothesis found
        rw [if_neg same, rewritten, split]
        exact ⟨head :: earlier, later, rfl, rfl⟩

/-- Putting the element found in its own place changes nothing. -/
theorem rewriteFirst_found
    {items : List α} {item : α}
    (found : findKey key wanted items = some item) :
    rewriteFirst key wanted item items = items := by
  obtain ⟨earlier, later, split, rewritten⟩ :=
    rewriteFirst_eq_append found item
  rw [rewritten, split]

/-- With distinct keys, rewriting the element found is the same as rewriting
every element with its key. -/
theorem rewriteFirst_eq_map
    {items : List α} {item : α} (rewrite : α → α)
    (distinct : (items.map key).Nodup)
    (found : findKey key wanted items = some item) :
    rewriteFirst key wanted (rewrite item) items =
      items.map fun item =>
        if key item = wanted then rewrite item else item := by
  induction items with
  | nil => cases found
  | cons head rest inductionHypothesis =>
      rw [List.map_cons, List.nodup_cons] at distinct
      unfold findKey at found
      rw [List.find?_cons] at found
      unfold rewriteFirst
      by_cases same : key head = wanted
      · simp only [same, decide_true, Option.some.injEq] at found
        have unchanged :
            rest.map (fun item =>
              if key item = wanted then rewrite item else item) =
              rest := by
          refine (List.map_congr_left ?_).trans (List.map_id rest)
          intro item member
          refine if_neg ?_
          intro keyed
          refine distinct.1 ?_
          rw [same, ← keyed]
          exact List.mem_map_of_mem member
        rw [if_pos same, List.map_cons, if_pos same, unchanged, found]
      · simp only [same, decide_false] at found
        rw [if_neg same, List.map_cons, if_neg same,
          inductionHypothesis distinct.2 found]

/-- An element found is still found when the list grows at its end. -/
theorem findKey_append
    {items : List α} {item : α} (more : List α)
    (found : findKey key wanted items = some item) :
    findKey key wanted (items ++ more) = some item := by
  unfold findKey at found ⊢
  rw [List.find?_append, found]
  rfl

/-- Rewriting under one key leaves what is found under another. -/
theorem findKey_rewriteFirst_of_ne
    {replacement : α} {other : κ}
    (keyed : key replacement = wanted) (different : wanted ≠ other)
    (items : List α) :
    findKey key other (rewriteFirst key wanted replacement items) =
      findKey key other items := by
  induction items with
  | nil => rfl
  | cons head rest inductionHypothesis =>
      unfold findKey at inductionHypothesis ⊢
      unfold rewriteFirst
      split
      next same =>
        simp [keyed, same, different]
      next => rw [List.find?_cons, List.find?_cons, inductionHypothesis]

/-- The replacement is found in the place of what was found. -/
theorem findKey_rewriteFirst_self
    {items : List α} {item replacement : α}
    (keyed : key replacement = wanted)
    (found : findKey key wanted items = some item) :
    findKey key wanted (rewriteFirst key wanted replacement items) =
      some replacement := by
  induction items with
  | nil => cases found
  | cons head rest inductionHypothesis =>
      unfold findKey at found inductionHypothesis ⊢
      unfold rewriteFirst
      split
      next => simp [keyed]
      next different =>
        simp only [List.find?_cons, different, decide_false] at found ⊢
        exact inductionHypothesis found

/-- The elements under another key stay, in their order. -/
theorem filter_rewriteFirst_of_ne
    {replacement : α} {other : κ}
    (keyed : key replacement = wanted) (different : other ≠ wanted)
    (items : List α) :
    (rewriteFirst key wanted replacement items).filter
        (fun item => key item = other) =
      items.filter fun item => key item = other := by
  induction items with
  | nil => rfl
  | cons head rest inductionHypothesis =>
      unfold rewriteFirst
      split
      next same => simp [keyed, same, different.symm]
      next => simp only [List.filter_cons, inductionHypothesis]

/-- The only element with a key is the one that is found. -/
theorem findKey_of_filter
    {items : List α} {item : α}
    (only : (items.filter fun item => key item = wanted) = [item]) :
    findKey key wanted items = some item := by
  unfold findKey
  rw [← List.head?_filter, only]
  rfl

/-- The replacement of the only element with a key is the only one. -/
theorem filter_rewriteFirst_self
    {items : List α} {item replacement : α}
    (keyed : key replacement = wanted)
    (only : (items.filter fun item => key item = wanted) = [item]) :
    ((rewriteFirst key wanted replacement items).filter
      fun item => key item = wanted) = [replacement] := by
  have found : findKey key wanted items = some item :=
    findKey_of_filter only
  obtain ⟨_, keyedItem⟩ := findKey_eq_some found
  obtain ⟨earlier, later, split, rewritten⟩ :=
    rewriteFirst_eq_append found replacement
  rw [split, List.filter_append,
    List.filter_cons_of_pos (by simpa using keyedItem)] at only
  rcases List.append_eq_singleton_iff.mp only with
    ⟨noneEarlier, ends⟩ | ⟨_, ends⟩
  · have noneLater := (List.cons.inj ends).2
    rw [rewritten, List.filter_append,
      List.filter_cons_of_pos (by simpa using keyed), noneEarlier,
      noneLater]
    rfl
  · cases ends

section Mapped

variable {γ : Type} {key' : γ → κ} {image : α → γ}

/-- A map that keeps the keys finds the image of what was found. -/
theorem findKey_map
    (keyed : ∀ item, key' (image item) = key item) (items : List α) :
    findKey key' wanted (items.map image) =
      (findKey key wanted items).map image := by
  unfold findKey
  rw [List.find?_map]
  simp only [Function.comp_def, keyed]

theorem rewriteFirst_map
    (keyed : ∀ item, key' (image item) = key item) (replacement : α)
    (items : List α) :
    rewriteFirst key' wanted (image replacement) (items.map image) =
      (rewriteFirst key wanted replacement items).map image := by
  induction items with
  | nil => rfl
  | cons head rest inductionHypothesis =>
      rw [List.map_cons]
      unfold rewriteFirst
      rw [keyed]
      by_cases same : key head = wanted
      · rw [if_pos same, if_pos same, List.map_cons]
      · rw [if_neg same, if_neg same, List.map_cons, inductionHypothesis]

end Mapped

section Related

variable {γ : Type} {key' : γ → κ} {relates : α → γ → Prop}

/-- In lists of related elements with the same keys, related elements are
found. -/
theorem findKey_of_forall₂
    (keyed : ∀ {item item'}, relates item item' → key item = key' item')
    {items : List α} {items' : List γ}
    (related : List.Forall₂ relates items items') :
    Option.Rel relates (findKey key wanted items)
      (findKey key' wanted items') := by
  induction related with
  | nil => exact .none
  | @cons head head' rest rest' first others inductionHypothesis =>
      unfold findKey at inductionHypothesis ⊢
      rw [List.find?_cons, List.find?_cons, ← keyed first]
      by_cases same : key head = wanted
      · simp only [same, decide_true]
        exact .some first
      · simp only [same, decide_false]
        exact inductionHypothesis

/-- Related replacements keep such lists related. -/
theorem forall₂_rewriteFirst
    (keyed : ∀ {item item'}, relates item item' → key item = key' item')
    {items : List α} {items' : List γ}
    (related : List.Forall₂ relates items items')
    {replacement : α} {replacement' : γ}
    (replaced : relates replacement replacement') :
    List.Forall₂ relates (rewriteFirst key wanted replacement items)
      (rewriteFirst key' wanted replacement' items') := by
  induction related with
  | nil => exact .nil
  | @cons head head' rest rest' first others inductionHypothesis =>
      unfold rewriteFirst
      rw [← keyed first]
      by_cases same : key head = wanted
      · rw [if_pos same, if_pos same]
        exact .cons replaced others
      · rw [if_neg same, if_neg same]
        exact .cons first inductionHypothesis

end Related

section ThroughFirst

variable {β : Type} {test : α → Bool}

/-- The elements up to the first that passes the test, with that one. -/
def throughFirst (test : α → Bool) : List α → List α
  | [] => []
  | item :: rest =>
      if test item then [item] else item :: throughFirst test rest

theorem throughFirst_append
    {earlier : List α} {item : α} (later : List α)
    (fail : ∀ other ∈ earlier, test other = false)
    (passes : test item = true) :
    throughFirst test (earlier ++ item :: later) = earlier ++ [item] := by
  induction earlier with
  | nil => simp [throughFirst, passes]
  | cons head rest inductionHypothesis =>
      have failHead : test head = false := fail head List.mem_cons_self
      have failRest : ∀ other ∈ rest, test other = false :=
        fun other member => fail other (List.mem_cons_of_mem _ member)
      rw [List.cons_append, throughFirst, failHead,
        if_neg Bool.false_ne_true, inductionHypothesis failRest,
        List.cons_append]

/-- A test of the images chooses the same elements. -/
theorem map_throughFirst
    (image : α → β) (test : β → Bool) (items : List α) :
    (throughFirst (fun item => test (image item)) items).map image =
      throughFirst test (items.map image) := by
  induction items with
  | nil => rfl
  | cons head rest inductionHypothesis =>
      rw [List.map_cons, throughFirst, throughFirst]
      split
      next => rfl
      next => rw [List.map_cons, inductionHypothesis]

end ThroughFirst

section FindSome

variable {β : Type} [DecidableEq α] {find find' : α → Option β}
  {items : List α} {item : α}

/-- A result in front of an element is the result. -/
theorem findSome?_of_takeWhile {result : β}
    (front :
      (items.takeWhile (· ≠ item)).findSome? find = some result) :
    items.findSome? find = some result := by
  rw [← List.takeWhile_append_dropWhile (p := (· ≠ item)) (l := items),
    List.findSome?_append, front]
  rfl

/-- An element that gets a result is the first one unless there is one in front
of it. -/
theorem findSome?_update {result : β}
    (others : ∀ other, other ≠ item → find' other = find other)
    (here : find' item = some result) (member : item ∈ items) :
    items.findSome? find' =
      ((items.takeWhile (· ≠ item)).findSome? find).or
        (some result) := by
  induction items with
  | nil => cases member
  | cons head rest inductionHypothesis =>
      by_cases same : head = item
      · subst same
        simp [here]
      · have inRest : item ∈ rest :=
          (List.mem_cons.mp member).resolve_left (Ne.symm same)
        rw [List.takeWhile_cons_of_pos (by simpa using same),
          List.findSome?_cons, List.findSome?_cons, others head same,
          inductionHypothesis inRest]
        cases find head <;> rfl

end FindSome

end List
