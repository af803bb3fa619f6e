import Mathlib.Data.List.Basic

/-!
# Replacing marked runs

A marked run is a fixed mark followed by one or more members of a class.  Scanning
a list from the left, each run that starts is replaced, as long as it gets, by a
fixed cover, and every other element is kept.  The mark consists of members and its
first element occurs in it once; the cover starts and ends outside the class and
does not hold that first element.
-/

namespace Runs

/-- A mark, the class of the elements that may follow it, and the cover. -/
structure Pattern (α : Type) where
  first : α
  others : List α
  member : α → Bool
  opening : α
  inner : List α
  closing : α
  first_notMem : first ∉ others
  mark_member : ∀ item ∈ first :: others, member item = true
  opening_not_member : member opening = false
  closing_not_member : member closing = false
  first_notMem_inner : first ∉ inner

namespace Pattern

variable {α : Type} (pattern : Pattern α)

def mark : List α :=
  pattern.first :: pattern.others

def cover : List α :=
  pattern.opening :: (pattern.inner ++ [pattern.closing])

/-- A marked run starts the list. -/
def Starts (items : List α) : Prop :=
  ∃ next after, items = pattern.mark ++ next :: after ∧
    pattern.member next = true

/-- A marked run starts somewhere in the list. -/
def Occurs (items : List α) : Prop :=
  ∃ before rest, items = before ++ rest ∧ pattern.Starts rest

/-- The list with its marked runs covered: an element is kept where no run
starts, and a run that starts is covered up to the first element that is no
member. -/
inductive Covered : List α → List α → Prop
  | nil : Covered [] []
  | keep {item : α} {rest out : List α} :
      ¬pattern.Starts (item :: rest) → Covered rest out →
        Covered (item :: rest) (item :: out)
  | run {run rest out : List α} :
      run ≠ [] → (∀ item ∈ run, pattern.member item = true) →
        (∀ item ∈ rest.head?, pattern.member item = false) →
        Covered rest out →
        Covered (pattern.mark ++ run ++ rest) (pattern.cover ++ out)

variable {pattern}

section Occurrences

theorem not_occurs_nil : ¬pattern.Occurs [] := by
  rintro ⟨before, rest, same, next, after, starts, _⟩
  obtain ⟨_, restNil⟩ := List.append_eq_nil_iff.mp same.symm
  rw [restNil] at starts
  simp [mark] at starts

theorem occurs_cons_iff {item : α} {rest : List α} :
    pattern.Occurs (item :: rest) ↔
      pattern.Starts (item :: rest) ∨ pattern.Occurs rest := by
  constructor
  · rintro ⟨before, found, same, starts⟩
    cases before with
    | nil =>
        left
        rw [same]
        exact starts
    | cons first before =>
        right
        rw [List.cons_append] at same
        injection same with _ sameRest
        exact ⟨before, found, sameRest, starts⟩
  · rintro (starts | ⟨before, found, same, starts⟩)
    · exact ⟨[], item :: rest, rfl, starts⟩
    · exact ⟨item :: before, found, by rw [same, List.cons_append], starts⟩

theorem not_starts_of_ne
    {item : α} {rest : List α} (different : item ≠ pattern.first) :
    ¬pattern.Starts (item :: rest) := by
  rintro ⟨next, after, same, _⟩
  unfold mark at same
  rw [List.cons_append] at same
  injection same with sameFirst _
  exact different sameFirst

theorem ne_first_of_not_member
    {item : α} (outside : pattern.member item = false) :
    item ≠ pattern.first := by
  intro same
  have inside := pattern.mark_member pattern.first List.mem_cons_self
  rw [← same, outside] at inside
  cases inside

/-- A list of members in front of `left ++ item :: right` is in front of `left`
when `item` is no member. -/
theorem front_of_front_append_cons
    {members left right : List α} {item : α}
    (all : ∀ member ∈ members, pattern.member member = true)
    (outside : pattern.member item = false)
    (front : members <+: left ++ item :: right) :
    members <+: left := by
  induction left generalizing members with
  | nil =>
      cases members with
      | nil => exact List.nil_prefix
      | cons member members =>
          rw [List.nil_append, List.cons_prefix_cons] at front
          have inside := all member List.mem_cons_self
          rw [front.1, outside] at inside
          cases inside
  | cons first left inductionHypothesis =>
      cases members with
      | nil => exact List.nil_prefix
      | cons member members =>
          rw [List.cons_append, List.cons_prefix_cons] at front
          rw [List.cons_prefix_cons]
          refine ⟨front.1, inductionHypothesis ?_ front.2⟩
          intro other isMember
          exact all other (List.mem_cons_of_mem _ isMember)

/-- A run starts a list exactly if some mark and member are in front of it. -/
theorem starts_iff_front {items : List α} :
    pattern.Starts items ↔
      ∃ next, pattern.member next = true ∧
        pattern.mark ++ [next] <+: items := by
  constructor
  · rintro ⟨next, after, rfl, inside⟩
    exact ⟨next, inside, after, by simp⟩
  · rintro ⟨next, inside, after, rfl⟩
    exact ⟨next, after, by simp, inside⟩

theorem mark_append_member
    {next : α} (inside : pattern.member next = true) :
    ∀ item ∈ pattern.mark ++ [next], pattern.member item = true := by
  intro item isMember
  rcases List.mem_append.mp isMember with inMark | isNext
  · exact pattern.mark_member item inMark
  · rw [List.mem_singleton.mp isNext]
    exact inside

theorem starts_append_cons_iff
    {left right : List α} {item : α}
    (outside : pattern.member item = false) :
    pattern.Starts (left ++ item :: right) ↔ pattern.Starts left := by
  rw [starts_iff_front, starts_iff_front]
  constructor
  · rintro ⟨next, inside, front⟩
    exact ⟨next, inside, front_of_front_append_cons
      (mark_append_member inside) outside front⟩
  · rintro ⟨next, inside, front⟩
    exact ⟨next, inside, front.trans (List.prefix_append _ _)⟩

/-- No run reaches across an element that is no member. -/
theorem occurs_append_cons_iff
    {left right : List α} {item : α}
    (outside : pattern.member item = false) :
    pattern.Occurs (left ++ item :: right) ↔
      pattern.Occurs left ∨ pattern.Occurs right := by
  induction left with
  | nil =>
      have notStarts : ¬pattern.Starts (item :: right) :=
        not_starts_of_ne (ne_first_of_not_member outside)
      rw [List.nil_append, occurs_cons_iff]
      simp [notStarts, not_occurs_nil]
  | cons first left inductionHypothesis =>
      have startsSame :
          pattern.Starts (first :: (left ++ item :: right)) ↔
            pattern.Starts (first :: left) :=
        @starts_append_cons_iff _ pattern (first :: left) right item outside
      rw [List.cons_append, occurs_cons_iff, occurs_cons_iff, startsSame,
        inductionHypothesis, or_assoc]

theorem occurs_cons_iff_of_outside
    {item : α} {rest : List α} (outside : pattern.member item = false) :
    pattern.Occurs (item :: rest) ↔ pattern.Occurs rest := by
  rw [occurs_cons_iff,
    or_iff_right (not_starts_of_ne (ne_first_of_not_member outside))]

/-- No run reaches into a list that starts outside the class. -/
theorem occurs_append_iff_of_ends
    {left right : List α}
    (ends : ∀ item ∈ right.head?, pattern.member item = false) :
    pattern.Occurs (left ++ right) ↔
      pattern.Occurs left ∨ pattern.Occurs right := by
  cases right with
  | nil =>
      rw [List.append_nil]
      simp [not_occurs_nil]
  | cons item right =>
      have outside := ends item rfl
      rw [occurs_append_cons_iff outside, occurs_cons_iff_of_outside outside]

/-- Nor out of a list that ends outside the class. -/
theorem occurs_append_iff_of_last
    {left right : List α}
    (last : ∀ item ∈ left.getLast?, pattern.member item = false) :
    pattern.Occurs (left ++ right) ↔
      pattern.Occurs left ∨ pattern.Occurs right := by
  rcases List.eq_nil_or_concat left with rfl | ⟨front, item, rfl⟩
  · simp [not_occurs_nil]
  · have outside : pattern.member item = false := by
      apply last
      simp
    rw [List.concat_eq_append, List.append_assoc, List.singleton_append,
      occurs_append_cons_iff outside, occurs_append_cons_iff outside]
    simp [not_occurs_nil]

theorem occurs_append_iff_of_notMem
    {left right : List α} (absent : pattern.first ∉ left) :
    pattern.Occurs (left ++ right) ↔ pattern.Occurs right := by
  induction left with
  | nil => rfl
  | cons item left inductionHypothesis =>
      have different : pattern.first ≠ item :=
        List.ne_of_not_mem_cons absent
      have absentRest : pattern.first ∉ left :=
        List.not_mem_of_not_mem_cons absent
      have notStarts : ¬pattern.Starts (item :: (left ++ right)) :=
        not_starts_of_ne (Ne.symm different)
      rw [List.cons_append, occurs_cons_iff, inductionHypothesis absentRest]
      simp [notStarts]

theorem not_occurs_of_notMem
    {items : List α} (absent : pattern.first ∉ items) :
    ¬pattern.Occurs items := by
  have only := @occurs_append_iff_of_notMem _ pattern items [] absent
  rw [List.append_nil] at only
  rw [only]
  exact not_occurs_nil

theorem starts_iff_drop {items : List α} :
    pattern.Starts items ↔
      pattern.mark <+: items ∧
        (items.drop pattern.mark.length).head?.any pattern.member = true := by
  constructor
  · rintro ⟨next, after, rfl, inside⟩
    refine ⟨List.prefix_append _ _, ?_⟩
    rw [List.drop_left]
    simpa using inside
  · rintro ⟨⟨rest, rfl⟩, inside⟩
    rw [List.drop_left] at inside
    cases rest with
    | nil => cases inside
    | cons next after => exact ⟨next, after, rfl, by simpa using inside⟩

instance [DecidableEq α] (items : List α) : Decidable (pattern.Starts items) :=
  decidable_of_iff _ starts_iff_drop.symm

instance decidableOccurs [DecidableEq α] : DecidablePred pattern.Occurs
  | [] => isFalse not_occurs_nil
  | _ :: rest =>
      have : Decidable (pattern.Occurs rest) := decidableOccurs rest
      decidable_of_iff _ occurs_cons_iff.symm

theorem first_notMem_cover : pattern.first ∉ pattern.cover := by
  have notOpening : pattern.first ≠ pattern.opening :=
    (ne_first_of_not_member pattern.opening_not_member).symm
  have notClosing : pattern.first ≠ pattern.closing :=
    (ne_first_of_not_member pattern.closing_not_member).symm
  simp [cover, notOpening, notClosing, pattern.first_notMem_inner]

end Occurrences

namespace Covered

/-- Members in front of the covered list are in front of the list: a cover starts
outside the class. -/
theorem front
    {items out members : List α} (covered : pattern.Covered items out)
    (all : ∀ member ∈ members, pattern.member member = true)
    (inFront : members <+: out) :
    members <+: items := by
  induction covered generalizing members with
  | nil => exact inFront
  | keep _ _ inductionHypothesis =>
      cases members with
      | nil => exact List.nil_prefix
      | cons member members =>
          rw [List.cons_prefix_cons] at inFront ⊢
          refine ⟨inFront.1, inductionHypothesis ?_ inFront.2⟩
          intro other isMember
          exact all other (List.mem_cons_of_mem _ isMember)
  | run _ _ _ _ _ =>
      cases members with
      | nil => exact List.nil_prefix
      | cons member members =>
          unfold cover at inFront
          rw [List.cons_append, List.cons_prefix_cons] at inFront
          have inside := all member List.mem_cons_self
          rw [inFront.1, pattern.opening_not_member] at inside
          cases inside

/-- No marked run is left. -/
theorem clean
    {items out : List α} (covered : pattern.Covered items out) :
    ¬pattern.Occurs out := by
  induction covered with
  | nil => exact not_occurs_nil
  | @keep item rest out notStarts rest' inductionHypothesis =>
      rw [occurs_cons_iff]
      rintro (starts | occurs)
      · -- The run would be there before the covering too.
        obtain ⟨next, inside, inFront⟩ := starts_iff_front.mp starts
        have covered : pattern.Covered (item :: rest) (item :: out) :=
          .keep notStarts rest'
        exact notStarts (starts_iff_front.mpr
          ⟨next, inside, covered.front (mark_append_member inside) inFront⟩)
      · exact inductionHypothesis occurs
  | run _ _ _ _ inductionHypothesis =>
      rw [occurs_append_iff_of_notMem first_notMem_cover]
      exact inductionHypothesis

theorem of_clean
    {items : List α} (clean : ¬pattern.Occurs items) :
    pattern.Covered items items := by
  induction items with
  | nil => exact .nil
  | cons item rest inductionHypothesis =>
      rw [occurs_cons_iff, not_or] at clean
      exact .keep clean.1 (inductionHypothesis clean.2)

theorem append_of_notMem
    {left items out : List α} (absent : pattern.first ∉ left)
    (covered : pattern.Covered items out) :
    pattern.Covered (left ++ items) (left ++ out) := by
  induction left with
  | nil => exact covered
  | cons item left inductionHypothesis =>
      have different : pattern.first ≠ item :=
        List.ne_of_not_mem_cons absent
      have absentRest : pattern.first ∉ left :=
        List.not_mem_of_not_mem_cons absent
      exact .keep (not_starts_of_ne (Ne.symm different))
        (inductionHypothesis absentRest)

/-- What stands before the first run is kept. -/
theorem append_of_not_starts
    {before items out : List α}
    (notStarts :
      ∀ left right, before = left ++ right → right ≠ [] →
        ¬pattern.Starts (right ++ items))
    (covered : pattern.Covered items out) :
    pattern.Covered (before ++ items) (before ++ out) := by
  induction before with
  | nil => exact covered
  | cons item before inductionHypothesis =>
      refine .keep (notStarts [] (item :: before) rfl (by simp)) ?_
      apply inductionHypothesis
      intro left right same nonempty
      exact notStarts (item :: left) right (by rw [same]; rfl) nonempty

/-- A mark that no member follows is kept. -/
theorem bare_mark
    {rest out : List α}
    (ends : ∀ item ∈ rest.head?, pattern.member item = false)
    (covered : pattern.Covered rest out) :
    pattern.Covered (pattern.mark ++ rest) (pattern.mark ++ out) := by
  refine .keep ?_ (covered.append_of_notMem pattern.first_notMem)
  change ¬pattern.Starts (pattern.mark ++ rest)
  rintro ⟨next, after, same, inside⟩
  have sameRest : rest = next :: after := List.append_cancel_left same
  rw [ends next (by rw [sameRest]; rfl)] at inside
  cases inside

/-- Covering goes on its own on both sides of an element that is no member. -/
theorem append_cons
    {left leftOut right rightOut : List α} {item : α}
    (outside : pattern.member item = false)
    (coveredLeft : pattern.Covered left leftOut)
    (coveredRight : pattern.Covered right rightOut) :
    pattern.Covered (left ++ item :: right) (leftOut ++ item :: rightOut) := by
  induction coveredLeft with
  | nil =>
      exact .keep (not_starts_of_ne (ne_first_of_not_member outside))
        coveredRight
  | @keep first rest _ notStarts _ inductionHypothesis =>
      have startsSame :
          pattern.Starts (first :: (rest ++ item :: right)) ↔
            pattern.Starts (first :: rest) :=
        @starts_append_cons_iff _ pattern (first :: rest) right item outside
      exact .keep (mt startsSame.mp notStarts) inductionHypothesis
  | @run run rest _ nonempty all ends _ inductionHypothesis =>
      rw [List.append_assoc, List.append_assoc pattern.cover]
      refine .run nonempty all ?_ inductionHypothesis
      cases rest with
      | nil =>
          intro next isNext
          cases isNext
          exact outside
      | cons first rest => exact ends

theorem cons_outside
    {items out : List α} {item : α} (outside : pattern.member item = false)
    (covered : pattern.Covered items out) :
    pattern.Covered (item :: items) (item :: out) :=
  append_cons outside .nil covered

/-- Covering goes on its own in two lists when the second one starts outside the
class. -/
theorem append_of_ends
    {left leftOut right rightOut : List α}
    (ends : ∀ item ∈ right.head?, pattern.member item = false)
    (coveredLeft : pattern.Covered left leftOut)
    (coveredRight : pattern.Covered right rightOut) :
    pattern.Covered (left ++ right) (leftOut ++ rightOut) := by
  cases coveredRight with
  | nil =>
      rw [List.append_nil, List.append_nil]
      exact coveredLeft
  | keep _ coveredRest =>
      exact append_cons (ends _ rfl) coveredLeft coveredRest
  | run _ _ _ _ =>
      have inside := pattern.mark_member pattern.first List.mem_cons_self
      rw [ends pattern.first rfl] at inside
      cases inside

/-- The run in front of an element that is no member is the longest one. -/
theorem run_unique
    {run rest otherRun otherRest : List α}
    (same : run ++ rest = otherRun ++ otherRest)
    (all : ∀ item ∈ run, pattern.member item = true)
    (ends : ∀ item ∈ rest.head?, pattern.member item = false)
    (otherAll : ∀ item ∈ otherRun, pattern.member item = true)
    (otherEnds : ∀ item ∈ otherRest.head?, pattern.member item = false) :
    run = otherRun ∧ rest = otherRest := by
  induction run generalizing otherRun with
  | nil =>
      cases otherRun with
      | nil => exact ⟨rfl, same⟩
      | cons item otherRun =>
          have inside := otherAll item List.mem_cons_self
          rw [ends item (by rw [← List.nil_append rest, same]; rfl)] at inside
          cases inside
  | cons item run inductionHypothesis =>
      cases otherRun with
      | nil =>
          have inside := all item List.mem_cons_self
          rw [otherEnds item (by rw [← List.nil_append otherRest, ← same]; rfl)]
            at inside
          cases inside
      | cons otherItem otherRun =>
          rw [List.cons_append, List.cons_append] at same
          injection same with sameItem sameRest
          obtain ⟨sameRun, sameAfter⟩ := inductionHypothesis sameRest
            (fun next isNext => all next (List.mem_cons_of_mem _ isNext))
            (fun next isNext => otherAll next (List.mem_cons_of_mem _ isNext))
          exact ⟨by rw [sameItem, sameRun], sameAfter⟩

theorem starts_of_run
    {run rest : List α} (nonempty : run ≠ [])
    (all : ∀ item ∈ run, pattern.member item = true) :
    pattern.Starts (pattern.mark ++ run ++ rest) := by
  cases run with
  | nil => exact absurd rfl nonempty
  | cons next run =>
      exact ⟨next, run ++ rest, by simp, all next List.mem_cons_self⟩

/-- A list is covered in one way only. -/
theorem unique
    {items out otherOut : List α} (covered : pattern.Covered items out)
    (other : pattern.Covered items otherOut) :
    otherOut = out := by
  induction covered generalizing otherOut with
  | nil =>
      generalize isNil : ([] : List α) = items at other
      cases other with
      | nil => rfl
      | keep => cases isNil
      | run => simp [mark] at isNil
  | @keep item rest out notStarts _ inductionHypothesis =>
      generalize isCons : item :: rest = items at other
      cases other with
      | nil => cases isCons
      | keep _ otherRest =>
          cases isCons
          rw [inductionHypothesis otherRest]
      | run nonempty all _ _ =>
          rw [isCons] at notStarts
          exact absurd (starts_of_run nonempty all) notStarts
  | @run run rest out nonempty all ends _ inductionHypothesis =>
      generalize isRun : pattern.mark ++ run ++ rest = items at other
      cases other with
      | nil => simp [mark] at isRun
      | keep notStarts _ =>
          rw [← isRun] at notStarts
          exact absurd (starts_of_run nonempty all) notStarts
      | run _ otherAll otherEnds otherRest =>
          rw [List.append_assoc, List.append_assoc] at isRun
          obtain ⟨_, sameRest⟩ := run_unique (List.append_cancel_left isRun)
            all ends otherAll otherEnds
          rw [← sameRest] at otherRest
          rw [inductionHypothesis otherRest]

end Covered

end Pattern

end Runs
