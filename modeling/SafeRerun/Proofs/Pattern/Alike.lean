import Mathlib.Data.List.Forall2
import SafeRerun.Pattern.Search

/-
  Lists of findings that are alike.

  Key definitions include:
    * `SafeRerun.Alike`

  Key theorems include:
    * `SafeRerun.Alike.append`
    * `SafeRerun.Alike.goOn`
    * `SafeRerun.Alike.forall₂_filter`

  Two searches come upon the same, but for what lies too far
  for one of them and for directories that it cannot list.
  Leaving these out, the findings of both are paired in order.
-/

------------------------------------------------------------
-- Alike Findings
------------------------------------------------------------

namespace SafeRerun

/-
  The findings are paired in order, leaving out faults and
  what is far.
-/
inductive Alike
    {α : Type}
    (paired : α → α → Prop)
    (far otherFar : α → Prop) :
    List (Finding α) → List (Finding α) → Prop where
  | nil :
      Alike paired far otherFar [] []
  | pair
      {a b : α}
      {found others : List (Finding α)}
      (hPaired : paired a b)
      (hRest : Alike paired far otherFar found others) :
      Alike paired far otherFar (.ok a :: found)
        (.ok b :: others)
  | far
      {a : α}
      {found others : List (Finding α)}
      (hFar : far a)
      (hRest : Alike paired far otherFar found others) :
      Alike paired far otherFar (.ok a :: found) others
  | otherFar
      {b : α}
      {found others : List (Finding α)}
      (hFar : otherFar b)
      (hRest : Alike paired far otherFar found others) :
      Alike paired far otherFar found (.ok b :: others)
  | fault
      {cause : ListingFault}
      {found others : List (Finding α)}
      (hRest : Alike paired far otherFar found others) :
      Alike paired far otherFar (.error cause :: found) others
  | otherFault
      {cause : ListingFault}
      {found others : List (Finding α)}
      (hRest : Alike paired far otherFar found others) :
      Alike paired far otherFar found (.error cause :: others)

namespace Alike

variable {α β : Type}
variable {paired : α → α → Prop}
variable {far otherFar : α → Prop}
variable {found others more otherMore : List (Finding α)}

theorem append
    (hFirst : Alike paired far otherFar found others)
    (hMore : Alike paired far otherFar more otherMore) :
    Alike paired far otherFar (found ++ more)
      (others ++ otherMore) := by
  induction hFirst with
  | nil =>
      exact hMore
  | pair hPaired _ ih =>
      exact .pair hPaired ih
  | far hFar _ ih =>
      exact .far hFar ih
  | otherFar hFar _ ih =>
      exact .otherFar hFar ih
  | fault _ ih =>
      exact .fault ih
  | otherFault _ ih =>
      exact .otherFault ih

/- What is far on one side has no counterpart. -/
theorem of_far_left
    (hFar : ∀ a, .ok a ∈ found → far a) :
    Alike paired far otherFar found [] := by
  induction found with
  | nil =>
      exact .nil
  | cons finding rest ih =>
      have hRest :=
        ih fun a hMem => hFar a (List.mem_cons_of_mem _ hMem)
      cases finding with
      | error cause =>
          exact .fault hRest
      | ok a =>
          exact .far (hFar a (by simp)) hRest

theorem of_far_right
    (hOther : ∀ b, .ok b ∈ others → otherFar b) :
    Alike paired far otherFar [] others := by
  induction others with
  | nil =>
      exact .nil
  | cons finding rest ih =>
      have hRest :=
        ih fun b hMem => hOther b (List.mem_cons_of_mem _ hMem)
      cases finding with
      | error cause =>
          exact .otherFault hRest
      | ok b =>
          exact .otherFar (hOther b (by simp)) hRest

/- What is far on both sides is alike. -/
theorem of_far
    (hFar : ∀ a, .ok a ∈ found → far a)
    (hOther : ∀ b, .ok b ∈ others → otherFar b) :
    Alike paired far otherFar found others := by
  have hLeft : Alike paired far otherFar found [] :=
    of_far_left hFar
  have hBoth := hLeft.append (of_far_right hOther)
  rw [List.append_nil] at hBoth
  exact hBoth

/- What is alike for each name is alike for all of them. -/
theorem flatMap
    {γ : Type}
    {names : List γ}
    {f g : γ → List (Finding α)}
    (hEach :
      ∀ name ∈ names,
        Alike paired far otherFar (f name) (g name)) :
    Alike paired far otherFar (names.flatMap f)
      (names.flatMap g) := by
  induction names with
  | nil =>
      exact .nil
  | cons name rest ih =>
      rw [List.flatMap_cons, List.flatMap_cons]
      exact (hEach name (by simp)).append
        (ih fun other hMem =>
          hEach other (List.mem_cons_of_mem _ hMem))

theorem map
    {γ : Type}
    {names : List γ}
    {f g : γ → α}
    (hEach :
      ∀ name ∈ names,
        Alike paired far otherFar [.ok (f name)]
          [.ok (g name)]) :
    Alike paired far otherFar
      (names.map fun name => .ok (f name))
      (names.map fun name => .ok (g name)) := by
  rw [List.map_eq_flatMap, List.map_eq_flatMap]
  exact flatMap hEach

/- Going on from what is alike. -/
theorem goOn
    {nextPaired : β → β → Prop}
    {nextFar nextOtherFar : β → Prop}
    {first firstOther : List (Finding Reached)}
    {reachedPaired : Reached → Reached → Prop}
    {reachedFar reachedOtherFar : Reached → Prop}
    {next nextOther : Reached → List (Finding β)}
    (hFirst :
      Alike reachedPaired reachedFar reachedOtherFar first
        firstOther)
    (hPaired :
      ∀ a b,
        reachedPaired a b →
          Alike nextPaired nextFar nextOtherFar (next a)
            (nextOther b))
    (hFar :
      ∀ a c, reachedFar a → .ok c ∈ next a → nextFar c)
    (hOtherFar :
      ∀ b c,
        reachedOtherFar b →
          .ok c ∈ nextOther b → nextOtherFar c) :
    Alike nextPaired nextFar nextOtherFar
      (SafeRerun.goOn next first)
      (SafeRerun.goOn nextOther firstOther) := by
  unfold SafeRerun.goOn
  induction hFirst with
  | nil =>
      exact .nil
  | pair hBoth _ ih =>
      exact (hPaired _ _ hBoth).append ih
  | @far a _ _ hAway _ ih =>
      exact (of_far_left fun c => hFar a c hAway).append ih
  | @otherFar b _ _ hAway _ ih =>
      exact (of_far_right fun c => hOtherFar b c hAway).append
        ih
  | fault _ ih =>
      exact .fault ih
  | otherFault _ ih =>
      exact .otherFault ih

/- Without faults the near ones are paired one by one. -/
theorem forall₂_filter
    {p q : α → Bool}
    {found others : List α}
    (hAlike :
      Alike paired far otherFar (found.map .ok)
        (others.map .ok))
    (hBoth : ∀ a b, paired a b → p a = q b)
    (hFar : ∀ a ∈ found, far a → p a = false)
    (hOther : ∀ b ∈ others, otherFar b → q b = false) :
    List.Forall₂
      (fun a b => paired a b ∧ p a = true ∧ q b = true)
      (found.filter p) (others.filter q) := by
  generalize hFound : found.map Except.ok = all at hAlike
  generalize hOthers : others.map Except.ok = otherAll at hAlike
  induction hAlike generalizing found others with
  | nil =>
      rw [List.map_eq_nil_iff] at hFound hOthers
      rw [hFound, hOthers]
      exact .nil
  | pair hPaired _ ih =>
      rcases List.map_eq_cons_iff.mp hFound with
        ⟨a, rest, rfl, hA, hRest⟩
      rcases List.map_eq_cons_iff.mp hOthers with
        ⟨b, otherRest, rfl, hB, hOtherRest⟩
      rw [Except.ok.injEq] at hA hB
      subst hA hB
      have hMore :=
        ih (fun c hMem => hFar c (by simp [hMem]))
          (fun c hMem => hOther c (by simp [hMem]))
          hRest hOtherRest
      have hSame := hBoth a b hPaired
      rw [List.filter_cons, List.filter_cons, hSame]
      split
      · rename_i hKept
        exact .cons ⟨hPaired, hSame.trans hKept, hKept⟩ hMore
      · exact hMore
  | far hAway _ ih =>
      rcases List.map_eq_cons_iff.mp hFound with
        ⟨a, rest, rfl, hA, hRest⟩
      rw [Except.ok.injEq] at hA
      subst hA
      rw [List.filter_cons_of_neg
        (by simp [hFar a (by simp) hAway])]
      exact ih (fun c hMem => hFar c (by simp [hMem])) hOther
        hRest hOthers
  | otherFar hAway _ ih =>
      rcases List.map_eq_cons_iff.mp hOthers with
        ⟨b, rest, rfl, hB, hRest⟩
      rw [Except.ok.injEq] at hB
      subst hB
      rw [List.filter_cons_of_neg
        (by simp [hOther b (by simp) hAway])]
      exact ih hFar (fun c hMem => hOther c (by simp [hMem]))
        hFound hRest
  | fault _ _ =>
      rcases List.map_eq_cons_iff.mp hFound with
        ⟨a, rest, -, hA, -⟩
      contradiction
  | otherFault _ _ =>
      rcases List.map_eq_cons_iff.mp hOthers with
        ⟨b, rest, -, hB, -⟩
      contradiction

end Alike

end SafeRerun
