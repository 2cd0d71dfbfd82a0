import SafeRerun.Proofs.Pass.Settled
import SafeRerun.Proofs.Script.Choice
import SafeRerun.Proofs.Script.Quoted

/-
  The lines above a statement in which a guard counts for
  it.

  Key definitions include:
    * `SafeRerun.IsInReach`
    * `SafeRerun.slice?`
    * `SafeRerun.isGuardedByMachine`

  Key theorems include:
    * `SafeRerun.matches_guardPhrase_iff`
    * `SafeRerun.isGuarded_iff_isInReach`
    * `SafeRerun.isGuardedByMachine_eq`
    * `SafeRerun.lookback_is_exact`

  Both ends of the lookback are clamped: the first line to
  the beginning of the script, and both to its end.  What is
  left between them are the lines above the index that are
  no further away than the lookback, for every index and
  every lookback.
-/

------------------------------------------------------------
-- Guards on a Line
------------------------------------------------------------

namespace SafeRerun

/- The names on a line are those of its guards, in order. -/
theorem matches_guardPhrase_iff
    {line : Text}
    {found : List (List Text)} :
    guardPhrase.Matches line found ↔
      found = (guardedNames line).map fun name => [name] := by
  have hWays :=
    Phrase.read_eq_head?_ways guardPhrase_isDirect
  induction line using guardedNames.induct
    generalizing found with
  | case1 =>
      rw [guardedNames, List.map_nil]
      exact Phrase.matches_nil_iff rfl
  | case2 c rest names after hRead ih =>
      rcases exists_name_of_read_guardPhrase hRead with
        ⟨name, rfl, -, -⟩
      -- What is read is the first way to match here.
      have hFirst := (hWays (c :: rest)).symm.trans hRead
      rw [guardedNames_of_read hRead,
        Phrase.matches_of_ways_iff hFirst]
      simp [ih]
  | case3 c rest hNone ih =>
      rw [guardedNames_cons_of_read_eq_none hNone]
      rw [hWays, List.head?_eq_none_iff] at hNone
      exact (Phrase.matches_cons_iff hNone).trans ih

end SafeRerun

------------------------------------------------------------
-- Guards Within the Lookback
------------------------------------------------------------

namespace SafeRerun

variable {lookback index : Nat}
variable {lines : List Text}
variable {trigger : Text}

/-
  A line above the index and no further away than the
  lookback holds a guard whose name has the lower case form
  of the trigger.
-/
def IsInReach
    (lookback : Nat)
    (lines : List Text)
    (index : Nat)
    (trigger : Text) : Prop :=
  ∃ place line found name,
    lines[place]? = some line ∧
      place < index ∧ index - place ≤ lookback ∧
        guardPhrase.Matches line found ∧
          [name] ∈ found ∧
            name.lowercase = trigger.lowercase

/- A line counts if one of its guards does. -/
theorem guardsTrigger_iff_matches
    {line : Text} :
    guardsTrigger trigger line = true ↔
      ∃ found name,
        guardPhrase.Matches line found ∧
          [name] ∈ found ∧
            name.lowercase = trigger.lowercase := by
  simp [guardsTrigger, matches_guardPhrase_iff]

theorem isGuarded_iff_isInReach :
    isGuarded lookback lines index trigger = true ↔
      IsInReach lookback lines index trigger := by
  rw [isGuarded_iff]
  constructor
  · intro hExists
    rcases hExists with
      ⟨place, line, hAbove, hReach, hLine, hGuards⟩
    rcases guardsTrigger_iff_matches.mp hGuards with
      ⟨found, name, hMatches, hMem, hSame⟩
    exact ⟨place, line, found, name, hLine, hAbove,
      by omega, hMatches, hMem, hSame⟩
  · intro hExists
    rcases hExists with
      ⟨place, line, found, name, hLine, hAbove, hReach,
        hMatches, hMem, hSame⟩
    exact ⟨place, line, hAbove, by omega, hLine,
      guardsTrigger_iff_matches.mpr
        ⟨found, name, hMatches, hMem, hSame⟩⟩

end SafeRerun

------------------------------------------------------------
-- Slices in Machine Words
------------------------------------------------------------

namespace SafeRerun

/-
  The lines from one index up to another.  Nothing results
  when the indices are out of order or out of range.
-/
def slice?
    (lines : List Text)
    (first last : Nat) :
    Option (List Text) :=
  if first ≤ last ∧ last ≤ lines.length then
    some ((lines.take last).drop first)
  else
    none

/- The difference of two words, or zero. -/
def saturatedDifference
    (a b : UInt64) :
    UInt64 :=
  if a < b then 0 else a - b

theorem toNat_saturatedDifference
    (a b : UInt64) :
    (saturatedDifference a b).toNat =
      a.toNat - b.toNat := by
  unfold saturatedDifference
  split
  · rename_i hLess
    rw [UInt64.lt_iff_toNat_lt] at hLess
    rw [UInt64.toNat_zero]
    omega
  · rename_i hReach
    exact UInt64.toNat_sub_of_le a b
      (UInt64.not_lt.mp hReach)

/-
  Whether a guard for the trigger stands above the index,
  with every index and bound in a machine word.
-/
def isGuardedByMachine
    (lookback : UInt64)
    (lines : List Text)
    (index : UInt64)
    (trigger : Text) :
    Option Bool :=
  let last := min index (UInt64.ofNat lines.length)
  let first :=
    min (saturatedDifference index lookback) last
  (slice? lines first.toNat last.toNat).map fun above =>
    above.any (guardsTrigger trigger)

/- Clamped indices are in order and in range. -/
theorem slice?_clamped
    (lookback : Nat)
    (lines : List Text)
    (index : Nat) :
    slice? lines
        (min (index - lookback) (min index lines.length))
        (min index lines.length) =
      some (linesAbove lookback lines index) := by
  unfold slice? linesAbove
  rw [if_pos ⟨by omega, by omega⟩]
  rcases Nat.le_total index lines.length with
    hInside | hPast
  · rw [Nat.min_eq_left hInside,
      Nat.min_eq_left (by omega)]
  · -- From the clamped index on there are no lines.
    rw [Nat.min_eq_right hPast,
      List.take_of_length_le hPast, List.take_length]
    rcases Nat.le_total (index - lookback) lines.length
      with hNear | hFar
    · rw [Nat.min_eq_left hNear]
    · rw [Nat.min_eq_right hFar,
        List.drop_of_length_le hFar, List.drop_length]

/-
  In machine words the slice is never out of range, and the
  same guards are found.
-/
theorem isGuardedByMachine_eq
    {lines : List Text}
    (hFits : lines.length < UInt64.size)
    (lookback index : UInt64)
    (trigger : Text) :
    isGuardedByMachine lookback lines index trigger =
      some (isGuarded lookback.toNat lines index.toNat
        trigger) := by
  have hLength :
      (UInt64.ofNat lines.length).toNat = lines.length :=
    UInt64.toNat_ofNat_of_lt' hFits
  simp only [isGuardedByMachine, UInt64.toNat_min,
    toNat_saturatedDifference, hLength, slice?_clamped,
    Option.map_some, isGuarded]

end SafeRerun

------------------------------------------------------------
-- The Window of the Lookback
------------------------------------------------------------

namespace SafeRerun

/- A guard is inserted where none is within reach. -/
theorem insertsAt_iff_not_isInReach
    {bounds : Bounds}
    {lines : List Text}
    {index : Nat}
    {declaration : Declaration}
    (hRead :
      readAt bounds.lookahead lines index =
        .declared declaration) :
    insertsAt (steps bounds lines) index = true ↔
      ¬ IsInReach bounds.lookback lines index
        declaration.trigger := by
  rw [insertsAt_steps_iff, ← isGuarded_iff_isInReach,
    Bool.not_eq_true, hRead]
  simp

/-
  The lookback is exact.  A guard counts for a trigger when
  it is found on one of the lines above the index that are
  no further away than the lookback; the slice of machine
  words that is searched is never out of range and gives the
  same answer; and a pass inserts a guard for a declaration
  exactly where none of the lines before the pass counts.
-/
theorem lookback_is_exact
    (lines : List Text) :
    (∀ lookback index trigger,
      isGuarded lookback lines index trigger = true ↔
        IsInReach lookback lines index trigger) ∧
      (lines.length < UInt64.size →
        ∀ (lookback index : UInt64) (trigger : Text),
          isGuardedByMachine lookback lines index trigger =
            some (isGuarded lookback.toNat lines
              index.toNat trigger)) ∧
      ∀ bounds index declaration,
        readAt bounds.lookahead lines index =
            .declared declaration →
          (insertsAt (steps bounds lines) index = true ↔
            ¬ IsInReach bounds.lookback lines index
              declaration.trigger) :=
  ⟨fun _ _ _ => isGuarded_iff_isInReach,
    isGuardedByMachine_eq,
    fun _ _ _ hRead => insertsAt_iff_not_isInReach hRead⟩

/-
  The largest lookback at the largest index, and the second
  of two equal statements, for which the guard of the first
  does not count.
-/
theorem lookback_is_exact_largest :
    isGuardedByMachine (UInt64.ofNat (UInt64.size - 1))
        [Text.ofString "drop trigger if exists audit\n"]
        (UInt64.ofNat (UInt64.size - 1))
        (Text.ofString "AUDIT") =
      some true ∧
    let lines :=
      [Text.ofString "CREATE TRIGGER audit ON t;\n",
        Text.ofString "CREATE TRIGGER audit ON t;\n"]
    insertsAt (steps ⟨2, 2⟩ lines) 0 = true ∧
      insertsAt (steps ⟨2, 2⟩ lines) 1 = true := by
  refine ⟨?_, ?_⟩
  · rw [(lookback_is_exact _).2.1 (by decide)]
    decide +kernel
  · intro lines
    have hRead :
        ∀ index < 2,
          readAt 2 lines index =
            .declared ⟨Text.ofString "audit",
              Text.ofString "t"⟩ := by
      decide +kernel
    have hNone :
        ∀ index < 2,
          isGuarded 2 lines index
            (Text.ofString "audit") = false := by
      decide +kernel
    have hInserts :
        ∀ index < 2,
          insertsAt (steps ⟨2, 2⟩ lines) index = true := by
      intro index hIndex
      refine ((lookback_is_exact lines).2.2 ⟨2, 2⟩ index _
        (hRead index hIndex)).mpr ?_
      rw [← (lookback_is_exact lines).1,
        hNone index hIndex]
      simp
    exact ⟨hInserts 0 (by decide), hInserts 1 (by decide)⟩

end SafeRerun
