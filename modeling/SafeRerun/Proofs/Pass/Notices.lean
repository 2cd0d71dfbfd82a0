import SafeRerun.Proofs.Pass.Gathering

/-
  What a pass tells of the statements that it leaves alone.

  Key definitions include:
    * `SafeRerun.skippedLines`
    * `SafeRerun.IsLost`
    * `SafeRerun.IsQuoted`
    * `SafeRerun.IsNoticeOf`

  Key theorems include:
    * `SafeRerun.gather_eq_none_iff`
    * `SafeRerun.passNotices_eq`
    * `SafeRerun.notices_follow_skipped`

  Gathering gives up only where the lookahead ends before
  the script does.  In every other case there is a text, up
  to the first clause that names a table or up to the end of
  the script, and a statement that declares nothing in spite
  of it is quoted with this text.
-/

------------------------------------------------------------
-- Gathered and Given Up
------------------------------------------------------------

namespace SafeRerun

variable {lookahead : Nat}
variable {statement text : Text}
variable {below : List Text}

/-
  Gathering gives up when all lines that may be looked at
  name no table and there are more.
-/
theorem gather_eq_none_iff :
    gather lookahead statement below = none ↔
      lookahead < below.length ∧
        hasOnClause
            (grown statement (below.take lookahead)) =
          false := by
  induction below generalizing lookahead statement with
  | nil =>
      simp [gather]
  | cons line rest ih =>
      cases hClause : hasOnClause statement with
      | true =>
          rw [gather_of_hasOnClause hClause]
          simp [hasOnClause_grown hClause]
      | false =>
          cases lookahead with
          | zero =>
              simp [gather_zero hClause, grown, hClause]
          | succ lookahead =>
              rw [gather_cons hClause, ih, List.length_cons,
                List.take_succ_cons, Nat.succ_lt_succ_iff]
              rfl

/-
  What is gathered ends where it first names a table, or at
  the end of the script if it names none.
-/
theorem of_gather_eq_some
    (hGather :
      gather lookahead statement below = some text) :
    (∃ count,
      NamesTableAfter statement below count ∧
        text = grown statement (below.take count)) ∨
      hasOnClause (grown statement below) = false ∧
        text = grown statement below := by
  induction below generalizing lookahead statement with
  | nil =>
      simp only [gather, Option.some.injEq] at hGather
      subst hGather
      cases hClause : hasOnClause statement with
      | true =>
          left
          exact ⟨0, (namesTableAfter_iff_of_hasOnClause
            hClause).mpr rfl, rfl⟩
      | false =>
          right
          exact ⟨hClause, rfl⟩
  | cons line rest ih =>
      cases hClause : hasOnClause statement with
      | true =>
          rw [gather_of_hasOnClause hClause,
            Option.some.injEq] at hGather
          subst hGather
          left
          exact ⟨0, (namesTableAfter_iff_of_hasOnClause
            hClause).mpr rfl, rfl⟩
      | false =>
          cases lookahead with
          | zero =>
              rw [gather_zero hClause (by simp)] at hGather
              contradiction
          | succ lookahead =>
              rw [gather_cons hClause] at hGather
              rcases ih hGather with
                ⟨count, hAfter, hText⟩ | hEnd
              · left
                exact ⟨count + 1,
                  (namesTableAfter_cons_iff hClause line
                    rest).mpr ⟨count, rfl, hAfter⟩, hText⟩
              · right
                exact hEnd

end SafeRerun

------------------------------------------------------------
-- Notices
------------------------------------------------------------

namespace SafeRerun

/-
  The indices of the lines where a statement starts that
  declares nothing, in their order.
-/
def skippedLines
    (lookahead : Nat)
    (lines : List Text) :
    List Nat :=
  (List.range lines.length).filter fun index =>
    lines[index]?.any isStatementStart &&
      (readAt lookahead lines index).declaration?.isNone

/-
  The script goes on where the lookahead ends, and the lines
  up to there hold no clause that names a table.
-/
structure IsLost
    (lookahead : Nat)
    (lines : List Text)
    (index : Nat) : Prop where
  goesOn : index + lookahead + 1 < lines.length
  noClause :
    onPhrase.leftmost?
        (joined lines index (index + lookahead + 1)) = none

/-
  The text of a statement: up to the line that completes the
  first clause that names a table, or up to the last line of
  the script if there is no such clause.
-/
inductive IsQuoted
    (lines : List Text)
    (index : Nat) :
    Text → Prop
  | upToClause
      (count : Nat)
      (hFirst : IsFirstClause lines index count) :
      IsQuoted lines index
        (joined lines index (index + count + 1))
  | upToEnd
      (hNone :
        onPhrase.leftmost?
            (joined lines index lines.length) = none) :
      IsQuoted lines index (joined lines index lines.length)

/-
  What is told of a statement that declares nothing: a
  warning with the lookahead if the clause was not found in
  time, and a detail with the text in every other case.
  Lines are numbered from one.
-/
structure IsNoticeOf
    (lookahead : Nat)
    (lines : List Text)
    (index : Nat)
    (notice : Notice) : Prop where
  level :
    notice.level = .warning ↔ IsLost lookahead lines index
  warning :
    IsLost lookahead lines index →
      notice = .noOnClause lookahead (index + 1)
  detail :
    ¬ IsLost lookahead lines index →
      ∃ text,
        IsQuoted lines index text ∧
          notice = .unrecognised (index + 1) text

/- The notice that a reading at an index calls for. -/
def Reading.notice?
    (lookahead index : Nat) :
    Reading → Option Notice
  | .noOnClause => some (.noOnClause lookahead (index + 1))
  | .unrecognised statement =>
      some (.unrecognised (index + 1) statement)
  | _ => none

theorem Step.notice?_eq
    (lookahead index : Nat)
    (step : Step) :
    step.notice? lookahead index =
      step.reading.notice? lookahead index := rfl

/- There is a notice for each reading that is skipped. -/
theorem Reading.isSome_notice?
    (lookahead index : Nat)
    (reading : Reading) :
    (reading.notice? lookahead index).isSome =
      reading.isSkipped := by
  cases reading <;> rfl

end SafeRerun

------------------------------------------------------------
-- The Notice at a Line
------------------------------------------------------------

namespace SafeRerun

variable {lookahead : Nat}
variable {lines : List Text}
variable {index : Nat}
variable {line : Text}
variable {below : List Text}

theorem isLost_iff
    (hLines : lines.drop index = line :: below) :
    IsLost lookahead lines index ↔
      gather lookahead line.trim below = none := by
  have hLength := congrArg List.length hLines
  rw [List.length_drop, List.length_cons] at hLength
  rw [gather_eq_none_iff, hasOnClause_eq_false_iff,
    ← joined_eq_grown hLines]
  constructor
  · rintro ⟨hGoesOn, hNone⟩
    exact ⟨by omega, hNone⟩
  · rintro ⟨hGoesOn, hNone⟩
    exact ⟨by omega, hNone⟩

theorem isQuoted_of_gather
    {text : Text}
    (hLines : lines.drop index = line :: below)
    (hGather : gather lookahead line.trim below = some text) :
    IsQuoted lines index text := by
  have hLength := congrArg List.length hLines
  rw [List.length_drop, List.length_cons] at hLength
  have hAll :
      joined lines index lines.length =
        grown line.trim below := by
    have hEnd :
        lines.length = index + below.length + 1 := by
      omega
    rw [hEnd, joined_eq_grown hLines, List.take_length]
  rcases of_gather_eq_some hGather with
    ⟨count, hAfter, rfl⟩ | ⟨hNone, rfl⟩
  · rw [← joined_eq_grown hLines]
    exact IsQuoted.upToClause count
      ((isFirstClause_iff hLines).mpr hAfter)
  · rw [← hAll]
    refine IsQuoted.upToEnd ?_
    rw [hAll]
    exact hasOnClause_eq_false_iff.mp hNone

/- A statement is skipped when it starts and declares nothing. -/
theorem isSkipped_readAt
    (lookahead : Nat)
    (lines : List Text)
    (index : Nat) :
    (readAt lookahead lines index).isSkipped =
      (lines[index]?.any isStatementStart &&
        (readAt lookahead lines
          index).declaration?.isNone) := by
  cases hLine : lines[index]? with
  | none =>
      have hPast := List.getElem?_eq_none_iff.mp hLine
      rw [readAt_of_length_le hPast]
      rfl
  | some line =>
      have hStart := readAt_eq_noStatement_iff lookahead hLine
      rw [Option.any_some]
      cases hRead : readAt lookahead lines index with
      | noStatement =>
          rw [hStart.mp hRead]
          rfl
      | declared declaration =>
          simp [Reading.isSkipped, Reading.declaration?]
      | noOnClause =>
          simpa [hRead, Reading.isSkipped,
            Reading.declaration?] using hStart
      | unrecognised statement =>
          simpa [hRead, Reading.isSkipped,
            Reading.declaration?] using hStart

/- The notice of a skipped statement says why it is skipped. -/
theorem isNoticeOf_readAt
    {notice : Notice}
    (hNotice :
      (readAt lookahead lines index).notice? lookahead
          index =
        some notice) :
    IsNoticeOf lookahead lines index notice := by
  cases hLines : lines.drop index with
  | nil =>
      simp [readAt, hLines, readFirst, Reading.notice?]
        at hNotice
  | cons line below =>
      cases hStart : isStatementStart line with
      | false =>
          simp [readAt, hLines, readFirst, hStart,
            Reading.notice?] at hNotice
      | true =>
          have hLost :
              IsLost lookahead lines index ↔
                gather lookahead line.trim below = none :=
            isLost_iff hLines
          rw [readAt_of_isStatementStart hLines hStart]
            at hNotice
          cases hGather : gather lookahead line.trim below with
          | none =>
              rw [hGather, readGathered, Reading.notice?,
                Option.some.injEq] at hNotice
              subst hNotice
              have hIs := hLost.mpr hGather
              exact ⟨by simp [Notice.level, hIs],
                fun _ => rfl, fun hNot => absurd hIs hNot⟩
          | some text =>
              have hNot :
                  ¬ IsLost lookahead lines index := by
                rw [hLost, hGather]
                simp
              rw [hGather, readGathered] at hNotice
              split at hNotice
              · contradiction
              · rw [Reading.notice?, Option.some.injEq]
                  at hNotice
                subst hNotice
                exact ⟨by simp [Notice.level, hNot],
                  fun hIs => absurd hIs hNot,
                  fun _ => ⟨text,
                    isQuoted_of_gather hLines hGather, rfl⟩⟩

end SafeRerun

------------------------------------------------------------
-- All Notices of a Pass
------------------------------------------------------------

namespace SafeRerun

/- What a pass reads, line by line. -/
theorem map_reading_steps
    (bounds : Bounds)
    (lines : List Text) :
    (steps bounds lines).map Step.reading =
      (List.range lines.length).map
        (readAt bounds.lookahead lines) := by
  apply List.ext_getElem?
  intro index
  rw [List.getElem?_map, getElem?_steps, List.getElem?_map]
  by_cases hInside : index < lines.length
  · simp [hInside]
  · simp [Nat.le_of_not_lt hInside]

/- The notices of a pass are those of the lines in order. -/
theorem passNotices_eq
    (bounds : Bounds)
    (lines : List Text) :
    passNotices bounds lines =
      (List.range lines.length).filterMap fun index =>
        (readAt bounds.lookahead lines index).notice?
          bounds.lookahead index := by
  have hNotices :
      (steps bounds lines).mapIdx (fun index step =>
          step.notice? bounds.lookahead index) =
        (List.range lines.length).map fun index =>
          (readAt bounds.lookahead lines index).notice?
            bounds.lookahead index := by
    apply List.ext_getElem?
    intro index
    rw [List.getElem?_mapIdx, getElem?_steps,
      List.getElem?_map]
    by_cases hInside : index < lines.length
    · simp [hInside, Step.notice?_eq]
    · simp [Nat.le_of_not_lt hInside]
  rw [passNotices, noticesOf, hNotices, List.filterMap_map]
  rfl

/- What a list yields stands beside what it is made of. -/
theorem forall₂_filter_filterMap
    {α β : Type}
    {related : α → β → Prop}
    {f : α → Option β}
    {xs : List α}
    (hRelated :
      ∀ x ∈ xs, ∀ y, f x = some y → related x y) :
    List.Forall₂ related
      (xs.filter fun x => (f x).isSome)
      (xs.filterMap f) := by
  induction xs with
  | nil =>
      exact List.Forall₂.nil
  | cons x rest ih =>
      have hRest :=
        ih fun y hMem => hRelated y (by simp [hMem])
      cases hFirst : f x with
      | none =>
          simpa [hFirst] using hRest
      | some y =>
          have hHead := hRelated x (by simp) y hFirst
          simpa [hFirst] using And.intro hHead hRest

theorem skippedLines_eq
    (lookahead : Nat)
    (lines : List Text) :
    skippedLines lookahead lines =
      (List.range lines.length).filter fun index =>
        ((readAt lookahead lines index).notice? lookahead
          index).isSome := by
  simp only [skippedLines, Reading.isSome_notice?,
    isSkipped_readAt]

/- The skipped lines are as many as a pass says. -/
theorem length_skippedLines
    (bounds : Bounds)
    (lines : List Text) :
    (skippedLines bounds.lookahead lines).length =
      (tally bounds lines).skipped := by
  have hCount :
      (tally bounds lines).skipped =
        ((steps bounds lines).map Step.reading).countP
          Reading.isSkipped := by
    rw [List.countP_map]
    rfl
  rw [hCount, map_reading_steps, List.countP_map,
    List.countP_eq_length_filter]
  simp only [skippedLines, Function.comp_def,
    isSkipped_readAt]

/-
  A pass tells of every statement that it skips, once and in
  the order of the lines, and of nothing else.  It warns of
  those whose clause the lookahead does not reach although
  the script goes on, and quotes the text of all others.
-/
theorem notices_follow_skipped
    (bounds : Bounds)
    (lines : List Text) :
    (passNotices bounds lines).length =
        (tally bounds lines).skipped ∧
      List.Forall₂ (IsNoticeOf bounds.lookahead lines)
        (skippedLines bounds.lookahead lines)
        (passNotices bounds lines) := by
  have hNotices :
      List.Forall₂ (IsNoticeOf bounds.lookahead lines)
        (skippedLines bounds.lookahead lines)
        (passNotices bounds lines) := by
    rw [passNotices_eq, skippedLines_eq]
    exact forall₂_filter_filterMap fun index _ notice =>
      isNoticeOf_readAt
  exact ⟨by rw [← hNotices.length_eq, length_skippedLines],
    hNotices⟩

/-
  The lookahead ends a line before the clause of the first
  statement, and on the last line of the script for the last
  one.
-/
example :
    passNotices ⟨2, 1⟩
        [Text.ofString "CREATE TRIGGER a\n",
          Text.ofString "  -- later\n",
          Text.ofString "  ON t;\n",
          Text.ofString "CREATE TRIGGER b ON u;\n",
          Text.ofString "CREATE TRIGGER c\n",
          Text.ofString "  AFTER INSERT"] =
      [.noOnClause 1 1,
        .unrecognised 5
          (Text.ofString
            "CREATE TRIGGER c AFTER INSERT")] := by
  decide +kernel

end SafeRerun
