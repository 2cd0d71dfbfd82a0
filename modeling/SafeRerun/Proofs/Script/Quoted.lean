import SafeRerun.Proofs.Script.Row
import SafeRerun.Proofs.Text.Lowercase

/-
  Guards whose quotes hold any identifier, and the triggers
  that they count for.

  Key definitions include:
    * `SafeRerun.namesInQuotes`

  Key theorems include:
    * `SafeRerun.guardedNames_quoted`
    * `SafeRerun.names_stand_for_whole_iff`
    * `SafeRerun.quoted_guard_counts_iff`

  The search takes the word at the beginning of the quotes
  for the name and does not look whether the quotes close
  behind it.  So a guard counts for a trigger of which the
  dropped one has a longer name, if the longer name goes on
  with a sign or a blank; and the rest of the name is
  searched for further guards.
-/

------------------------------------------------------------
-- Names That Are Found
------------------------------------------------------------

namespace SafeRerun

/- A guard that is read names one word of the text. -/
theorem exists_name_of_read_guardPhrase
    {t after : Text}
    {names : List Text}
    (hRead : guardPhrase.read t = some (names, after)) :
    ∃ name,
      names = [name] ∧ IsWordRun name ∧
        name ++ after <:+ t := by
  have hSplit :
      guardPhrase = (dropPhrase ++ [.quote]) ++ [.name] :=
    rfl
  rw [hSplit] at hRead
  rcases Phrase.read_append_iff.mp hRead with
    ⟨first, middle, more, hFront, hName, rfl⟩
  have hFirst : first = [] := by
    have hLength := Phrase.length_of_read hFront
    exact List.length_eq_zero_iff.mp hLength
  rcases Phrase.read_name_iff.mp hName with
    ⟨name, rest, others, hWord, -, rfl, rfl, hRest⟩
  simp only [Phrase.read, Option.some.injEq, Prod.mk.injEq]
    at hRest
  rcases hRest with ⟨rfl, rfl⟩
  exact ⟨name, by rw [hFirst, List.nil_append], hWord,
    Phrase.suffix_of_read hFront⟩

/- The names on a line are words of it. -/
theorem of_mem_guardedNames
    {t name : Text}
    (hMem : name ∈ guardedNames t) :
    IsWordRun name ∧ name <:+: t := by
  induction t using guardedNames.induct with
  | case1 =>
      simp [guardedNames] at hMem
  | case2 c rest names after hRead ih =>
      rcases exists_name_of_read_guardPhrase hRead with
        ⟨found, rfl, hWord, hEnd⟩
      rw [guardedNames_of_read hRead,
        List.singleton_append, List.mem_cons] at hMem
      rcases hMem with rfl | hLater
      · exact ⟨hWord,
          (List.prefix_append name after).isInfix.trans
            hEnd.isInfix⟩
      · rcases ih hLater with ⟨hLaterWord, hPart⟩
        have hAfter : after <:+ c :: rest :=
          (List.suffix_append found after).trans hEnd
        exact ⟨hLaterWord, hPart.trans hAfter.isInfix⟩
  | case3 c rest hNone ih =>
      rw [guardedNames_cons_of_read_eq_none hNone] at hMem
      rcases ih hMem with ⟨hWord, hPart⟩
      exact ⟨hWord,
        hPart.trans (List.suffix_cons c rest).isInfix⟩

end SafeRerun

------------------------------------------------------------
-- Names in Quotes
------------------------------------------------------------

namespace SafeRerun

/-
  The names that are found in a guard whose quotes hold the
  identifier: the word that the identifier begins with, if
  there is one, and the names of guards inside the rest.
-/
def namesInQuotes
    (identifier : Text) :
    List Text :=
  match identifier.takeWhile isWord with
  | [] => guardedNames identifier
  | c :: word =>
      (c :: word) ::
        guardedNames (identifier.dropWhile isWord)

variable {identifier : Text}

theorem namesInQuotes_of_startsOutside
    (hStart : StartsOutside isWord identifier) :
    namesInQuotes identifier = guardedNames identifier := by
  have hNone : identifier.takeWhile isWord = [] :=
    @takeWhile_run_append isWord [] identifier (by simp)
      hStart
  rw [namesInQuotes, hNone]

theorem namesInQuotes_word_append
    {word rest : Text}
    (hWord : IsWordRun word)
    (hRest : StartsOutside isWord rest) :
    namesInQuotes (word ++ rest) =
      word :: guardedNames rest := by
  rw [namesInQuotes, takeWhile_run_append hWord.2 hRest,
    dropWhile_run_append hWord.2 hRest]
  cases word with
  | nil =>
      exact absurd rfl hWord.1
  | cons c tail =>
      rfl

/- A text begins with a word or outside the word characters. -/
theorem startsOutside_or_exists_word
    (t : Text) :
    StartsOutside isWord t ∨
      ∃ word rest,
        t = word ++ rest ∧ IsWordRun word ∧
          StartsOutside isWord rest := by
  by_cases hNone : t.takeWhile isWord = []
  · left
    have hStart := startsOutside_dropWhile isWord t
    rwa [← List.takeWhile_append_dropWhile (p := isWord)
      (l := t), hNone, List.nil_append]
  · right
    exact ⟨t.takeWhile isWord, t.dropWhile isWord,
      List.takeWhile_append_dropWhile.symm,
      ⟨hNone, fun c hMem => List.mem_takeWhile_imp hMem⟩,
      startsOutside_dropWhile isWord t⟩

end SafeRerun

------------------------------------------------------------
-- Quoted Guards
------------------------------------------------------------

namespace SafeRerun

variable {identifier : Text}

/- The names of a guard that breaks off inside its quotes. -/
theorem guardedNames_opened
    (identifier : Text) :
    guardedNames
        (Text.ofString "DROP TRIGGER IF EXISTS " ++
          '"' :: identifier) =
      namesInQuotes identifier := by
  rcases startsOutside_or_exists_word identifier with
    hStart | ⟨word, rest, rfl, hWord, hRest⟩
  · -- No name follows the quote, so no guard begins yet.
    have hNone :
        guardedNames
            (Text.ofString "DROP TRIGGER IF EXISTS ") =
          [] := by
      decide +kernel
    rw [guardedNames_append_sign isSign_quote
        (fun _ => hStart), hNone, List.nil_append,
      namesInQuotes_of_startsOutside hStart]
  · have hDrop :
        dropPhrase.read
            (Text.ofString "DROP TRIGGER IF EXISTS " ++
              '"' :: (word ++ rest)) =
          some ([], ['"'] ++ (word ++ rest)) := rfl
    rw [guardedNames_of_read
        (read_guardPhrase_of_read hDrop (Or.inr rfl) hWord
          hRest),
      namesInQuotes_word_append hWord hRest,
      List.singleton_append]

/- A guard holds the names that are found in its quotes. -/
theorem guardedNames_quoted
    {table : Text}
    (hTable : IsWordRun table)
    (identifier : Text)
    (ending : LineEnd) :
    guardedNames
        (guardLine ⟨identifier, table⟩ ending.text) =
      namesInQuotes identifier := by
  have hSplit :
      guardLine ⟨identifier, table⟩ ending.text =
        (Text.ofString "DROP TRIGGER IF EXISTS " ++
          '"' :: identifier) ++
          '"' :: ([' '] ++ (onWord ++ ([' '] ++
            (table ++ ';' :: ending.text)))) := by
    simp [guardLine, Text.ofString, onWord]
  have hEnd :
      guardPhrase.find?
          ([] ++ ([' '] ++ (onWord ++ ([' '] ++
            (table ++ ';' :: ending.text))))) =
        none :=
    find?_append_end isKeyword_dropWord (by simp)
      (@read_endPhrase_guard ⟨table, table⟩ ending.text
        ⟨hTable, hTable⟩ (isBlankRun_lineEnd ending))
  rw [List.nil_append] at hEnd
  have hGap :
      StartsOutside isWord
        ([' '] ++ (onWord ++ ([' '] ++
          (table ++ ';' :: ending.text)))) :=
    isBlankRun_space.startsOutside_isWord (by simp) _
  rw [hSplit,
    guardedNames_append_sign isSign_quote (fun _ => hGap),
    guardedNames_opened,
    guardedNames_of_find?_eq_none hEnd, List.append_nil]

/- The names in quotes are words of the identifier. -/
theorem of_mem_namesInQuotes
    {name : Text}
    (hMem : name ∈ namesInQuotes identifier) :
    IsWordRun name ∧ name <:+: identifier := by
  rcases startsOutside_or_exists_word identifier with
    hStart | ⟨word, rest, rfl, hWord, hRest⟩
  · rw [namesInQuotes_of_startsOutside hStart] at hMem
    exact of_mem_guardedNames hMem
  · rw [namesInQuotes_word_append hWord hRest,
      List.mem_cons] at hMem
    rcases hMem with rfl | hLater
    · exact ⟨hWord, (List.prefix_append name rest).isInfix⟩
    · rcases of_mem_guardedNames hLater with
        ⟨hName, hPart⟩
      exact ⟨hName, hPart.trans
        (List.suffix_append word rest).isInfix⟩

/- A plain word in quotes is the only name there. -/
theorem namesInQuotes_of_isWordRun
    (hWord : IsWordRun identifier) :
    namesInQuotes identifier = [identifier] := by
  have hNames :=
    namesInQuotes_word_append hWord (startsOutside_nil isWord)
  rw [List.append_nil] at hNames
  rw [hNames, guardedNames]

end SafeRerun

------------------------------------------------------------
-- Whole Identifiers
------------------------------------------------------------

namespace SafeRerun

variable {identifier table : Text}

/- A guard counts for the names that are in its quotes. -/
theorem guardsTrigger_quoted
    (hTable : IsWordRun table)
    (ending : LineEnd)
    (trigger : Text) :
    guardsTrigger trigger
        (guardLine ⟨identifier, table⟩ ending.text) =
          true ↔
      ∃ name ∈ namesInQuotes identifier,
        name.lowercase = trigger.lowercase := by
  rw [guardsTrigger, guardedNames_quoted hTable]
  simp

/- A quoted guard directly above a line, under any text. -/
theorem isGuarded_below_quoted_iff
    (hTable : IsWordRun table)
    (ending : LineEnd)
    (lookback : Nat)
    (above below : List Text)
    (trigger : Text) :
    isGuarded (lookback + 1)
        (above ++
          guardLine ⟨identifier, table⟩ ending.text ::
            below)
        (above.length + 1) trigger = true ↔
      isGuarded lookback above above.length trigger =
          true ∨
        ∃ name ∈ namesInQuotes identifier,
          name.lowercase = trigger.lowercase := by
  rw [isGuarded_append_cons, guardsTrigger_quoted hTable]

/- The same guard on the first line of the text. -/
theorem isGuarded_below_first_quoted_iff
    (hTable : IsWordRun table)
    (ending : LineEnd)
    (lookback : Nat)
    (trigger : Text) :
    isGuarded (lookback + 1)
        [guardLine ⟨identifier, table⟩ ending.text] 1
        trigger = true ↔
      ∃ name ∈ namesInQuotes identifier,
        name.lowercase = trigger.lowercase := by
  have hLine :=
    @isGuarded_below_quoted_iff identifier table hTable ending
      lookback [] [] trigger
  rw [List.length_nil, isGuarded_nil] at hLine
  simpa using hLine

/-
  The names in quotes stand for the whole identifier if it
  is a plain word.  If it is not, one name in the quotes is
  too much: it is a part of the identifier, and no part has
  the form of the whole.
-/
theorem names_stand_for_whole_iff :
    (∀ trigger,
      IsWordRun trigger →
        ((∃ name ∈ namesInQuotes identifier,
            name.lowercase = trigger.lowercase) ↔
          identifier.lowercase = trigger.lowercase)) ↔
      IsWordRun identifier ∨
        namesInQuotes identifier = [] ∧
          ∀ trigger,
            IsWordRun trigger →
              identifier.lowercase ≠ trigger.lowercase := by
  constructor
  · intro hWhole
    by_cases hWord : IsWordRun identifier
    · exact Or.inl hWord
    · right
      have hNone : namesInQuotes identifier = [] := by
        rw [List.eq_nil_iff_forall_not_mem]
        intro name hMem
        rcases of_mem_namesInQuotes hMem with
          ⟨hName, hPart⟩
        have hForm :=
          (hWhole name hName).mp ⟨name, hMem, rfl⟩
        have hSame :=
          Text.eq_of_infix_of_lowercase_eq hPart hForm.symm
        exact hWord (hSame ▸ hName)
      refine ⟨hNone, fun trigger hTrigger hForm => ?_⟩
      rcases (hWhole trigger hTrigger).mpr hForm with
        ⟨name, hMem, -⟩
      simp [hNone] at hMem
  · rintro (hWord | ⟨hNone, hApart⟩) trigger hTrigger
    · simp [namesInQuotes_of_isWordRun hWord]
    · simp [hNone, hApart trigger hTrigger]

/-
  A quoted guard directly above a line counts for the words
  that are found as names in its quotes.  It counts for a
  trigger exactly when the whole identifier has its lower
  case form if the identifier is a plain word, and else only
  if no name is found in it and no word has its form.
-/
theorem quoted_guard_counts_iff
    (hTable : IsWordRun table)
    (identifier : Text)
    (ending : LineEnd) :
    (∀ lookback above below trigger,
      isGuarded (lookback + 1)
          (above ++
            guardLine ⟨identifier, table⟩ ending.text ::
              below)
          (above.length + 1) trigger = true ↔
        isGuarded lookback above above.length trigger =
            true ∨
          ∃ name ∈ namesInQuotes identifier,
            name.lowercase = trigger.lowercase) ∧
    ((∀ lookback trigger,
      IsWordRun trigger →
        (isGuarded (lookback + 1)
            [guardLine ⟨identifier, table⟩ ending.text] 1
            trigger = true ↔
          identifier.lowercase = trigger.lowercase)) ↔
      IsWordRun identifier ∨
        namesInQuotes identifier = [] ∧
          ∀ trigger,
            IsWordRun trigger →
              identifier.lowercase ≠ trigger.lowercase) := by
  refine ⟨isGuarded_below_quoted_iff hTable ending, ?_⟩
  rw [← names_stand_for_whole_iff]
  simp only [isGuarded_below_first_quoted_iff hTable]
  -- Neither the names nor the form depend on the window.
  exact ⟨fun hAll => hAll 0, fun hAll _ => hAll⟩

/- A name that goes on with a sign, and its first word. -/
theorem quoted_guard_counts_dashed :
    IsWordRun (Text.ofString "t") ∧
      isGuarded 2
          [guardLine
            ⟨Text.ofString "trg-all", Text.ofString "t"⟩
            LineEnd.lineFeed.text]
          1 (Text.ofString "TRG") =
        true := by
  refine ⟨by decide, ?_⟩
  have hCounts :=
    (quoted_guard_counts_iff
      (by decide : IsWordRun (Text.ofString "t"))
      (Text.ofString "trg-all") .lineFeed).1
      1 [] [] (Text.ofString "TRG")
  exact hCounts.mpr (Or.inr (by decide +kernel))

/-
  Not every guard with another name in its quotes is told
  from the guard of a trigger: a name that goes on with a
  sign is taken for the word before the sign.
-/
theorem not_forall_quoted_guard_whole :
    ¬ ∀ (identifier table trigger : Text) (lookback : Nat),
        identifier ≠ [] →
          (∀ c ∈ identifier,
            c ≠ '"' ∧ c ≠ '\n' ∧ c ≠ '\r') →
            IsWordRun table →
              IsWordRun trigger →
                1 ≤ lookback →
                  (isGuarded lookback
                      [guardLine ⟨identifier, table⟩ []] 1
                      trigger = true ↔
                    identifier.lowercase =
                      trigger.lowercase) := by
  intro hAll
  have hDashed :=
    hAll (Text.ofString "trg-all") (Text.ofString "t")
      (Text.ofString "trg") 2 (by decide)
      (by simp [Text.ofString]) (by decide) (by decide)
      (by decide)
  revert hDashed
  decide +kernel

end SafeRerun
