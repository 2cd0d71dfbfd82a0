import SafeRerun.Proofs.Run.FirstRun

/-
  The settings that a run comes to, from the file or the
  defaults it begins with and from what its options override.

  Key definitions include:
    * `SafeRerun.IsLoaded`
    * `SafeRerun.IsBase`
    * `SafeRerun.Settings.HasFault`
    * `SafeRerun.Overrides.Merges`
    * `SafeRerun.Overrides.Causes`
    * `SafeRerun.Failure.BlamesOverride`
    * `SafeRerun.SettingsByRule`

  Key theorems include:
    * `SafeRerun.isLoaded_iff`
    * `SafeRerun.isBase_iff`
    * `SafeRerun.Overrides.Merges.causes_of_hasFault`
    * `SafeRerun.runSettings_eq_badOverride_iff`
    * `SafeRerun.settings_follow_rule`

  The settings are looked at twice, when they are loaded and
  once they are overridden.  What is loaded has no fault, so
  a fault that is found the second time has come with one of
  the overrides, and a bad file is never blamed on them.
-/

------------------------------------------------------------
-- Settings Files
------------------------------------------------------------

namespace SafeRerun

variable {tree : Tree}
variable {path : Text}

/-
  What comes of a settings file: it is not there, it cannot be
  read, its text is no settings document, its settings have a
  fault, or they are sound.
-/
inductive IsLoaded
    (tree : Tree)
    (path : Text) :
    Except Failure Settings → Prop
  | missing
      (hMissing : tree.pathExists path = false) :
      IsLoaded tree path (.error (.settingsMissing path))
  | unread
      (cause : AccessError)
      (hThere : tree.pathExists path = true)
      (hRead : tree.readText path = .error cause) :
      IsLoaded tree path (.error (.notRead path cause))
  | malformed
      (t : Text)
      (cause : DocumentFault)
      (hRead : tree.readText path = .ok t)
      (hParse : Settings.parse t = .error cause) :
      IsLoaded tree path
        (.error (.settingsMalformed path cause))
  | unusable
      (t : Text)
      (settings : Settings)
      (fault : SettingsFault)
      (hRead : tree.readText path = .ok t)
      (hParse : Settings.parse t = .ok settings)
      (hFault : settings.fault? = some fault) :
      IsLoaded tree path (.error (.settingsUnusable fault))
  | sound
      (t : Text)
      (settings : Settings)
      (hRead : tree.readText path = .ok t)
      (hParse : Settings.parse t = .ok settings)
      (hFault : settings.fault? = none) :
      IsLoaded tree path (.ok settings)

/- What can be read is there. -/
theorem pathExists_of_readText
    {t : Text}
    (hRead : tree.readText path = .ok t) :
    tree.pathExists path = true := by
  unfold Tree.readText Tree.read at hRead
  unfold Tree.pathExists
  cases hResolve : tree.resolve path with
  | error fault =>
      simp [hResolve] at hRead
  | ok place =>
      rfl

/- One thing alone comes of a file, and it is loaded. -/
theorem isLoaded_iff
    {loaded : Except Failure Settings} :
    IsLoaded tree path loaded ↔
      loadSettings tree path = loaded := by
  unfold loadSettings usableSettings
  constructor
  · intro hLoaded
    cases hLoaded with
    | missing hMissing =>
        simp only [hMissing, Bool.false_eq_true, if_false]
    | unread cause hThere hRead =>
        simp only [hThere, if_true, hRead]
    | malformed t cause hRead hParse =>
        simp only [pathExists_of_readText hRead, if_true,
          hRead, hParse]
    | unusable t settings fault hRead hParse hFault =>
        simp only [pathExists_of_readText hRead, if_true,
          hRead, hParse, hFault]
    | sound t settings hRead hParse hFault =>
        simp only [pathExists_of_readText hRead, if_true,
          hRead, hParse, hFault]
  · rintro rfl
    split
    · rename_i hThere
      cases hRead : tree.readText path with
      | error cause =>
          exact IsLoaded.unread cause hThere hRead
      | ok t =>
          cases hParse : Settings.parse t with
          | error cause =>
              simp only [hParse]
              exact IsLoaded.malformed t cause hRead hParse
          | ok settings =>
              cases hFault : settings.fault? with
              | some fault =>
                  simp only [hParse, hFault]
                  exact IsLoaded.unusable t settings fault
                    hRead hParse hFault
              | none =>
                  simp only [hParse, hFault]
                  exact IsLoaded.sound t settings hRead
                    hParse hFault
    · rename_i hMissing
      rw [Bool.not_eq_true] at hMissing
      exact IsLoaded.missing hMissing

end SafeRerun

------------------------------------------------------------
-- Where Settings Come From
------------------------------------------------------------

namespace SafeRerun

variable {tree : Tree}
variable {options : Options}

/- The settings file that a project has by preference. -/
def preferredFile
    (directory : Text) :
    Text :=
  joinPath directory (Text.ofString "trigger-guard.yml")

/- The settings file that it can have instead. -/
def otherFile
    (directory : Text) :
    Text :=
  joinPath directory (Text.ofString "trigger-guard.yaml")

theorem projectSettings_eq
    (tree : Tree)
    (directory : Text) :
    projectSettings tree directory =
      if tree.pathExists (preferredFile directory) then
        loadSettings tree (preferredFile directory)
      else if tree.pathExists (otherFile directory) then
        loadSettings tree (otherFile directory)
      else
        .ok .default := by
  have hPaths :
      settingsPaths directory =
        [preferredFile directory, otherFile directory] :=
    rfl
  unfold projectSettings settingsFile?
  rw [hPaths, List.find?_cons, List.find?_cons,
    List.find?_nil]
  cases tree.pathExists (preferredFile directory) with
  | true =>
      rfl
  | false =>
      cases tree.pathExists (otherFile directory) <;> rfl

/-
  What a run begins with: what comes of the file that is
  named, or of the file of the project that is there, or the
  defaults.
-/
inductive IsBase
    (tree : Tree)
    (options : Options) :
    Except Failure Settings → Prop
  | named
      (path : Text)
      (loaded : Except Failure Settings)
      (hNamed : options.settingsFile = some path)
      (hLoaded : IsLoaded tree path loaded) :
      IsBase tree options loaded
  | preferred
      (loaded : Except Failure Settings)
      (hNone : options.settingsFile = none)
      (hThere :
        tree.pathExists (preferredFile options.project) =
          true)
      (hLoaded :
        IsLoaded tree (preferredFile options.project)
          loaded) :
      IsBase tree options loaded
  | other
      (loaded : Except Failure Settings)
      (hNone : options.settingsFile = none)
      (hMissing :
        tree.pathExists (preferredFile options.project) =
          false)
      (hThere :
        tree.pathExists (otherFile options.project) = true)
      (hLoaded :
        IsLoaded tree (otherFile options.project) loaded) :
      IsBase tree options loaded
  | defaults
      (hNone : options.settingsFile = none)
      (hMissing :
        tree.pathExists (preferredFile options.project) =
          false)
      (hMissingOther :
        tree.pathExists (otherFile options.project) =
          false) :
      IsBase tree options (.ok .default)

/- A run begins with one thing only. -/
theorem isBase_iff
    {base : Except Failure Settings} :
    IsBase tree options base ↔
      baseSettings tree options = base := by
  unfold baseSettings
  constructor
  · intro hBase
    cases hBase with
    | named path _ hNamed hLoaded =>
        rw [hNamed]
        exact isLoaded_iff.mp hLoaded
    | preferred _ hNone hThere hLoaded =>
        simp only [hNone, projectSettings_eq, hThere,
          if_true]
        exact isLoaded_iff.mp hLoaded
    | other _ hNone hMissing hThere hLoaded =>
        simp only [hNone, projectSettings_eq, hMissing,
          hThere, if_true, Bool.false_eq_true, if_false]
        exact isLoaded_iff.mp hLoaded
    | defaults hNone hMissing hMissingOther =>
        simp only [hNone, projectSettings_eq, hMissing,
          hMissingOther, Bool.false_eq_true, if_false]
  · rintro rfl
    cases hFile : options.settingsFile with
    | some path =>
        exact IsBase.named path _ hFile
          (isLoaded_iff.mpr rfl)
    | none =>
        simp only [projectSettings_eq]
        split
        · rename_i hThere
          exact IsBase.preferred _ hFile hThere
            (isLoaded_iff.mpr rfl)
        · rename_i hMissing
          rw [Bool.not_eq_true] at hMissing
          split
          · rename_i hThere
            exact IsBase.other _ hFile hMissing hThere
              (isLoaded_iff.mpr rfl)
          · rename_i hMissingOther
            rw [Bool.not_eq_true] at hMissingOther
            exact IsBase.defaults hFile hMissing
              hMissingOther

/- What a run begins with comes of a file or is the defaults. -/
theorem IsBase.exists_isLoaded
    {base : Except Failure Settings}
    (hBase : IsBase tree options base) :
    (∃ path, IsLoaded tree path base) ∨
      base = .ok .default := by
  cases hBase with
  | named path _ hNamed hLoaded =>
      exact Or.inl ⟨path, hLoaded⟩
  | preferred _ hNone hThere hLoaded =>
      exact Or.inl ⟨_, hLoaded⟩
  | other _ hNone hMissing hThere hLoaded =>
      exact Or.inl ⟨_, hLoaded⟩
  | defaults hNone hMissing hMissingOther =>
      exact Or.inr rfl

/- What a run begins with has no fault of its own. -/
theorem fault?_eq_none_of_isBase
    {base : Settings}
    (hBase : IsBase tree options (.ok base)) :
    base.fault? = none := by
  rcases hBase.exists_isLoaded with ⟨path, hLoaded⟩ | hSame
  · cases hLoaded with
    | sound t settings hRead hParse hFault =>
        exact hFault
  · rw [Except.ok.injEq] at hSame
    rw [hSame]
    decide

/- And if it fails, then not for an override. -/
theorem ne_badOverride_of_isBase
    {failure : Failure}
    (hBase : IsBase tree options (.error failure))
    (fault : SettingsFault) :
    failure ≠ .badOverride fault := by
  rintro rfl
  rcases hBase.exists_isLoaded with ⟨path, hLoaded⟩ | hSame
  · cases hLoaded
  · contradiction

end SafeRerun

------------------------------------------------------------
-- What Overrides Do
------------------------------------------------------------

namespace SafeRerun

/- The settings have the fault, perhaps with others. -/
def Settings.HasFault
    (settings : Settings) :
    SettingsFault → Prop
  | .blankPattern => settings.pattern.isAllBlank = true
  | .noLookback => settings.lookback = 0
  | .noLookahead => settings.lookahead = 0

theorem Settings.fault?_eq_none_iff_forall
    (settings : Settings) :
    settings.fault? = none ↔
      ∀ fault, ¬ settings.HasFault fault := by
  rw [settings.fault?_eq_none_iff]
  constructor
  · rintro ⟨hPattern, hBack, hAhead⟩ fault hFault
    cases fault with
    | blankPattern =>
        rw [HasFault, hPattern] at hFault
        contradiction
    | noLookback =>
        exact Nat.ne_of_gt hBack hFault
    | noLookahead =>
        exact Nat.ne_of_gt hAhead hFault
  · intro hNone
    exact ⟨Bool.eq_false_iff.mpr (hNone .blankPattern),
      Nat.pos_of_ne_zero (hNone .noLookback),
      Nat.pos_of_ne_zero (hNone .noLookahead)⟩

/- The fault that is found first is one of them. -/
theorem Settings.hasFault_of_fault?
    {settings : Settings}
    {fault : SettingsFault}
    (hFault : settings.fault? = some fault) :
    settings.HasFault fault := by
  unfold fault? at hFault
  split at hFault
  · rename_i hBlank
    cases hFault
    exact hBlank
  · split at hFault
    · rename_i hBack
      cases hFault
      exact hBack
    · split at hFault
      · rename_i hAhead
        cases hFault
        exact hAhead
      · contradiction

namespace Overrides

variable {overrides : Overrides}
variable {base chosen : Settings}
variable {fault : SettingsFault}

/- An override has the fault, whatever it overrides. -/
def Causes
    (overrides : Overrides) :
    SettingsFault → Prop
  | .blankPattern =>
      ∃ pattern,
        overrides.pattern = some pattern ∧
          pattern.isAllBlank = true
  | .noLookback => overrides.lookback = some 0
  | .noLookahead => overrides.lookahead = some 0

/- The settings keep what is not overridden. -/
structure Merges
    (overrides : Overrides)
    (base chosen : Settings) : Prop where
  pattern :
    ∀ pattern,
      overrides.pattern = some pattern →
        chosen.pattern = pattern
  patternKept :
    overrides.pattern = .none →
      chosen.pattern = base.pattern
  exclude :
    overrides.exclude ≠ [] →
      chosen.exclude = overrides.exclude
  excludeKept :
    overrides.exclude = [] → chosen.exclude = base.exclude
  lookback :
    ∀ lookback,
      overrides.lookback = some lookback →
        chosen.lookback = lookback
  lookbackKept :
    overrides.lookback = .none →
      chosen.lookback = base.lookback
  lookahead :
    ∀ lookahead,
      overrides.lookahead = some lookahead →
        chosen.lookahead = lookahead
  lookaheadKept :
    overrides.lookahead = .none →
      chosen.lookahead = base.lookahead

theorem merges_apply
    (overrides : Overrides)
    (base : Settings) :
    overrides.Merges base (overrides.apply base) where
  pattern pattern hGiven := by
    rw [apply, hGiven, Option.getD_some]
  patternKept hNone := by
    rw [apply, hNone, Option.getD_none]
  exclude hGiven := if_neg hGiven
  excludeKept hNone := if_pos hNone
  lookback lookback hGiven := by
    rw [apply, hGiven, Option.getD_some]
  lookbackKept hNone := by
    rw [apply, hNone, Option.getD_none]
  lookahead lookahead hGiven := by
    rw [apply, hGiven, Option.getD_some]
  lookaheadKept hNone := by
    rw [apply, hNone, Option.getD_none]

/- A fault of merged settings comes from either side. -/
theorem Merges.causes_of_hasFault
    (hMerges : overrides.Merges base chosen)
    (hFault : chosen.HasFault fault) :
    overrides.Causes fault ∨ base.HasFault fault := by
  cases fault with
  | blankPattern =>
      cases hGiven : overrides.pattern with
      | some pattern =>
          rw [Settings.HasFault,
            hMerges.pattern pattern hGiven] at hFault
          exact Or.inl ⟨pattern, hGiven, hFault⟩
      | none =>
          rw [Settings.HasFault,
            hMerges.patternKept hGiven] at hFault
          exact Or.inr hFault
  | noLookback =>
      cases hGiven : overrides.lookback with
      | some lookback =>
          rw [Settings.HasFault,
            hMerges.lookback lookback hGiven] at hFault
          exact Or.inl (hGiven.trans (congrArg some hFault))
      | none =>
          rw [Settings.HasFault,
            hMerges.lookbackKept hGiven] at hFault
          exact Or.inr hFault
  | noLookahead =>
      cases hGiven : overrides.lookahead with
      | some lookahead =>
          rw [Settings.HasFault,
            hMerges.lookahead lookahead hGiven] at hFault
          exact Or.inl (hGiven.trans (congrArg some hFault))
      | none =>
          rw [Settings.HasFault,
            hMerges.lookaheadKept hGiven] at hFault
          exact Or.inr hFault

/- A fault of an override is one of merged settings. -/
theorem Merges.hasFault_of_causes
    (hMerges : overrides.Merges base chosen)
    (hCauses : overrides.Causes fault) :
    chosen.HasFault fault := by
  cases fault with
  | blankPattern =>
      rcases hCauses with ⟨pattern, hGiven, hBlank⟩
      rw [Settings.HasFault, hMerges.pattern pattern hGiven]
      exact hBlank
  | noLookback =>
      exact hMerges.lookback 0 hCauses
  | noLookahead =>
      exact hMerges.lookahead 0 hCauses

end Overrides

end SafeRerun

------------------------------------------------------------
-- The Settings of a Run
------------------------------------------------------------

namespace SafeRerun

/- The message of the failure begins with an override. -/
def Failure.BlamesOverride
    (failure : Failure) : Prop :=
  Text.ofString "Invalid command-line override" <+:
    failure.message

/- Only a bad override is worded as one. -/
theorem blamesOverride_iff
    {failure : Failure} :
    failure.BlamesOverride ↔
      ∃ fault, failure = .badOverride fault := by
  unfold Failure.BlamesOverride
  constructor
  · intro hBegins
    cases failure with
    | badOverride fault =>
        exact ⟨fault, rfl⟩
    | settingsMissing path =>
        simp [Failure.message, Text.ofString] at hBegins
    | settingsMalformed path cause =>
        simp [Failure.message, Text.ofString] at hBegins
    | settingsUnusable cause =>
        simp [Failure.message, unusableMessage,
          Text.ofString] at hBegins
    | notSelected base cause =>
        simp [Failure.message, Text.ofString] at hBegins
    | notRead path cause =>
        simp [Failure.message, Text.ofString] at hBegins
    | notWritten path cause =>
        simp [Failure.message, Text.ofString] at hBegins
  · rintro ⟨fault, rfl⟩
    simp [Failure.message, Text.ofString]

variable {tree : Tree}
variable {options : Options}
variable {base settings : Settings}
variable {failure : Failure}
variable {fault : SettingsFault}

/-
  A run that begins with settings has them overridden, if
  that leaves them without a fault.
-/
theorem runSettings_of_base
    (hBase : IsBase tree options (.ok base)) :
    ∃ chosen,
      options.overrides.Merges base chosen ∧
        (chosen.fault? = none →
          runSettings tree options = .ok chosen) ∧
        ∀ fault,
          chosen.fault? = some fault →
            runSettings tree options =
              .error (.badOverride fault) := by
  refine ⟨options.overrides.apply base,
    options.overrides.merges_apply base, ?_, ?_⟩
  · intro hNone
    unfold runSettings
    simp only [isBase_iff.mp hBase, hNone]
  · intro fault hFault
    unfold runSettings
    simp only [isBase_iff.mp hBase, hFault]

/- Otherwise it fails as it begins. -/
theorem runSettings_of_base_error
    (hBase : IsBase tree options (.error failure)) :
    runSettings tree options = .error failure := by
  rw [runSettings, isBase_iff.mp hBase]

/- What a run begins with does not depend on overrides. -/
theorem IsBase.withOverrides
    {loaded : Except Failure Settings}
    (hBase : IsBase tree options loaded)
    (overrides : Overrides) :
    IsBase tree { options with overrides := overrides }
      loaded := by
  have hLoaded : baseSettings tree options = loaded :=
    isBase_iff.mp hBase
  exact isBase_iff.mpr hLoaded

theorem exists_isBase
    (tree : Tree)
    (options : Options) :
    ∃ loaded, IsBase tree options loaded :=
  ⟨_, isBase_iff.mpr rfl⟩

/- The settings of a run are what it began with, overridden. -/
theorem exists_base_of_runSettings
    (hSettings : runSettings tree options = .ok settings) :
    ∃ base,
      IsBase tree options (.ok base) ∧
        options.overrides.Merges base settings := by
  rcases exists_isBase tree options with ⟨loaded, hBase⟩
  cases loaded with
  | error failure =>
      rw [runSettings_of_base_error hBase] at hSettings
      contradiction
  | ok base =>
      rcases runSettings_of_base hBase with
        ⟨chosen, hMerges, hSound, hFails⟩
      cases hFault : chosen.fault? with
      | none =>
          rw [hSound hFault, Except.ok.injEq] at hSettings
          subst hSettings
          exact ⟨base, hBase, hMerges⟩
      | some fault =>
          rw [hFails fault hFault] at hSettings
          contradiction

/- An override is blamed for a fault that it has. -/
theorem causes_of_runSettings
    (hBlamed :
      runSettings tree options =
        .error (.badOverride fault)) :
    (∃ base, IsBase tree options (.ok base)) ∧
      options.overrides.Causes fault := by
  rcases exists_isBase tree options with ⟨loaded, hBase⟩
  cases loaded with
  | error failure =>
      rw [runSettings_of_base_error hBase, Except.error.injEq]
        at hBlamed
      exact absurd hBlamed
        (ne_badOverride_of_isBase hBase fault)
  | ok base =>
      refine ⟨⟨base, hBase⟩, ?_⟩
      rcases runSettings_of_base hBase with
        ⟨chosen, hMerges, hSound, hFails⟩
      cases hFault : chosen.fault? with
      | none =>
          rw [hSound hFault] at hBlamed
          contradiction
      | some found =>
          rw [hFails found hFault] at hBlamed
          simp only [Except.error.injEq,
            Failure.badOverride.injEq] at hBlamed
          subst hBlamed
          refine (hMerges.causes_of_hasFault
            (Settings.hasFault_of_fault?
              hFault)).resolve_right ?_
          exact base.fault?_eq_none_iff_forall.mp
            (fault?_eq_none_of_isBase hBase) found

/- An override is blamed where there is a bad one. -/
theorem runSettings_eq_badOverride_iff :
    (∃ fault,
      runSettings tree options =
        .error (.badOverride fault)) ↔
      (∃ base, IsBase tree options (.ok base)) ∧
        ∃ fault, options.overrides.Causes fault := by
  constructor
  · rintro ⟨fault, hBlamed⟩
    rcases causes_of_runSettings hBlamed with
      ⟨hBase, hCauses⟩
    exact ⟨hBase, fault, hCauses⟩
  · rintro ⟨⟨base, hBase⟩, fault, hCauses⟩
    rcases runSettings_of_base hBase with
      ⟨chosen, hMerges, -, hFails⟩
    cases hFault : chosen.fault? with
    | some found =>
        exact ⟨found, hFails found hFault⟩
    | none =>
        exact absurd (hMerges.hasFault_of_causes hCauses)
          (chosen.fault?_eq_none_iff_forall.mp hFault fault)

/- A run without a bad override has settings. -/
theorem exists_runSettings_iff
    (hBase : IsBase tree options (.ok base)) :
    (∃ settings, runSettings tree options = .ok settings) ↔
      ∀ fault, ¬ options.overrides.Causes fault := by
  constructor
  · rintro ⟨settings, hSettings⟩ fault hCauses
    rcases runSettings_eq_badOverride_iff.mpr
        ⟨⟨base, hBase⟩, fault, hCauses⟩ with
      ⟨found, hBlamed⟩
    rw [hSettings] at hBlamed
    contradiction
  · intro hNone
    rcases runSettings_of_base hBase with
      ⟨chosen, -, hSound, hFails⟩
    cases hFault : chosen.fault? with
    | none =>
        exact ⟨chosen, hSound hFault⟩
    | some fault =>
        exact absurd
          (causes_of_runSettings (hFails fault hFault)).2
          (hNone fault)

/- A file that is named is all that a run reads. -/
theorem runSettings_of_named
    {other : Tree}
    {path : Text}
    (project : Text)
    (hNamed : options.settingsFile = some path)
    (hThere : other.pathExists path = tree.pathExists path)
    (hRead : other.readText path = tree.readText path) :
    runSettings other { options with project := project } =
      runSettings tree options := by
  have hSame :
      loadSettings other path = loadSettings tree path := by
    rw [loadSettings, loadSettings, hThere, hRead]
  unfold runSettings baseSettings
  simp only [hNamed, hSame]

end SafeRerun

------------------------------------------------------------
-- Scans and Their Settings
------------------------------------------------------------

namespace SafeRerun

variable {tree : Tree}
variable {options : Options}
variable {write : Bool}

/- The plan of a scan has the settings of the run. -/
theorem runSettings_of_plan
    {plan : Plan}
    (hPlan : (scan write tree options).plan = some plan) :
    runSettings tree options = .ok plan.settings := by
  cases hPlanned : planRun tree options with
  | error failure =>
      rw [scan_of_failure write hPlanned] at hPlan
      contradiction
  | ok found =>
      rw [scan_of_plan write hPlanned, Option.some.injEq]
        at hPlan
      subst hPlan
      exact (planRun_eq_ok_iff.mp hPlanned).1

/- Without a plan no script is passed over. -/
theorem scan_of_no_plan
    (hNone : (scan write tree options).plan = none) :
    (scan write tree options).tree = tree ∧
      (scan write tree options).report = [] := by
  cases hPlanned : planRun tree options with
  | error failure =>
      rw [scan_of_failure write hPlanned]
      exact ⟨rfl, rfl⟩
  | ok found =>
      rw [scan_of_plan write hPlanned] at hNone
      contradiction

/- What the settings of a run come to. -/
structure SettingsByRule
    (tree : Tree)
    (options : Options) : Prop where
  loaded :
    ∀ path loaded,
      loadSettings tree path = loaded ↔
        IsLoaded tree path loaded
  base :
    ∃ loaded,
      IsBase tree options loaded ∧
        ∀ other, IsBase tree options other → other = loaded
  named :
    ∀ path,
      options.settingsFile = some path →
        ∀ (other : Tree) (project : Text),
          other.pathExists path = tree.pathExists path →
            other.readText path = tree.readText path →
              runSettings other
                  { options with project := project } =
                runSettings tree options
  chosen :
    ∀ settings,
      runSettings tree options = .ok settings →
        settings.fault? = none ∧
          ∃ base,
            IsBase tree options (.ok base) ∧
              options.overrides.Merges base settings
  loads :
    ∀ base,
      IsBase tree options (.ok base) →
        ((∃ settings,
          runSettings tree options = .ok settings) ↔
            ∀ fault, ¬ options.overrides.Causes fault)
  fails :
    ∀ failure,
      IsBase tree options (.error failure) →
        ¬ failure.BlamesOverride ∧
          ∀ overrides,
            runSettings tree
                { options with overrides := overrides } =
              .error failure
  blames :
    (∃ failure,
      runSettings tree options = .error failure ∧
        failure.BlamesOverride) ↔
      (∃ base, IsBase tree options (.ok base)) ∧
        ∃ fault, options.overrides.Causes fault
  cause :
    ∀ fault,
      runSettings tree options =
          .error (.badOverride fault) →
        options.overrides.Causes fault
  scans :
    ∀ write plan,
      (scan write tree options).plan = some plan →
        runSettings tree options = .ok plan.settings ∧
          plan.settings.pattern.isAllBlank = false ∧
            0 < plan.settings.lookback ∧
              0 < plan.settings.lookahead
  idles :
    ∀ write,
      (scan write tree options).plan = none →
        (scan write tree options).tree = tree ∧
          (scan write tree options).report = []

/-
  A run begins with the file that is named, the file of its
  project or the defaults.  A file gives what its text holds;
  if it is missing, cannot be read, is malformed or has a
  fault, the run fails for this alone.  Otherwise its settings
  are what it began with, overridden one by one and without a
  fault, or it fails with the blame on an override that has
  one.
-/
theorem settings_follow_rule
    (tree : Tree)
    (options : Options) :
    SettingsByRule tree options where
  loaded path loaded := isLoaded_iff.symm
  base := by
    rcases exists_isBase tree options with ⟨loaded, hBase⟩
    refine ⟨loaded, hBase, fun other hOther => ?_⟩
    exact (isBase_iff.mp hOther).symm.trans
      (isBase_iff.mp hBase)
  named path hNamed other project hThere hRead :=
    runSettings_of_named project hNamed hThere hRead
  chosen settings hSettings :=
    ⟨fault?_eq_none_of_runSettings hSettings,
      exists_base_of_runSettings hSettings⟩
  loads base hBase := exists_runSettings_iff hBase
  fails failure hBase := by
    refine ⟨fun hBlames => ?_, fun overrides => ?_⟩
    · rcases blamesOverride_iff.mp hBlames with
        ⟨fault, hFault⟩
      exact ne_badOverride_of_isBase hBase fault hFault
    · exact runSettings_of_base_error
        (hBase.withOverrides overrides)
  blames := by
    rw [← runSettings_eq_badOverride_iff]
    constructor
    · rintro ⟨failure, hFails, hBlames⟩
      rcases blamesOverride_iff.mp hBlames with
        ⟨fault, rfl⟩
      exact ⟨fault, hFails⟩
    · rintro ⟨fault, hFails⟩
      exact ⟨_, hFails, blamesOverride_iff.mpr ⟨fault, rfl⟩⟩
  cause fault hFails := (causes_of_runSettings hFails).2
  scans write plan hPlan := by
    have hSettings := runSettings_of_plan hPlan
    exact ⟨hSettings, plan.settings.fault?_eq_none_iff.mp
      (fault?_eq_none_of_runSettings hSettings)⟩
  idles write hNone := scan_of_no_plan hNone

/- A settings file with a fault, which no override mends. -/
def faultyProject :
    Tree :=
  Tree.empty.addFile (Text.ofString "trigger-guard.yml")
    (encodeText (Text.ofString "lookback_lines: 0\n"))

example :
    runSettings faultyProject
        { deepOptions with
          overrides := ⟨none, [], some 3, none⟩ } =
      .error (.settingsUnusable .noLookback) := by
  decide +kernel

end SafeRerun
