import SafeRerun.Script.Pass

/-
  The settings of a project.

  Key definitions include:
    * `SafeRerun.Settings`
    * `SafeRerun.Settings.fault?`
    * `SafeRerun.Settings.excludes`
    * `SafeRerun.Overrides`
    * `SafeRerun.Overrides.apply`

  Key theorems include:
    * `SafeRerun.Settings.fault?_eq_none_iff`

  Settings say which files are migrations, which paths are
  left out, and how far a pass looks.  They are usable when
  the pattern is not blank and both distances are positive.
-/

------------------------------------------------------------
-- Settings
------------------------------------------------------------

namespace SafeRerun

/- What a project can choose. -/
structure Settings where
  pattern : Text
  exclude : List Text
  lookback : Nat
  lookahead : Nat
  deriving DecidableEq, Repr

namespace Settings

/- The settings of a project that chooses nothing. -/
def default :
    Settings :=
  { pattern := Text.ofString "migrations/*.sql"
    exclude := [Text.ofString "duplicates_backup"]
    lookback := 2
    lookahead := 500 }

/- The distances that a pass looks. -/
def bounds
    (settings : Settings) :
    Bounds :=
  { lookback := settings.lookback
    lookahead := settings.lookahead }

/-
  Whether a path holds one of the markers.  The empty marker
  leaves nothing out.
-/
def excludes
    (settings : Settings)
    (path : Text) :
    Bool :=
  settings.exclude.any fun marker =>
    marker != [] && Text.contains marker path

end Settings

end SafeRerun

------------------------------------------------------------
-- Faults
------------------------------------------------------------

namespace SafeRerun

/- Why settings are not usable. -/
inductive SettingsFault where
  | blankPattern
  | noLookback
  | noLookahead
  deriving DecidableEq, Repr

/- The wording of a fault. -/
def SettingsFault.message :
    SettingsFault → String
  | .blankPattern => "migrations_glob cannot be empty"
  | .noLookback => "lookback_lines must be at least 1"
  | .noLookahead => "max_lookahead must be at least 1"

namespace Settings

/- The first fault of the settings, if they have one. -/
def fault?
    (settings : Settings) :
    Option SettingsFault :=
  if settings.pattern.isAllBlank then
    some .blankPattern
  else if settings.lookback = 0 then
    some .noLookback
  else if settings.lookahead = 0 then
    some .noLookahead
  else
    none

/- What usable settings are. -/
theorem fault?_eq_none_iff
    (settings : Settings) :
    settings.fault? = none ↔
      settings.pattern.isAllBlank = false ∧
        0 < settings.lookback ∧ 0 < settings.lookahead := by
  unfold fault?
  by_cases hBlank : settings.pattern.isAllBlank = true
  · simp [hBlank]
  · by_cases hBack : settings.lookback = 0
    · simp [hBlank, hBack]
    · by_cases hAhead : settings.lookahead = 0
      · simp [hBlank, hBack, hAhead]
      · simp [hBlank, hBack, hAhead]
        omega

end Settings

end SafeRerun

------------------------------------------------------------
-- Overrides
------------------------------------------------------------

namespace SafeRerun

/- Choices made for one run, each in place of a setting. -/
structure Overrides where
  pattern : Option Text
  exclude : List Text
  lookback : Option Nat
  lookahead : Option Nat
  deriving DecidableEq, Repr

namespace Overrides

/- A run that overrides nothing. -/
def none :
    Overrides :=
  ⟨.none, [], .none, .none⟩

/-
  The settings of a run.  A list of markers replaces the
  whole list of the project, unless it is empty.
-/
def apply
    (overrides : Overrides)
    (settings : Settings) :
    Settings :=
  { pattern := overrides.pattern.getD settings.pattern
    exclude :=
      if overrides.exclude = [] then
        settings.exclude
      else
        overrides.exclude
    lookback := overrides.lookback.getD settings.lookback
    lookahead :=
      overrides.lookahead.getD settings.lookahead }

end Overrides

end SafeRerun
