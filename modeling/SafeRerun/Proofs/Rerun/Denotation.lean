import SafeRerun.Proofs.Rerun.Safety

/-
  The trigger that a statement denotes, by the way in which
  its name is spelled.

  Key definitions include:
    * `SafeRerun.Identifier`
    * `SafeRerun.Identifier.denoted`
    * `SafeRerun.reference?`
    * `SafeRerun.denoted?`

  Key theorems include:
    * `SafeRerun.folded_eq_self_iff`
    * `SafeRerun.denoted?_of_create`
    * `SafeRerun.denoted?_guardLine`
    * `SafeRerun.guard_denotes_created_iff`

  A name without quotes denotes its lower case form, and a
  name in double quotes denotes itself.  The name that a
  statement creates has no quotes, and the guard puts it
  into quotes as it is written.  The two denote the same
  trigger as long as the name has no capital letter.
-/

------------------------------------------------------------
-- Identifiers
------------------------------------------------------------

namespace SafeRerun

/- A name as it is spelled in a statement. -/
inductive Identifier where
  /- The name stands there without quotes. -/
  | plain (name : Text)
  /- The name stands between double quotes. -/
  | quoted (name : Text)
  deriving DecidableEq, Repr

/- The name with its capital letters, those of ASCII, folded. -/
def folded
    (name : Text) :
    Text :=
  name.map Char.toLower

/- The name that is meant. -/
def Identifier.denoted :
    Identifier → Text
  | .plain name => folded name
  | .quoted name => name

/- Folding keeps the names that have no capital letter. -/
theorem folded_eq_self_iff
    {name : Text} :
    folded name = name ↔ ∀ c ∈ name, c.isUpper = false := by
  have hLetter :
      ∀ c : Char, c.toLower = c ↔ c.isUpper = false := by
    intro c
    constructor
    · intro hSame
      rw [← hSame]
      exact Char.isUpper_toLower_eq_false c
    · intro hLower
      exact Char.toLower_eq_of_not_isUpper (by simp [hLower])
  induction name with
  | nil =>
      simp [folded]
  | cons c rest ih =>
      have hCons :
          folded (c :: rest) = c.toLower :: folded rest :=
        rfl
      simp only [hCons, List.cons.injEq, hLetter, ih,
        List.forall_mem_cons]

/- A trigger and its table as a statement spells them. -/
structure Reference where
  trigger : Identifier
  table : Identifier
  deriving DecidableEq, Repr

/- The trigger and the table that are meant. -/
def Reference.denoted
    (reference : Reference) :
    Declaration :=
  ⟨reference.trigger.denoted, reference.table.denoted⟩

/- What the statement on a line refers to. -/
def reference?
    (line : Text) :
    Option Reference :=
  match createLine.whole? line with
  | some ⟨trigger, table⟩ =>
      some ⟨.plain trigger, .plain table⟩
  | none =>
      match (dropLine []).whole? line with
      | some ⟨trigger, table⟩ =>
          some ⟨.plain trigger, .plain table⟩
      | none =>
          ((dropLine quoteSign).whole? line).map
            fun ⟨trigger, table⟩ =>
              ⟨.quoted trigger, .plain table⟩

/- The trigger that the statement on a line denotes. -/
def denoted?
    (line : Text) :
    Option Declaration :=
  (reference? line).map Reference.denoted

end SafeRerun

------------------------------------------------------------
-- What Statements Denote
------------------------------------------------------------

namespace SafeRerun

variable {declaration : Declaration}

/- What is created is what its names mean without quotes. -/
theorem denoted?_of_create
    {line : Text}
    (hCreate : statement? line = some (.create declaration)) :
    denoted? line =
      some ⟨folded declaration.trigger,
        folded declaration.table⟩ := by
  have hWhole : createLine.whole? line = some declaration :=
    Phrase.whole?_eq_some_iff.mpr
      (read_of_statement?_create hCreate)
  rw [denoted?, reference?, hWhole]
  rfl

/- A guard drops the trigger of the very name it holds. -/
theorem denoted?_guardLine
    {ending : Text}
    (hNamed : declaration.IsNamed)
    (hEnding : IsBlankRun ending) :
    denoted? (guardLine declaration ending) =
      some ⟨declaration.trigger,
        folded declaration.table⟩ := by
  rcases whole?_guardLine_eq_none declaration ending with
    ⟨hCreate, hPlain⟩
  rw [denoted?, reference?, hCreate, hPlain,
    whole?_guardLine hNamed hEnding]
  rfl

end SafeRerun

------------------------------------------------------------
-- Guards and What They Guard
------------------------------------------------------------

namespace SafeRerun

variable {bounds : Bounds}
variable {lines : List Text}
variable {index : Nat}
variable {step : Step}
variable {declaration : Declaration}
variable {guard : Text}

/-
  A guard above a line that creates a trigger drops from the
  table that is meant there the trigger whose name is spelled
  there.  It is the one that is created exactly if that name
  has no capital letter.
-/
theorem guard_denotes_created_iff
    (hStep : (steps bounds lines)[index]? = some step)
    (hCreate :
      statement? step.line = some (.create declaration))
    (hGuard : step.guard = some guard) :
    ∃ created dropped,
      denoted? step.line = some created ∧
        denoted? guard = some dropped ∧
          created.trigger = folded declaration.trigger ∧
            dropped.trigger = declaration.trigger ∧
              dropped.table = created.table ∧
                (dropped = created ↔
                  ∀ c ∈ declaration.trigger,
                    c.isUpper = false) := by
  rcases guard_of_create hStep hCreate hGuard with
    ⟨hNamed, rfl⟩
  refine ⟨_, _, denoted?_of_create hCreate,
    denoted?_guardLine hNamed (isBlankRun_lineEnd _), rfl,
    rfl, rfl, ?_⟩
  rw [Declaration.mk.injEq, ← folded_eq_self_iff]
  constructor
  · rintro ⟨hTrigger, -⟩
    exact hTrigger.symm
  · intro hSame
    exact ⟨hSame.symm, rfl⟩

/- A statement whose table alone has a capital letter. -/
def plainScript :
    List Text :=
  [Text.ofString "CREATE TRIGGER audit ON Orders;\n"]

/- Its guard drops what it creates. -/
theorem guard_denotes_created_plain :
    ∃ step guard,
      (steps ⟨2, 500⟩ plainScript)[0]? = some step ∧
        statement? step.line =
            some (.create ⟨Text.ofString "audit",
              Text.ofString "Orders"⟩) ∧
          step.guard = some guard ∧
            denoted? guard = denoted? step.line ∧
              denoted? guard =
                some ⟨Text.ofString "audit",
                  Text.ofString "orders"⟩ := by
  have hStep :
      (steps ⟨2, 500⟩ plainScript)[0]? =
        some
          { reading :=
              .declared ⟨Text.ofString "audit",
                Text.ofString "Orders"⟩
            guard :=
              some (Text.ofString
                "DROP TRIGGER IF EXISTS \"audit\" ON Orders;\n")
            line :=
              Text.ofString
                "CREATE TRIGGER audit ON Orders;\n" } := by
    decide +kernel
  have hCreate :
      statement?
          (Text.ofString
            "CREATE TRIGGER audit ON Orders;\n") =
        some (.create ⟨Text.ofString "audit",
          Text.ofString "Orders"⟩) := by
    decide +kernel
  rcases guard_denotes_created_iff hStep hCreate rfl with
    ⟨created, dropped, hCreated, hDropped, -, -, -, hSame⟩
  have hMeant := hSame.mpr (by simp [Text.ofString])
  rw [hMeant] at hDropped
  refine ⟨_, _, hStep, hCreate, rfl,
    hDropped.trans hCreated.symm, ?_⟩
  rw [hDropped, ← hCreated]
  exact denoted?_of_create hCreate

/- A statement whose trigger has a capital letter. -/
def capitalScript :
    List Text :=
  [Text.ofString "CREATE TRIGGER Audit ON t;\n"]

/- Its guard drops another trigger, for all words of ASCII. -/
theorem not_forall_guard_denotes_created :
    ¬ ∀ (bounds : Bounds) (lines : List Text) (index : Nat)
        (step : Step) (declaration : Declaration)
        (guard : Text),
      (steps bounds lines)[index]? = some step →
        statement? step.line =
            some (.create declaration) →
          (∀ c ∈ declaration.trigger ++ declaration.table,
            c.toNat < 128) →
            declaration.trigger.lowercase ≠ ['o', 'n'] →
              step.guard = some guard →
                denoted? guard = denoted? step.line := by
  intro hAll
  have hStep :
      (steps ⟨2, 500⟩ capitalScript)[0]? =
        some
          { reading :=
              .declared ⟨Text.ofString "Audit",
                Text.ofString "t"⟩
            guard :=
              some (Text.ofString
                "DROP TRIGGER IF EXISTS \"Audit\" ON t;\n")
            line :=
              Text.ofString
                "CREATE TRIGGER Audit ON t;\n" } := by
    decide +kernel
  have hSame :=
    hAll ⟨2, 500⟩ capitalScript 0 _
      ⟨Text.ofString "Audit", Text.ofString "t"⟩ _ hStep
      (by decide +kernel) (by simp [Text.ofString])
      (by decide +kernel) rfl
  exact absurd hSame (by decide +kernel)

end SafeRerun
