import SafeRerun.Run.Configuration

/-
  The command line.

  Key definitions include:
    * `SafeRerun.Action`
    * `SafeRerun.Request`
    * `SafeRerun.parseArguments`

  Some options may stand before or after the name of the
  action, the others only after it.  A value follows its
  option or is attached to it; short options that take no
  value can share a hyphen.  The first argument that is out
  of place decides.
-/

------------------------------------------------------------
-- Requests
------------------------------------------------------------

namespace SafeRerun

/- The two things the program does to a project. -/
inductive Action where
  | apply
  | check
  deriving DecidableEq, Repr

/- What a command line asks for. -/
inductive Request where
  | perform (action : Action) (options : Options)
  | showVersion
  | showHelp
  deriving DecidableEq, Repr

end SafeRerun

------------------------------------------------------------
-- Options by Name
------------------------------------------------------------

namespace SafeRerun

/- The options of the command line. -/
inductive OptionName where
  | verbose
  | version
  | help
  | projectDir
  | config
  | glob
  | exclude
  | lookback
  | lookahead
  deriving DecidableEq, Repr

namespace OptionName

/- The option with a long name. -/
def ofLong?
    (name : Text) :
    Option OptionName :=
  ([("verbose", .verbose), ("version", .version),
    ("help", .help), ("project-dir", .projectDir),
    ("config", .config), ("glob", .glob),
    ("exclude", .exclude), ("lookback-lines", .lookback),
    ("max-lookahead", .lookahead)] :
    List (String × OptionName)).lookup name.toString

/- The option with a short name. -/
def ofShort?
    (c : Char) :
    Option OptionName :=
  ([('v', .verbose), ('V', .version), ('h', .help),
    ('p', .projectDir), ('c', .config), ('g', .glob),
    ('e', .exclude)] :
    List (Char × OptionName)).lookup c

/- Whether an option takes a value. -/
def takesValue :
    OptionName → Bool
  | .verbose => false
  | .version => false
  | .help => false
  | _ => true

/-
  Whether an option is known before the name of the action,
  or after it.
-/
def knownAt
    (afterAction : Bool) :
    OptionName → Bool
  | .verbose => true
  | .help => true
  | .projectDir => true
  | .config => true
  | .version => !afterAction
  | _ => afterAction

end OptionName

end SafeRerun

------------------------------------------------------------
-- Given Options
------------------------------------------------------------

namespace SafeRerun

/- The options given before or after the action. -/
structure Given where
  verbose : Bool
  project : Option Text
  settingsFile : Option Text
  overrides : Overrides
  deriving DecidableEq, Repr

namespace Given

/- No options. -/
def none :
    Given :=
  ⟨false, .none, .none, .none⟩

/- A value set once. -/
def once
    {α : Type}
    (old : Option α)
    (new : α) :
    Option (Option α) :=
  match old with
  | .none => some (some new)
  | some _ => .none

/- A path, which must not be empty. -/
def pathValue?
    (t : Text) :
    Option Text :=
  if t = [] then .none else some t

/- A number of at most 64 binary digits. -/
def numberValue?
    (t : Text) :
    Option Nat :=
  let digits := if t.head? == some '+' then t.drop 1 else t
  if digits = [] || !digits.all Char.isDigit then
    .none
  else
    let n := decimalDigits digits
    if n < Nat.pow 2 64 then some n else .none

/-
  The options with one more that takes a value.  Only the
  markers can be given more than once.
-/
def withValue
    (name : OptionName)
    (t : Text)
    (given : Given) :
    Option Given :=
  let o := given.overrides
  match name with
  | .projectDir => do
      let project ← once given.project (← pathValue? t)
      return { given with project := project }
  | .config => do
      let file ← once given.settingsFile (← pathValue? t)
      return { given with settingsFile := file }
  | .glob => do
      let pattern ← once o.pattern t
      return { given with
        overrides := { o with pattern := pattern } }
  | .exclude =>
      some { given with
        overrides := { o with exclude := o.exclude ++ [t] } }
  | .lookback => do
      let count ← once o.lookback (← numberValue? t)
      return { given with
        overrides := { o with lookback := count } }
  | .lookahead => do
      let count ← once o.lookahead (← numberValue? t)
      return { given with
        overrides := { o with lookahead := count } }
  | _ => .none

/-
  The options before and after the action together.  Where
  both give a value, the later one counts.
-/
def combine
    (before after : Given) :
    Options :=
  { verbose := before.verbose || after.verbose
    project :=
      (after.project.orElse fun _ => before.project).getD
        ['.']
    settingsFile :=
      after.settingsFile.orElse fun _ => before.settingsFile
    overrides := after.overrides }

end Given

end SafeRerun

------------------------------------------------------------
-- Reading Arguments
------------------------------------------------------------

namespace SafeRerun

/- What an argument is by its spelling. -/
inductive Spelling where
  /- Two hyphens, after which no option follows. -/
  | separator
  /- A long name with the value attached to it, if any. -/
  | long (name : Text) (value : Option Text)
  /- Short names in a row. -/
  | short (names : Text)
  /- Anything else. -/
  | plain
  deriving DecidableEq, Repr

/- The spelling of an argument. -/
def Spelling.of :
    Text → Spelling
  | ['-', '-'] => .separator
  | '-' :: '-' :: rest =>
      let name := rest.takeWhile (· != '=')
      match rest.drop name.length with
      | _ :: value => .long name (some value)
      | [] => .long name none
  | '-' :: c :: rest => .short (c :: rest)
  | _ => .plain

/- What is left to do after an argument has been read. -/
inductive Taken where
  /- The options so far. -/
  | options (given : Given)
  /- The next argument is the value of the option. -/
  | needsValue (name : OptionName) (given : Given)
  /- The version or the help is shown at once. -/
  | show (request : Request)
  /- The argument is out of place. -/
  | refused
  deriving DecidableEq, Repr

/- An option that takes no value. -/
def takeFlag
    (name : OptionName)
    (given : Given) :
    Taken :=
  match name with
  | .verbose =>
      if given.verbose then
        .refused
      else
        .options { given with verbose := true }
  | .version => .show .showVersion
  | .help => .show .showHelp
  | _ => .refused

/- An option with its value. -/
def takeValue
    (name : OptionName)
    (value : Text)
    (given : Given) :
    Taken :=
  match given.withValue name value with
  | some more => .options more
  | none => .refused

/- A long option. -/
def takeLong
    (afterAction : Bool)
    (text : Text)
    (value : Option Text)
    (given : Given) :
    Taken :=
  match OptionName.ofLong? text with
  | none => .refused
  | some name =>
      if !name.knownAt afterAction then
        .refused
      else if name.takesValue then
        match value with
        | some v => takeValue name v given
        | none => .needsValue name given
      else
        match value with
        | some _ => .refused
        | none => takeFlag name given

/-
  Short options in a row.  The first one that takes a value
  takes what follows it, less an equals sign.
-/
def takeShort
    (afterAction : Bool) :
    Text → Given → Taken
  | [], given => .options given
  | c :: rest, given =>
      match OptionName.ofShort? c with
      | none => .refused
      | some name =>
          if !name.knownAt afterAction then
            .refused
          else if name.takesValue then
            match rest with
            | [] => .needsValue name given
            | '=' :: value => takeValue name value given
            | _ => takeValue name rest given
          else
            match takeFlag name given with
            | .options more => takeShort afterAction rest more
            | other => other

/- An argument that is an option. -/
def takeOption
    (afterAction : Bool)
    (argument : Text)
    (given : Given) :
    Taken :=
  match Spelling.of argument with
  | .long name value => takeLong afterAction name value given
  | .short names => takeShort afterAction names given
  | .separator => .refused
  | .plain => .refused

end SafeRerun

------------------------------------------------------------
-- Command Lines
------------------------------------------------------------

namespace SafeRerun

/- The action with a name. -/
def Action.ofName?
    (name : Text) :
    Option Action :=
  if name == Text.ofString "apply" then
    some .apply
  else if name == Text.ofString "check" then
    some .check
  else
    none

/- Whether an argument can be a value on its own. -/
def isSeparateValue
    (argument : Text) :
    Bool :=
  Spelling.of argument == .plain

/-
  Whether help is there for the names that are asked about:
  for the program or for one of its commands.
-/
def isHelpTopic :
    List Text → Bool
  | [] => true
  | [name] =>
      (Action.ofName? name).isSome ||
        name == Text.ofString "help"
  | _ => false

/-
  The request of the arguments after the action, if they are
  in place.  An option whose value is awaited takes the next
  argument, and nothing but options can stand here.
-/
def parseAfter
    (action : Action)
    (before : Given) :
    Option OptionName → Given → List Text → Option Request
  | some _, _, [] => none
  | none, given, [] =>
      some (.perform action (before.combine given))
  | some name, given, argument :: rest =>
      if isSeparateValue argument then
        match given.withValue name argument with
        | some more => parseAfter action before none more rest
        | none => none
      else
        none
  | none, given, argument :: rest =>
      if Spelling.of argument = .separator then
        if rest = [] then
          some (.perform action (before.combine given))
        else
          none
      else
        match takeOption true argument given with
        | .options more =>
            parseAfter action before none more rest
        | .needsValue name more =>
            parseAfter action before (some name) more rest
        | .show request => some request
        | .refused => none

/- The request of the arguments from the first one on. -/
def parseBefore :
    Option OptionName → Given → List Text → Option Request
  | _, _, [] => none
  | some name, given, argument :: rest =>
      if isSeparateValue argument then
        match given.withValue name argument with
        | some more => parseBefore none more rest
        | none => none
      else
        none
  | none, given, argument :: rest =>
      match Action.ofName? argument with
      | some action =>
          parseAfter action given none .none rest
      | none =>
          if argument == Text.ofString "help" then
            if isHelpTopic rest then
              some .showHelp
            else
              none
          else
            match takeOption false argument given with
            | .options more => parseBefore none more rest
            | .needsValue name more =>
                parseBefore (some name) more rest
            | .show request => some request
            | .refused => none

/- What a command line asks for, if it is in order. -/
def parseArguments
    (arguments : List Text) :
    Option Request :=
  parseBefore none .none arguments

end SafeRerun
