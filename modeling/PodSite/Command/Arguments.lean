import PodSite.Text.Basic

/-!
The command line. Options come before or after each other in any order; those of a command stand
after its name. An option with a value is given as `--name value`, `--name=value`, `-n value`,
`-nvalue` or `-n=value`, and short flags can share a hyphen.
-/
namespace PodSite.Command

structure ProjectOptions where
  out : Option Text
  libraries : List Text
  except : List Text
  force : Bool
  title : Option Text
  description : Option Text
  language : Option Text

inductive Action where
  | build
  | status (json : Bool)

structure Arguments where
  config : Option Text
  verbose : Bool
  action : Action
  options : ProjectOptions

inductive Arity where
  | flag
  /-- A value, given once. -/
  | value
  /-- Values, given any number of times. -/
  | values
deriving DecidableEq

structure OptionSpec where
  long : Text
  short : Option Char
  arity : Arity
  emptyAllowed : Bool

def programOptions : List OptionSpec :=
  [ ⟨"config".toList, none, .value, false⟩, ⟨"verbose".toList, some 'v', .flag, true⟩]

def projectOptions : List OptionSpec :=
  [ ⟨"out".toList, some 'o', .value, false⟩, ⟨"lib".toList, some 'l', .values, false⟩,
    ⟨"except".toList, some 'e', .values, true⟩, ⟨"force".toList, some 'f', .flag, true⟩,
    ⟨"title".toList, none, .value, true⟩, ⟨"desc".toList, none, .value, true⟩,
    ⟨"lang".toList, none, .value, true⟩]

def statusOptions : List OptionSpec := projectOptions ++ [⟨"json".toList, none, .flag, true⟩]

abbrev Given := List (Text × Text)

def addOption (given : Given) (spec : OptionSpec) (value : Text) : Option Given :=
  if spec.arity ≠ .values ∧ (given.lookup spec.long).isSome then none
  else if spec.arity ≠ .flag ∧ value.isEmpty ∧ !spec.emptyAllowed then none
  else some (given ++ [(spec.long, value)])

inductive Reading where
  | done (given : Given)
  /-- The option still needs its value from the next argument. -/
  | pending (given : Given) (spec : OptionSpec)

/-- Short options that share a hyphen; the first with a value takes the rest. -/
def readShorts (specs : List OptionSpec) (given : Given) : Text → Option Reading
  | [] => some (.done given)
  | c :: rest => do
    let spec ← specs.find? (·.short == some c)
    if spec.arity = .flag then readShorts specs (← addOption given spec []) rest
    else
      match rest with
      | [] => return .pending given spec
      | '=' :: value => return .done (← addOption given spec value)
      | value => return .done (← addOption given spec value)

def readLong (specs : List OptionSpec) (given : Given) (t : Text) : Option Reading := do
  let (name, value) := match Text.splitOnce? (· == '=') t with
    | some (name, value) => (name, some value)
    | none => (t, none)
  let spec ← specs.find? (·.long == name)
  match spec.arity, value with
  | .flag, none => return .done (← addOption given spec [])
  | .flag, some _ => none
  | _, some value => return .done (← addOption given spec value)
  | _, none => return .pending given spec

/-- An argument that starts an option; a hyphen alone does not. -/
def isOption (t : Text) : Bool :=
  match t with
  | '-' :: _ :: _ => true
  | _ => false

def readOptions (specs : List OptionSpec) (given : Given) : List Text → Option (Given × List Text)
  | [] => some (given, [])
  | argument :: rest =>
    match argument with
    | ['-', '-'] => if rest.isEmpty then some (given, []) else none
    | '-' :: c :: more => do
      let reading ←
        if c = '-' then readLong specs given more else readShorts specs given (c :: more)
      match reading, rest with
      | .done given, rest => readOptions specs given rest
      | .pending _ _, [] => none
      | .pending given spec, value :: rest =>
        if isOption value then none
        else readOptions specs (← addOption given spec value) rest
    | _ => some (given, argument :: rest)

def flagged (given : Given) (name : String) : Bool := (given.lookup name.toList).isSome

def valuesOf (given : Given) (name : String) : List Text :=
  given.filterMap fun (n, value) => if n = name.toList then some value else none

def optionsOf (given : Given) : ProjectOptions :=
  { out := given.lookup "out".toList
    libraries := valuesOf given "lib"
    except := valuesOf given "except"
    force := flagged given "force"
    title := given.lookup "title".toList
    description := given.lookup "desc".toList
    language := given.lookup "lang".toList }

def Arguments.ofTexts? (arguments : List Text) : Option Arguments := do
  match ← readOptions programOptions [] arguments with
  | (_, []) => none
  | (global, command :: rest) =>
    let isStatus := command = "status".toList
    if !isStatus ∧ command ≠ "build".toList then none
    let (given, left) ← readOptions (if isStatus then statusOptions else projectOptions) [] rest
    if !left.isEmpty then none
    return {
      config := global.lookup "config".toList
      verbose := flagged global "verbose"
      action := if isStatus then .status (flagged given "json") else .build
      options := optionsOf given }

end PodSite.Command
