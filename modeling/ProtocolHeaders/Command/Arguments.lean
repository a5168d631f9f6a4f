/-!
# Command-line arguments

A command line names a command and gives it options. An option's value stands behind an
equals sign or in the next argument; in the second case the value is judged only when
the next option comes or the arguments end. Behind two dashes nothing is an option.
-/

namespace ProtocolHeaders.Command

/-- Why a command line is not run. -/
inductive Refusal where
  | unknownArgument
  | invalidValue
  | invalidCommand
  /-- An option is given twice. -/
  | conflict
  /-- A flag is given a value. -/
  | tooManyValues
  | help
  | version
  /-- There is no command at all. -/
  | missingCommand
deriving Repr, DecidableEq, Inhabited

/-- Whether a refusal is what the caller asked for. -/
def Refusal.isRequested : Refusal -> Bool
  | help => true
  | version => true
  | _ => false

/-- The options that take a value. -/
inductive Parameter where
  | config
  | model
  | logLevel
  | output
  | namespaceName
  /-- The argument that is no option. -/
  | destination
deriving Repr, DecidableEq

/-- The options that take no value. -/
inductive Flag where
  | legacy
  | strict
  | help
deriving Repr, DecidableEq

/-- The commands. -/
inductive Verb where
  | generate
  | order
  | initConfig
deriving Repr, DecidableEq, Inhabited

/-- The name of a command. -/
def Verb.name : Verb -> String
  | generate => "generate"
  | order => "order"
  | initConfig => "init-config"

/-- The command with a name. -/
def Verb.ofName? (name : String) : Option Verb :=
  [Verb.generate, .order, .initConfig].find? (·.name == name)

/-- The name of an option that takes a value. -/
def Parameter.name : Parameter -> String
  | config => "config"
  | model => "model"
  | logLevel => "log-level"
  | output => "output"
  | namespaceName => "namespace"
  | destination => ""

/-- Whether a value is a path, which must not be empty. -/
def Parameter.isPath : Parameter -> Bool
  | config => true
  | model => true
  | output => true
  | destination => true
  | _ => false

/-- The name of an option that takes no value. -/
def Flag.name : Flag -> String
  | legacy => "legacy"
  | strict => "strict"
  | help => "help"

namespace Verb

/-- The options with a value that a command has. -/
def parameters : Verb -> List Parameter
  | generate => [.config, .model, .logLevel, .output, .namespaceName]
  | order => [.config, .model, .logLevel]
  | initConfig => []

/-- The options without a value that a command has. -/
def flags : Verb -> List Flag
  | generate => [.legacy, .strict, .help]
  | order => [.legacy, .strict, .help]
  | initConfig => [.help]

/-- Whether a command has an argument that is no option. -/
def takesDestination (verb : Verb) : Bool :=
  verb = .initConfig

end Verb

/-! ## Reading the arguments of a command -/

/-- What the arguments so far have given. -/
structure Given where
  values : List (Parameter × String) := []
  flags : List Flag := []
  /-- The last option, whose value may still have to come and is not judged yet. -/
  pending? : Option (Parameter × Option String) := none
deriving Repr, DecidableEq, Inhabited

namespace Given

/-- The value of an option. -/
def value? (given : Given) (parameter : Parameter) : Option String :=
  given.values.lookup parameter

/-- Whether an option is given, as far as it was judged. -/
def has (given : Given) (parameter : Parameter) : Bool :=
  (given.value? parameter).isSome

/-- Judge a value and take it. -/
def accept (given : Given) (parameter : Parameter) (value : String) : Except Refusal Given :=
  if given.has parameter then .error .conflict
  else if parameter.isPath && value.isEmpty then .error .invalidValue
  else .ok { given with values := given.values ++ [(parameter, value)] }

/-- Judge the value of the last option. -/
def settle (given : Given) : Except Refusal Given :=
  match given.pending? with
  | none => .ok given
  | some (_, none) => .error .invalidValue
  | some (parameter, some value) => { given with pending? := none }.accept parameter value

/-- Whether the last option still has no value. -/
def awaitsValue (given : Given) : Bool :=
  match given.pending? with
  | some (_, none) => true
  | _ => false

/-- Take an option that stands without a value. -/
def expect (given : Given) (parameter : Parameter) : Except Refusal Given := do
  return { <- given.settle with pending? := some (parameter, none) }

/-- Take the value that the last option waits for, or else the one argument that is no
option. -/
def takeValue (given : Given) (verb : Verb) (value : String) : Except Refusal Given :=
  match given.pending? with
  | some (parameter, none) => .ok { given with pending? := some (parameter, some value) }
  | pending? =>
      if verb.takesDestination && pending?.isNone && !given.has .destination then
        .ok { given with pending? := some (.destination, some value) }
      else .error .unknownArgument

/-- Take an option without a value. -/
def takeFlag (given : Given) (flag : Flag) : Except Refusal Given := do
  let settled <- given.settle
  if flag = .help then .error .help
  else if settled.flags.contains flag then .error .conflict
  else return { settled with flags := settled.flags ++ [flag] }

end Given

/-- The name of a long option, and what stands behind its equals sign. -/
def splitOption (argument : List Char) : String × Option String :=
  let name := argument.takeWhile (· != '=')
  match argument.dropWhile (· != '=') with
  | [] => (String.ofList name, none)
  | _ :: value => (String.ofList name, some (String.ofList value))

/-- Take an argument that begins with two dashes, given without them. -/
def takeLong (verb : Verb) (given : Given) (argument : List Char) : Except Refusal Given :=
  let (name, value?) := splitOption argument
  match verb.parameters.find? (·.name == name), verb.flags.find? (·.name == name), value? with
  | some parameter, _, some value => do (<- given.settle).accept parameter value
  | some parameter, _, none => given.expect parameter
  | none, some _, some _ => .error .tooManyValues
  | none, some flag, none => given.takeFlag flag
  | none, none, _ => .error .unknownArgument

/-- Take an argument that begins with one dash, given without it. -/
def takeShort (given : Given) (argument : List Char) : Except Refusal Given :=
  if argument.head? == some 'h' then given.takeFlag .help else .error .unknownArgument

/-- Take the arguments of a command. `trailing` says that two dashes came before. -/
def takeAll (verb : Verb) (trailing : Bool) (given : Given) :
    List String -> Except Refusal Given
  | [] => given.settle
  | argument :: others =>
      if trailing then
        if given.awaitsValue then .error .unknownArgument
        else do takeAll verb true (<- given.takeValue verb argument) others
      else
        match argument.toList with
        | ['-', '-'] => takeAll verb true given others
        | '-' :: '-' :: rest => do takeAll verb false (<- takeLong verb given rest) others
        | '-' :: first :: rest => do takeAll verb false (<- takeShort given (first :: rest)) others
        | _ => do takeAll verb false (<- given.takeValue verb argument) others

/-! ## Commands -/

/-- What the commands that read a model are told about it. -/
structure ModelArguments where
  config? : Option String := none
  model? : Option String := none
  legacy : Bool := false
  strict : Bool := false
  logLevel? : Option String := none
deriving Repr, DecidableEq, Inhabited

/-- A command with its arguments. -/
inductive Invocation where
  | generate (model : ModelArguments) (output? namespaceName? : Option String)
  | order (model : ModelArguments)
  | initConfig (path? : Option String)
deriving Repr, DecidableEq, Inhabited

/-- The arguments about a model. -/
def Given.modelArguments (given : Given) : ModelArguments :=
  { config? := given.value? .config
    model? := given.value? .model
    legacy := given.flags.contains .legacy
    strict := given.flags.contains .strict
    logLevel? := given.value? .logLevel }

/-- A command with the arguments that were given. -/
def Verb.invocation (verb : Verb) (given : Given) : Invocation :=
  match verb with
  | generate =>
      .generate given.modelArguments (given.value? .output) (given.value? .namespaceName)
  | order => .order given.modelArguments
  | initConfig => .initConfig (given.value? .destination)

/-- The name of the command that explains the others. -/
def helpName : String := "help"

/-- What asking for help about commands comes to. -/
def refuseHelp : (names : List String) -> Refusal
  | [] => .help
  | [name] =>
      if (Verb.ofName? name).isSome || name = helpName then .help else .invalidCommand
  | _ => .invalidCommand

/-- What an option in front of a command comes to, given without its dashes. -/
def refuseLong (argument : List Char) : Refusal :=
  match splitOption argument with
  | ("help", none) => .help
  | ("version", none) => .version
  | ("help", some _) => .tooManyValues
  | ("version", some _) => .tooManyValues
  | _ => .unknownArgument

/-- What an argument behind two dashes comes to in place of a command. -/
def refuseTrailing (arguments : List String) : Refusal :=
  match arguments with
  | [] => .missingCommand
  | name :: _ =>
      if (Verb.ofName? name).isSome || name = helpName then .unknownArgument else .invalidCommand

/-- The command of a command line. -/
def parse (arguments : List String) : Except Refusal Invocation :=
  match arguments with
  | [] => .error .missingCommand
  | name :: others =>
      match Verb.ofName? name with
      | some verb => (takeAll verb false {} others).map verb.invocation
      | none =>
          if name = helpName then .error (refuseHelp others)
          else
            match name.toList with
            | ['-', '-'] => .error (refuseTrailing others)
            | '-' :: '-' :: rest => .error (refuseLong rest)
            | '-' :: 'h' :: _ => .error .help
            | '-' :: 'V' :: _ => .error .version
            | '-' :: _ :: _ => .error .unknownArgument
            | _ => .error .invalidCommand

end ProtocolHeaders.Command
