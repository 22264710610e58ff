import JvmSource.Config.Basic

/-!
# Command line arguments

`javagen [-v] [-d] render -s SCRIPT -o OUTPUT [-c CONFIG] [--fully-qualified-types PATTERN]
[--no-javadoc] [--encoding NAME]`

The value of an option is the next argument, unless that looks like an option; or it follows the
long name after an equals sign; or it follows the short name directly or after an equals sign. Short
names of options without values may be joined. No option is given twice.
-/

namespace JvmSource.CommandLine

/-- An option. -/
inductive Flag where
  | verbose
  | debug
  | help
  | script
  | output
  | config
  | excluded
  | noDocComments
  | charset
deriving DecidableEq, Repr

namespace Flag

/-- The options before the command. -/
def general : List Flag := [verbose, debug, help]

/-- The options of the command that renders a script. -/
def rendering : List Flag := [script, output, config, excluded, noDocComments, charset, help]

/-- The long name of an option. -/
def long : Flag → Text
  | verbose => "verbose".toList
  | debug => "debug".toList
  | help => "help".toList
  | script => "script".toList
  | output => "output".toList
  | config => "config".toList
  | excluded => "fully-qualified-types".toList
  | noDocComments => "no-javadoc".toList
  | charset => "encoding".toList

/-- The short name of an option. -/
def short? : Flag → Option Char
  | verbose => some 'v'
  | debug => some 'd'
  | help => some 'h'
  | script => some 's'
  | output => some 'o'
  | config => some 'c'
  | excluded | noDocComments | charset => none

/-- Whether the value of an option is a path, which must not be empty. -/
def takesPath : Flag → Bool
  | script | output | config => true
  | _ => false

/-- Whether an option has a value. -/
def takesValue : Flag → Bool
  | excluded | charset => true
  | flag => flag.takesPath

end Flag

/-- Why arguments ask for nothing that can be done. -/
inductive Interruption where
  /-- They ask for help. -/
  | help
  /-- They cannot be understood. -/
  | misuse
deriving DecidableEq, Repr

/-- Options with their values; the value of an option that has none is empty. -/
abbrev Given := List (Flag × Text)

/-- Adds an option to those given before. -/
def give (given : Given) (flag : Flag) (value : Text) : Except Interruption Given :=
  if flag = .help then .error .help
  else if given.any (·.1 == flag) || (flag.takesPath && value.isEmpty) then .error .misuse
  else .ok (given ++ [(flag, value)])

/-- Reads an argument of short names, without its dash. Returns the option that still lacks its
value, if there is one. -/
def readShort (known : List Flag) : Given → Text → Except Interruption (Given × Option Flag)
  | given, [] => .ok (given, none)
  | given, c :: rest =>
    match known.find? (·.short? == some c) with
    | none => .error .misuse
    | some flag =>
      if flag.takesValue then
        match rest with
        | [] => .ok (given, some flag)
        | '=' :: value => return (← give given flag value, none)
        | value => return (← give given flag value, none)
      else do readShort known (← give given flag []) rest

/-- Reads an argument of a long name, without its dashes. Returns the option that still lacks its
value, if there is one. -/
def readLong (known : List Flag) (given : Given) (text : Text) :
    Except Interruption (Given × Option Flag) :=
  let name := text.takeWhile (· != '=')
  match known.find? (·.long == name), text.drop name.length with
  | none, _ => .error .misuse
  | some flag, [] =>
    if flag.takesValue then .ok (given, some flag) else return (← give given flag [], none)
  | some flag, _ :: value =>
    if flag.takesValue then return (← give given flag value, none) else .error .misuse

/-- Whether an argument looks like an option. -/
def looksLikeOption (arg : Text) : Bool := arg.head? == some '-' && arg != ['-']

/-- Reads an argument that looks like an option. -/
def readOption (known : List Flag) (given : Given) : Text →
    Except Interruption (Given × Option Flag)
  | '-' :: '-' :: name => readLong known given name
  | arg => readShort known given (arg.drop 1)

/-- Reads options up to the first argument that is none. Two dashes end the options; nothing may
follow them. -/
def readOptions (known : List Flag) : Given → List Text →
    Except Interruption (Given × List Text)
  | given, [] => .ok (given, [])
  | given, arg :: rest =>
    if !looksLikeOption arg then .ok (given, arg :: rest)
    else if arg = ['-', '-'] then
      if rest.isEmpty then .ok (given, []) else .error .misuse
    else do
      let (given, lacking) ← readOption known given arg
      match lacking, rest with
      | none, rest => readOptions known given rest
      | some _, [] => .error .misuse
      | some flag, value :: rest =>
        if looksLikeOption value then .error .misuse
        else readOptions known (← give given flag value) rest

/-- What rendering a script needs to know. -/
structure Request where
  script : Text
  output : Text
  config : Option Text
  overrides : Overrides
deriving DecidableEq, Repr

/-- The path of the configuration: the one that is given, or else the one that the environment
names, which must not be empty. -/
def configOf (environment : Option Text) (given : Given) : Except Interruption (Option Text) :=
  match given.lookup .config, environment with
  | some path, _ => .ok (some path)
  | none, some [] => .error .misuse
  | none, path => .ok path

/-- The request that options make. -/
def requestOf (environment : Option Text) (given : Given) : Except Interruption Request := do
  let config ← configOf environment given
  match given.lookup .script, given.lookup .output with
  | some script, some output =>
    return {
      script := script
      output := output
      config := config
      overrides := {
        excluded := given.lookup .excluded
        noDocComments := (given.lookup .noDocComments).isSome
        charset := given.lookup .charset } }
  | _, _ => .error .misuse

/-- The request that arguments make. -/
def parse (environment : Option Text) (args : List Text) : Except Interruption Request := do
  let (_, rest) ← readOptions Flag.general [] args
  match rest with
  | [] => .error .misuse
  | command :: rest =>
    if command = "render".toList then
      let (given, rest) ← readOptions Flag.rendering [] rest
      if rest.isEmpty then requestOf environment given else .error .misuse
    else if command = "help".toList then
      .error (if [[], ["help".toList], ["render".toList]].contains rest then .help else .misuse)
    else .error .misuse

end JvmSource.CommandLine
