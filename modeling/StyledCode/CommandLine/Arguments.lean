import StyledCode.Text.Numeral

/-!
# Arguments of the command line

* `Arguments` : what the arguments ask for
* `Outcome` : arguments, a request for the version or for help, or a usage error
* `parse` : the arguments of a call
-/

namespace StyledCode.CommandLine

/-- What a call of `render` asks for. -/
structure RenderRequest where
  /-- The file to read; none, or a hyphen, for the standard input. -/
  input : Option String := none
  theme : Option String := none
  lineNumbers : Bool := false
  start : Option Int64 := none
  minWidth : Option UInt64 := none
  separator : Option String := none
  dark : Bool := false
  background : Bool := false
  deriving DecidableEq, Repr

/-- What is to be done. -/
inductive Task
  | render (request : RenderRequest)
  | themes
  | color (value : String)
  deriving DecidableEq, Repr

/-- What the arguments ask for. -/
structure Arguments where
  config : Option String := none
  themeDirectory : Option String := none
  verbosity : Nat := 0
  task : Task
  deriving DecidableEq, Repr

/-- What is made of the arguments. -/
inductive Outcome
  | run (arguments : Arguments)
  | version
  | help
  | usageError
  deriving DecidableEq, Repr

/-- An option, by its meaning. -/
inductive Flag
  | config
  | themeDirectory
  | verbosity
  | help
  | version
  | theme
  | lineNumbers
  | start
  | minWidth
  | separator
  | dark
  | background
  deriving DecidableEq, Repr

/-- Where an argument stands: before the subcommand, or behind it. -/
inductive Level
  | top
  | render
  | themes
  | color
  deriving DecidableEq, Repr

namespace Flag

/-- Whether an option takes a value. -/
def takesValue : Flag → Bool
  | config | themeDirectory | theme | start | minWidth | separator => true
  | verbosity | help | version | lineNumbers | dark | background => false

/-- Whether an option may be given several times. -/
def repeatable : Flag → Bool
  | verbosity => true
  | _ => false

/-- The options of a level with their long and, if they have one, their short names. -/
def ofLevel (level : Level) : List (Flag × String × Option Char) :=
  [(config, "config", none), (themeDirectory, "theme-dir", none), (verbosity, "verbosity", some 'v'),
    (help, "help", some 'h')] ++
  match level with
  | .top => [(version, "version", some 'V')]
  | .render =>
    [(theme, "theme", some 't'), (lineNumbers, "line-numbers", some 'n'), (start, "start", none),
      (minWidth, "min-width", none), (separator, "separator", none), (dark, "dark", none),
      (background, "background", none)]
  | .themes => []
  | .color => []

/-- The option of a level with a long name. -/
def ofLong? (level : Level) (name : String) : Option Flag :=
  ((ofLevel level).find? fun (_, long, _) => long == name).map (·.1)

/-- The option of a level with a short name. -/
def ofShort? (level : Level) (name : Char) : Option Flag :=
  ((ofLevel level).find? fun (_, _, short) => short == some name).map (·.1)

end Flag

/-- The subcommand of a name. -/
def Level.ofName? : String → Option Level
  | "render" => some .render
  | "r" => some .render
  | "themes" => some .themes
  | "color" => some .color
  | _ => none

/-- The greatest number of arguments of a level that are not options. -/
def Level.positionalLimit : Level → Nat
  | .top => 0
  | .render => 1
  | .themes => 0
  | .color => 1

/-- What the arguments of one level gave so far. -/
structure Given where
  options : List (Flag × String) := []
  positional : List String := []

/-- How the reading of arguments can end early. -/
inductive Stop
  | usageError
  | version
  | help

/-- The magnitude of a decimal numeral, unless it needs more than 64 bits. -/
private def magnitude? (digits : List Char) : Option Nat :=
  Text.ofDigits? 10 0xffffffffffffffff digits

/-- A signed integer of 64 bits, perhaps with a sign. -/
def signed? (text : String) : Option Int64 := do
  let value : Int ← match text.toList with
    | '-' :: digits => (magnitude? digits).map fun n => -(n : Int)
    | '+' :: digits => (magnitude? digits).map Int.ofNat
    | digits => (magnitude? digits).map Int.ofNat
  if -0x8000000000000000 ≤ value ∧ value < 0x8000000000000000 then some (Int64.ofInt value) else none

/-- An unsigned integer of 64 bits, perhaps with a plus sign. -/
def unsigned? (text : String) : Option UInt64 := do
  let value ← match text.toList with
    | '+' :: digits => magnitude? digits
    | digits => magnitude? digits
  if value < 0x10000000000000000 then some (UInt64.ofNat value) else none

/-- Whether an option can have a value: a path must not be empty, and a number must be one. -/
def Flag.accepts (flag : Flag) (value : String) : Bool :=
  match flag with
  | config | themeDirectory => value != ""
  | start => (signed? value).isSome
  | minWidth => (unsigned? value).isSome
  | _ => true

/-- An option with a value, or with the empty one if it takes none. -/
def Given.option (given : Given) (flag : Flag) (value : String) : Except Stop Given :=
  if flag = .help then .error .help
  else if flag = .version then .error .version
  else if !flag.accepts value || (!flag.repeatable && (given.options.lookup flag).isSome) then .error .usageError
  else .ok { given with options := given.options ++ [(flag, value)] }

/-- An argument that is not an option. -/
def Given.argument (level : Level) (given : Given) (value : String) : Except Stop Given :=
  if given.positional.length < level.positionalLimit then
    .ok { given with positional := given.positional ++ [value] }
  else .error .usageError

/-- A row of short options, and the option at its end that still needs a value. -/
def Given.shorts (level : Level) (given : Given) : List Char → Except Stop (Given × Option Flag)
  | [] => .ok (given, none)
  | name :: rest =>
    match Flag.ofShort? level name with
    | none => .error .usageError
    | some flag =>
      if flag.takesValue then
        match rest with
        | [] => .ok (given, some flag)
        | '=' :: value => return (← given.option flag (String.ofList value), none)
        | value => return (← given.option flag (String.ofList value), none)
      else do Given.shorts level (← given.option flag "") rest

/-- A long option, and whether it still needs a value. -/
def Given.long (level : Level) (given : Given) (text : List Char) : Except Stop (Given × Option Flag) :=
  let name := text.takeWhile (· != '=')
  let value := (text.drop name.length).tail?
  match Flag.ofLong? level (String.ofList name), value with
  | none, _ => .error .usageError
  | some flag, some value =>
    if flag.takesValue then return (← given.option flag (String.ofList value), none) else .error .usageError
  | some flag, none =>
    if flag.takesValue then .ok (given, some flag) else return (← given.option flag "", none)

/-- Whether an argument can be the value of an option that stands before it.  One that begins with a hyphen cannot,
unless it is the hyphen alone or a negative number for an option that takes one. -/
def Flag.takesNext (flag : Flag) (value : String) : Bool :=
  match value.toList with
  | '-' :: rest => rest.isEmpty || (flag == .start && rest.all Char.isDigit)
  | _ => true

/-- The arguments of a level behind the subcommand. -/
def read (level : Level) (given : Given) (escaped : Bool) : List String → Except Stop Given
  | [] => .ok given
  | argument :: rest =>
    if escaped then do read level (← given.argument level argument) true rest
    else if argument = "--" then read level given true rest
    else
      let found : Except Stop (Given × Option Flag) :=
        match argument.toList with
        | '-' :: '-' :: name => given.long level name
        | '-' :: c :: names => given.shorts level (c :: names)
        | _ => return (← given.argument level argument, none)
      match found, rest with
      | .error stop, _ => .error stop
      | .ok (given, none), rest => read level given false rest
      | .ok (_, some _), [] => .error .usageError
      | .ok (given, some flag), value :: rest =>
        if flag.takesNext value then do read level (← given.option flag value) false rest
        else .error .usageError

/-- The arguments up to the subcommand, the subcommand, and the arguments behind it. -/
def readTop (given : Given) : List String → Except Stop (Given × Level × List String)
  | [] => .error .usageError
  | argument :: rest =>
    match Level.ofName? argument with
    | some level => .ok (given, level, rest)
    | none =>
      if argument = "help" then
        match rest with
        | [] => .error .help
        | [name] => if (Level.ofName? name).isSome || name = "help" then .error .help else .error .usageError
        | _ => .error .usageError
      else
        let found : Except Stop (Given × Option Flag) :=
          match argument.toList with
          | '-' :: '-' :: c :: name => given.long .top (c :: name)
          | '-' :: c :: names => if c = '-' then .error .usageError else given.shorts .top (c :: names)
          | _ => .error .usageError
        match found, rest with
        | .error stop, _ => .error stop
        | .ok (given, none), rest => readTop given rest
        | .ok (_, some _), [] => .error .usageError
        | .ok (given, some flag), value :: rest =>
          if flag.takesNext value then do readTop (← given.option flag value) rest
          else .error .usageError

/-- The value of an option. -/
def Given.value? (given : Given) (flag : Flag) : Option String := given.options.lookup flag

/-- Whether an option was given. -/
def Given.has (given : Given) (flag : Flag) : Bool := (given.value? flag).isSome

/-- The task of a subcommand. -/
def Given.task (given : Given) : Level → Except Stop Task
  | .top => .error .usageError
  | .themes => .ok .themes
  | .color =>
    match given.positional with
    | value :: _ => .ok (.color value)
    | [] => .error .usageError
  | .render => .ok (.render {
      input := given.positional.head?
      theme := given.value? .theme
      lineNumbers := given.has .lineNumbers
      start := (given.value? .start).bind signed?
      minWidth := (given.value? .minWidth).bind unsigned?
      separator := given.value? .separator
      dark := given.has .dark
      background := given.has .background })

/-- What the arguments of a call ask for.  An option that both levels know counts as given behind the subcommand. -/
def arguments (call : List String) : Except Stop Arguments := do
  let (outer, level, rest) ← readTop {} call
  let inner ← read level {} false rest
  return {
    config := inner.value? .config <|> outer.value? .config
    themeDirectory := inner.value? .themeDirectory <|> outer.value? .themeDirectory
    verbosity := ((outer.options ++ inner.options).filter fun (flag, _) => flag == .verbosity).length
    task := ← inner.task level }

/-- What is made of the arguments of a call. -/
def parse (call : List String) : Outcome :=
  match arguments call with
  | .ok arguments => .run arguments
  | .error .usageError => .usageError
  | .error .version => .version
  | .error .help => .help

end StyledCode.CommandLine
