import MarkerWatch.LogFilter

/-!
# The command line

The arguments are read from left to right on two levels: the options of the program up to the name
of a command, then the options and names of that command.  An option that takes its value from the
next argument is stored only when something else follows it or its level ends, so a fault in that
value is found later than a fault in between.
-/

namespace MarkerWatch

/-- What the program is asked to do. -/
inductive Command
  | set (name : String) (application : Bool)
  | unset (name : String)
  | publish (name : String)
  | listen (names : List String) (poll : Bool)
  deriving DecidableEq, Repr

/-- The arguments of the program. -/
structure Arguments where
  command : Command
  config : Option String
  logLevel : Option LogLevel
  deriving DecidableEq, Repr

/-- Why arguments are not run: they are wrong, or they ask for a text about the program. -/
inductive UsageFault
  | displayHelp
  | displayVersion
  | displayHelpOnMissing
  | invalidValue
  | unknownArgument
  | invalidCommand
  | missingCommand
  | missingName
  | conflict
  | tooManyValues
  deriving DecidableEq, Repr

/-- Whether the text about a fault is an error message and not what was asked for. -/
def UsageFault.isError : UsageFault → Bool
  | .displayHelp | .displayVersion => false
  | _ => true

namespace CommandLine

/-- A level of the command line. -/
inductive Level
  | program
  | set
  | unset
  | publish
  | listen
  deriving DecidableEq, Repr

/-- What a dashed argument means on a level. -/
inductive Switch
  | config
  | logLevel
  | flag
  | help
  | version
  deriving DecidableEq, Repr

/-- Whether a switch takes a value. -/
def Switch.takesValue : Switch → Bool
  | .config | .logLevel => true
  | _ => false

/-- The commands by name. -/
def commands : List (String × Level) :=
  [("set", .set), ("unset", .unset), ("publish", .publish), ("listen", .listen)]

/-- The switch that a long name stands for on a level. -/
def long? (level : Level) (name : String) : Option Switch :=
  match level, name with
  | _, "config" => some .config
  | _, "log-level" => some .logLevel
  | _, "help" => some .help
  | .program, "version" => some .version
  | .set, "application" => some .flag
  | .listen, "poll" => some .flag
  | _, _ => none

/-- The switch that a letter stands for on a level. -/
def short? : Level → Char → Option Switch
  | _, 'h' => some .help
  | .program, 'V' => some .version
  | .set, 'a' => some .flag
  | _, _ => none

/-- What has been read on a level. -/
structure Gathered where
  config : Option String
  logLevel : Option LogLevel
  flag : Bool
  names : List String
  /-- The option that was read last, with its value if that was read too. -/
  pending : Option (Switch × Option String)
  deriving DecidableEq, Repr

namespace Gathered

/-- Nothing has been read. -/
def empty : Gathered :=
  ⟨none, none, false, [], none⟩

/-- An option with its value stored. Each option has at most one value on a level. -/
def store (g : Gathered) (switch : Switch) (value : String) : Except UsageFault Gathered :=
  match switch with
  | .config =>
    if g.config.isSome then .error .conflict
    else if value.toList.isEmpty then .error .invalidValue
    else .ok { g with config := some value }
  | .logLevel =>
    if g.logLevel.isSome then .error .conflict
    else
      match LogLevel.ofWord? value with
      | some level => .ok { g with logLevel := some level }
      | none => .error .invalidValue
  | _ => .ok g

/-- The pending option stored. -/
def settle (g : Gathered) : Except UsageFault Gathered :=
  match g.pending with
  | none => .ok g
  | some (_, none) => .error .invalidValue
  | some (switch, some value) => { g with pending := none }.store switch value

/-- A switch without a value acted on. -/
def act (g : Gathered) (switch : Switch) : Except UsageFault Gathered := do
  let g ← g.settle
  match switch with
  | .help => .error .displayHelp
  | .version => .error .displayVersion
  | _ => if g.flag then .error .conflict else .ok { g with flag := true }

/-- Whether the next argument is the value of the pending option. -/
def awaitsValue (g : Gathered) : Option Switch :=
  match g.pending with
  | some (switch, none) => some switch
  | _ => none

end Gathered

/-- The switches in a group of letters acted on. -/
def letters (level : Level) : Gathered → List Char → Except UsageFault Gathered
  | g, [] => .ok g
  | g, c :: rest =>
    match short? level c with
    | none => .error .unknownArgument
    | some switch => (g.act switch).bind fun g => letters level g rest

/-- A long argument, without its dashes. -/
def longArgument (level : Level) (g : Gathered) (cs : List Char) :
    Except UsageFault Gathered :=
  let name := cs.takeWhile (· != '=')
  let attached := (cs.dropWhile (· != '=')).tail?.map String.ofList
  match long? level (String.ofList name), attached with
  | none, _ => .error .unknownArgument
  | some switch, none =>
    if switch.takesValue then
      g.settle.map fun g => { g with pending := some (switch, none) }
    else
      g.act switch
  | some switch, some value =>
    if switch.takesValue then g.settle.bind fun g => g.store switch value
    else .error .tooManyValues

/-- A name given to a level. The program itself takes none. -/
def nameArgument (level : Level) (g : Gathered) (afterDashes : Bool) (name : String) :
    Except UsageFault Gathered :=
  match level with
  | .program =>
    if afterDashes && ((commands.lookup name).isSome || name == "help") then
      .error .unknownArgument
    else
      .error .invalidCommand
  | .listen => g.settle.map fun g => { g with names := g.names ++ [name] }
  | _ =>
    if g.names.isEmpty then g.settle.map fun g => { g with names := [name] }
    else .error .unknownArgument

/-- The fault of asking for help on what the arguments name. -/
def helpOn : List String → UsageFault
  | [] => .displayHelp
  | [name] =>
    if (commands.lookup name).isSome || name == "help" then .displayHelp else .invalidCommand
  | _ => .invalidCommand

/-- An argument that is neither a command nor follows two lone dashes. -/
def argument (level : Level) (g : Gathered) (arg : String) : Except UsageFault Gathered :=
  match arg.toList with
  | '-' :: '-' :: cs => longArgument level g cs
  | '-' :: c :: cs => letters level g (c :: cs)
  | _ =>
    match g.awaitsValue with
    | some switch => .ok { g with pending := some (switch, some arg) }
    | none => nameArgument level g false arg

/-- What the arguments give on a level, up to the command that they name, if they name one, with
the arguments of that command. -/
def gather (level : Level) (afterDashes : Bool) :
    Gathered → List String → Except UsageFault (Gathered × Option (Level × List String))
  | g, [] => .ok (g, none)
  | g, arg :: rest =>
    if afterDashes then
      (nameArgument level g true arg).bind fun g => gather level true g rest
    else
      match decide (level = .program) && g.awaitsValue.isNone, commands.lookup arg with
      | true, some command => .ok (g, some (command, rest))
      | here, _ =>
        if here && arg == "help" then .error (helpOn rest)
        else if arg == "--" then gather level true g rest
        else (argument level g arg).bind fun g => gather level false g rest

/-- The command that a level other than the program gives. -/
def Level.command? : Level → Gathered → Option Command
  | .set, g => g.names.head?.map fun name => .set name g.flag
  | .unset, g => g.names.head?.map .unset
  | .publish, g => g.names.head?.map .publish
  | .listen, g => if g.names.isEmpty then none else some (.listen g.names g.flag)
  | .program, _ => none

/-- A whole level with its last option stored. -/
def commandLevel (level : Level) (args : List String) :
    Except UsageFault (Command × Gathered) := do
  let (g, _) ← gather level false .empty args
  let g ← g.settle
  match level.command? g with
  | some command => .ok (command, g)
  | none => .error .missingName

/-- The arguments of the program.  What a command level gives for an option wins over the program
level. -/
def parse (args : List String) : Except UsageFault Arguments := do
  let (outer, inner) ← gather .program false .empty args
  match inner with
  | some (level, rest) =>
    let (command, g) ← commandLevel level rest
    let outer ← outer.settle
    return ⟨command, g.config <|> outer.config, g.logLevel <|> outer.logLevel⟩
  | none =>
    let outer ← outer.settle
    if outer.config.isNone && outer.logLevel.isNone then .error .displayHelpOnMissing
    else .error .missingCommand

end CommandLine

end MarkerWatch
