import Postroom.Text.Letters

namespace Postroom.CommandLine

/-!
# Command line arguments

The first word that is no option names a component. Options may stand in front
of it and behind it; behind it they win. Each option is given at most once on
each side. Asking for help or for the version ends the reading at once.
-/

/-- What the program can run as. -/
inductive Component where
  | transfer
  | mailbox
  | collector
  deriving Repr, DecidableEq

/-- The component of a name. -/
def Component.ofName? (name : String) : Option Component :=
  match name with
  | "transfer" =>
      some .transfer
  | "mailbox" =>
      some .mailbox
  | "monitoring" =>
      some .collector
  | _ =>
      none

/-- The options of one side of the component's name. -/
structure Options where
  configuration : Option String
  level : Option String
  deriving Repr, DecidableEq

/-- What the program is asked to do. -/
inductive Invocation where
  | help
  | version
  /-- The arguments make no sense. -/
  | usageError
  | run (component : Component) (configuration : String) (level : Option String)
  deriving Repr, DecidableEq

/-- The options that take a value. -/
inductive ValueOption where
  | configuration
  | level
  deriving Repr, DecidableEq

/-- What one argument is. -/
inductive Argument where
  | help
  | version
  /-- An option whose value is the next argument. -/
  | awaiting (option : ValueOption)
  /-- An option together with its value. -/
  | valued (option : ValueOption) (value : String)
  /-- The mark behind which nothing is an option. -/
  | separator
  | word (text : String)
  | unknown
  deriving Repr, DecidableEq

/-- The options that one hyphen introduces. -/
def readShort : List Char → Argument
  | 'h' :: _ =>
      .help
  | 'V' :: _ =>
      .version
  | ['c'] =>
      .awaiting .configuration
  | 'c' :: '=' :: value =>
      .valued .configuration (String.ofList value)
  | 'c' :: value =>
      .valued .configuration (String.ofList value)
  | _ =>
      .unknown

/-- The options that two hyphens introduce. -/
def readLong (characters : List Char) : Argument :=
  let name := String.ofList (characters.takeWhile (· != '='))
  match name, characters.dropWhile (· != '=') with
  | "help", [] =>
      .help
  | "version", [] =>
      .version
  | "config", [] =>
      .awaiting .configuration
  | "log-level", [] =>
      .awaiting .level
  | "config", _ :: value =>
      .valued .configuration (String.ofList value)
  | "log-level", _ :: value =>
      .valued .level (String.ofList value)
  | _, _ =>
      .unknown

/-- What an argument is where no value is awaited. -/
def readArgument (argument : String) : Argument :=
  match argument.toList with
  | ['-', '-'] =>
      .separator
  | '-' :: '-' :: rest =>
      readLong rest
  | ['-'] =>
      .word argument
  | '-' :: rest =>
      readShort rest
  | _ =>
      .word argument

namespace Options

/-- No option at all. -/
def none : Options :=
  ⟨.none, .none⟩

/-- Give an option its value, unless it has one or may not have this one. -/
def give?
    (options : Options)
    (option : ValueOption)
    (value : String) :
    Option Options :=
  match option with
  | .configuration =>
      if options.configuration.isSome || value == "" then
        .none
      else
        some { options with configuration := some value }
  | .level =>
      if options.level.isSome then
        .none
      else
        some { options with level := some value }

end Options

/-- How far the arguments have been read. -/
structure Reading where
  /-- The component, once it was named, and the options in front of its name. -/
  component : Option (Component × Options)
  /-- The options on this side of the component's name. -/
  options : Options
  /-- The option whose value comes next. -/
  awaited : Option ValueOption
  /-- Whether the separator was read. -/
  separated : Bool

/-- The configuration that is read unless another one is named. -/
def defaultConfiguration : String :=
  "relaymail.toml"

/-- The word that asks for help on a component. -/
def helpWord : String :=
  "help"

/-- Whether the rest of the arguments asks for help in a way that makes sense. -/
def readHelp : List String → Invocation
  | [] =>
      .help
  | [topic] =>
      if (Component.ofName? topic).isSome || topic == helpWord then
        .help
      else
        .usageError
  | _ =>
      .usageError

/-- What the arguments ask for once all were read. -/
def Reading.finish (reading : Reading) : Invocation :=
  match reading.component, reading.awaited with
  | some (component, front), .none =>
      .run component
        ((reading.options.configuration.or front.configuration).getD
          defaultConfiguration)
        (reading.options.level.or front.level)
  | _, _ =>
      .usageError

/-- Read arguments one after another. -/
def readArguments (reading : Reading) : List String → Invocation
  | [] =>
      reading.finish
  | argument :: rest =>
      let give (option : ValueOption) (value : String) : Option Reading :=
        (reading.options.give? option value).map fun options =>
          { reading with options := options, awaited := .none }
      match reading.awaited, readArgument argument with
      | some option, .word value =>
          match give option value with
          | some next =>
              readArguments next rest
          | .none =>
              .usageError
      | some option, kind =>
          if reading.separated then
            match give option argument with
            | some next =>
                readArguments next rest
            | .none =>
                .usageError
          else if kind = .separator then
            readArguments { reading with separated := true } rest
          else
            .usageError
      | .none, kind =>
          if reading.separated then
            .usageError
          else
            match kind with
            | .help =>
                .help
            | .version =>
                if reading.component.isNone then .version else .usageError
            | .awaiting option =>
                readArguments { reading with awaited := some option } rest
            | .valued option value =>
                match give option value with
                | some next =>
                    readArguments next rest
                | .none =>
                    .usageError
            | .separator =>
                readArguments { reading with separated := true } rest
            | .unknown =>
                .usageError
            | .word word =>
                match reading.component, Component.ofName? word with
                | .none, some component =>
                    readArguments
                      ⟨some (component, reading.options), .none, .none, false⟩
                      rest
                | .none, .none =>
                    if word = helpWord then readHelp rest else .usageError
                | some _, _ =>
                    .usageError

/-- What some arguments ask for. -/
def Invocation.ofArguments (arguments : List String) : Invocation :=
  readArguments ⟨.none, .none, .none, false⟩ arguments

end Postroom.CommandLine
