import PeerDiscovery.CommandLine.Usage

/-!
# Arguments

The arguments of a call are options of the program, the word for a command, and
options of that command.  An option's value is joined to it or is the next
argument; letters of options may be joined behind one dash.
-/

namespace PeerDiscovery

inductive Command where
  | keygen (output : Option String)
  | id (key : Option String)
  | run (bind : Option String)
deriving DecidableEq

structure Invocation where
  isVerbose : Bool
  configuration : Option String
  command : Command
deriving DecidableEq

inductive UsageStop where
  | help (topic : UsageTopic)
  | version
  | noArguments
  | missingCommand
  | unknownCommand (word : String)
  | unexpectedArgument (topic : UsageTopic) (text : String)
  | unexpectedValue (topic : UsageTopic) (option : CommandOption) (value : String)
  | missingValue (option : CommandOption)
  | repeated (topic : UsageTopic) (option : CommandOption)
deriving DecidableEq

namespace UsageStop

/-- A fault, how a call looks, and where to read more. -/
def fault (lines : List String) (usage : Option UsageTopic) : List String :=
  let shown := match usage with
    | some topic => ["", topic.usage]
    | none => []
  lines ++ shown ++ ["", "For more information, try '--help'."]

def lines : UsageStop → List String
  | help topic => topic.help
  | version => ["ipv8 0.4.0"]
  | noArguments => UsageTopic.program.help
  | missingCommand =>
    let words := CommandName.all.map CommandName.word ++ ["help"]
    fault
      ["error: 'ipv8' requires a subcommand but one was not provided",
        "  [subcommands: " ++ ", ".intercalate words ++ "]"]
      (some .program)
  | unknownCommand word => fault ["error: unrecognized subcommand '" ++ word ++ "'"] (some .program)
  | unexpectedArgument topic text =>
    fault ["error: unexpected argument '" ++ text ++ "' found"] (some topic)
  | unexpectedValue topic option value =>
    fault
      ["error: unexpected value '" ++ value ++ "' for '" ++ option.text ++
        "' found; no more were expected"]
      (some topic)
  | missingValue option =>
    fault ["error: a value is required for '" ++ option.text ++ "' but none was supplied"] none
  | repeated topic option =>
    fault ["error: the argument '" ++ option.text ++ "' cannot be used multiple times"] (some topic)

/-- Who asks for help or the version gets it; all else is a mistake. -/
def code : UsageStop → Nat
  | help _ | version => 0
  | _ => 2

end UsageStop

namespace Invocation

abbrev Given := List (CommandOption × String)

def valueOf (given : Given) (option : CommandOption) : Option String := given.lookup option

def give (topic : UsageTopic) (given : Given) (option : CommandOption) (value : String) :
    Except UsageStop Given :=
  if option = .help then .error (.help topic)
  else if option = .version then .error .version
  else if option.isPath && value.isEmpty then .error (.missingValue option)
  else if (valueOf given option).isSome then .error (.repeated topic option)
  else .ok (given ++ [(option, value)])

/-- An argument behind two dashes; an option that takes a value may wait for it. -/
def takeWord (topic : UsageTopic) (given : Given) (text : String) :
    Except UsageStop (Given × Option CommandOption) :=
  let chars := text.toList
  let word := String.ofList (chars.takeWhile (· ≠ '='))
  let joined := match chars.dropWhile (· ≠ '=') with
    | _ :: value => some (String.ofList value)
    | [] => none
  match topic.options.find? fun option => option.word == word with
  | none => .error (.unexpectedArgument topic ("--" ++ word))
  | some option =>
    match option.value, joined with
    | some _, none => .ok (given, some option)
    | some _, some value => do return (← give topic given option value, none)
    | none, some value => .error (.unexpectedValue topic option value)
    | none, none => do return (← give topic given option "", none)

/-- The letters behind one dash; the last option may wait for its value. -/
def takeLetters (topic : UsageTopic) (given : Given) :
    List Char → Except UsageStop (Given × Option CommandOption)
  | [] => .ok (given, none)
  | letter :: rest =>
    match topic.options.find? fun option => option.letter == letter with
    | none => .error (.unexpectedArgument topic ("-" ++ letter.toString))
    | some option =>
      match option.value, rest with
      | some _, [] => .ok (given, some option)
      | some _, '=' :: value => do return (← give topic given option (String.ofList value), none)
      | some _, value => do return (← give topic given option (String.ofList value), none)
      | none, rest => do takeLetters topic (← give topic given option "") rest

/-- The options at the front of the arguments, and the other arguments.  An
option that waits for its value takes the next argument unless that looks like
an option. -/
def takeOptions (topic : UsageTopic) (given : Given) :
    Option CommandOption → List String → Except UsageStop (Given × List String)
  | some option, [] => .error (.missingValue option)
  | none, [] => .ok (given, [])
  | waiting, argument :: rest =>
    let proceed (taken : Except UsageStop (Given × Option CommandOption)) :
        Except UsageStop (Given × List String) :=
      match taken, waiting with
      | .error stop, _ => .error stop
      | .ok _, some option => .error (.missingValue option)
      | .ok (given, next), none => takeOptions topic given next rest
    match argument.toList with
    | ['-', '-'] =>
      match waiting with
      | some option => .error (.missingValue option)
      | none => .ok (given, rest)
    | '-' :: '-' :: word => proceed (takeWord topic given (String.ofList word))
    | '-' :: letter :: letters => proceed (takeLetters topic given (letter :: letters))
    | _ =>
      match waiting with
      | some option =>
        match give topic given option argument with
        | .ok given => takeOptions topic given none rest
        | .error stop => .error stop
      | none => .ok (given, argument :: rest)
termination_by _ arguments => arguments.length

def commandOf (name : CommandName) (value : Option String) : Command :=
  match name with
  | .keygen => .keygen value
  | .id => .id value
  | .run => .run value

def helpOn : List String → UsageStop
  | [] => .help .program
  | word :: _ =>
    match CommandName.ofWord? word with
    | some name => .help (.command name)
    | none => .unknownCommand word

def ofArguments (arguments : List String) : Except UsageStop Invocation := do
  if arguments.isEmpty then throw .noArguments
  let (given, rest) ← takeOptions .program [] none arguments
  match rest with
  | [] => throw .missingCommand
  | word :: rest =>
    match CommandName.ofWord? word with
    | none => throw (if word = "help" then helpOn rest else .unknownCommand word)
    | some name =>
      match ← takeOptions (.command name) [] none rest with
      | (_, text :: _) => throw (.unexpectedArgument (.command name) text)
      | (own, []) =>
        return {
          isVerbose := (valueOf given .verbose).isSome
          configuration := valueOf given .configuration
          command := commandOf name (valueOf own (UsageTopic.ownOption name)) }

end Invocation

end PeerDiscovery
