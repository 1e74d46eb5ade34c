/-!
# Commands and their options

What may be written behind the name of the program, and how it is described to
somebody who asks for help.
-/

namespace PeerDiscovery

inductive CommandName where
  | keygen
  | id
  | run
deriving DecidableEq

namespace CommandName

def all : List CommandName := [keygen, id, run]

def word : CommandName → String
  | keygen => "keygen"
  | id => "id"
  | run => "run"

def summary : CommandName → String
  | keygen => "Generate a new identity key"
  | id => "Show the member id of a key"
  | run => "Run a node until interrupted"

def ofWord? (word : String) : Option CommandName :=
  all.find? fun command => command.word == word

end CommandName

/-- An option: a letter behind one dash or a word behind two, and perhaps a
value. -/
structure CommandOption where
  letter : Char
  word : String
  value : Option String
  isPath : Bool
  summary : String
deriving DecidableEq

namespace CommandOption

def help : CommandOption := ⟨'h', "help", none, false, "Print help"⟩

def version : CommandOption := ⟨'V', "version", none, false, "Print version"⟩

def verbose : CommandOption := ⟨'v', "verbose", none, false, "Enable verbose output"⟩

def configuration : CommandOption :=
  ⟨'c', "config", some "CONFIG", true,
    "Configuration file path (defaults to the user config directory)"⟩

def text (option : CommandOption) : String :=
  match option.value with
  | some value => "--" ++ option.word ++ " <" ++ value ++ ">"
  | none => "--" ++ option.word

end CommandOption

/-- Where options may stand: behind the name of the program, or behind that of a
command. -/
inductive UsageTopic where
  | program
  | command (name : CommandName)
deriving DecidableEq

namespace UsageTopic

def ownOption : CommandName → CommandOption
  | .keygen => ⟨'o', "output", some "OUTPUT", true, "Output file for private key"⟩
  | .id => ⟨'k', "key", some "KEY", true, "Private key file"⟩
  | .run => ⟨'b', "bind", some "BIND", false, "Listen address, overrides the configuration"⟩

def options : UsageTopic → List CommandOption
  | program => [.verbose, .configuration, .help, .version]
  | command name => [ownOption name, .help]

def usage : UsageTopic → String
  | program => "Usage: ipv8 [OPTIONS] <COMMAND>"
  | command name => "Usage: ipv8 " ++ name.word ++ " [OPTIONS]"

def summary : UsageTopic → String
  | program => "Command-line node for the IPv8 overlay"
  | command name => name.summary

/-- Two columns, of which the first is as wide as its widest line. -/
def columns (rows : List (String × String)) : List String :=
  let width := (rows.map (·.1.length)).foldl max 0
  rows.map fun (left, right) =>
    "  " ++ left ++ String.ofList (List.replicate (width + 2 - left.length) ' ') ++ right

def commandLines : UsageTopic → List String
  | program =>
    let rows := CommandName.all.map fun name => (name.word, name.summary)
    let help := ("help", "Print this message or the help of the given subcommand(s)")
    ["", "Commands:"] ++ columns (rows ++ [help])
  | command _ => []

def optionLines (topic : UsageTopic) : List String :=
  let rows := topic.options.map fun option =>
    ("-" ++ option.letter.toString ++ ", " ++ option.text, option.summary)
  ["", "Options:"] ++ columns rows

def help (topic : UsageTopic) : List String :=
  [topic.summary, "", topic.usage] ++ topic.commandLines ++ topic.optionLines

end UsageTopic

end PeerDiscovery
