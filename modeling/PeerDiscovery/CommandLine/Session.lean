import PeerDiscovery.CommandLine.Arguments
import PeerDiscovery.CommandLine.Folder
import PeerDiscovery.Configuration.File
import PeerDiscovery.Key.Basic

/-!
# What the commands do

Every command reads the configuration first: the file that the call names, or
the one in the owner's home, which is written if it is not there.  A key is
generated only where there is none.
-/

namespace PeerDiscovery

inductive ConfigurationFileError where
  | file (cause : FileError)
  | notText
  | noConfiguration
deriving DecidableEq

namespace ConfigurationFileError

def message : ConfigurationFileError → String
  | file cause => cause.message
  | notText => "stream did not contain valid UTF-8"
  | noConfiguration => "TOML parse error"

end ConfigurationFileError

inductive CommandError where
  /-- The file was named in the call, or is the one in the owner's home. -/
  | configurationFile (named : Option String) (cause : ConfigurationFileError)
  | configuration (cause : ConfigurationError)
  | keyFile (path : String) (cause : FileError)
  | key (path : String) (cause : KeyError)
  | keyExists (path : String)
  | file (cause : FileError)
deriving DecidableEq

namespace CommandError

def wording : CommandError → String × Option String
  | configurationFile (some path) cause =>
    ("Failed to load config from " ++ path, some cause.message)
  | configurationFile none cause => (cause.message, none)
  | configuration cause => (cause.message, none)
  | keyFile path cause => ("Failed to read key " ++ path, some cause.message)
  | key path cause => ("Invalid private key in " ++ path, some cause.message)
  | keyExists path => ("Refusing to overwrite existing key at " ++ path, none)
  | file cause => (cause.message, none)

def lines (error : CommandError) : List String :=
  match error.wording with
  | (text, some cause) => ["Error: " ++ text, "", "Caused by:", "    " ++ cause]
  | (text, none) => ["Error: " ++ text]

end CommandError

inductive Ending where
  | finished
  | serving (settings : NodeSettings) (key : PrivateKey)
  | failed (cause : CommandError)
  | stopped (cause : UsageStop)

namespace Ending

def code : Ending → Nat
  | finished | serving .. => 0
  | failed _ => 1
  | stopped cause => cause.code

/-- The lines for standard output, behind those that were printed on the way. -/
def output : Ending → List String
  | stopped cause => if cause.code = 0 then cause.lines else []
  | _ => []

def errors : Ending → List String
  | failed cause => cause.lines
  | stopped cause => if cause.code = 0 then [] else cause.lines
  | _ => []

end Ending

abbrev Session := ExceptT CommandError Script

namespace Session

def ask (request : Request) : Session request.Answer :=
  ExceptT.lift (Script.request request)

def readFile (path : String) : Session (Except FileError Bytes) := ask (.read path)

def print (line : String) : Session Unit := ask (.print line)

def writeFile (path : String) (contents : Bytes) (isPrivate : Bool) : Session Unit := do
  let written : Except FileError Unit ← ask (.write path contents isPrivate)
  match written with
  | .ok () => return ()
  | .error cause => throw (.file cause)

def configurationPath (home : String) : String := home ++ "/.config/ipv8/config.toml"

def configurationOf (home : String) (contents : Bytes) :
    Except ConfigurationFileError Configuration :=
  match String.fromUTF8? ⟨contents.toArray⟩ with
  | none => .error .notText
  | some text =>
    match Configuration.ofText? home text with
    | some configuration => .ok configuration
    | none => .error .noConfiguration

def readConfiguration (home path : String) (named : Option String) : Session Configuration := do
  match ← readFile path with
  | .error cause => throw (.configurationFile named (.file cause))
  | .ok contents =>
    match configurationOf home contents with
    | .error cause => throw (.configurationFile named cause)
    | .ok configuration => return configuration

def configurationFor (home : String) (named : Option String) : Session Configuration := do
  match named with
  | some path => readConfiguration home path (some path)
  | none =>
    let path := configurationPath home
    let isThere : Bool ← ask (.isThere path)
    if isThere then readConfiguration home path none
    else
      let plain := Configuration.default home
      writeFile path plain.text.toUTF8.toList false
      return plain

def readKey (path : String) : Session PrivateKey := do
  match ← readFile path with
  | .error cause => throw (.keyFile path cause)
  | .ok contents =>
    match PrivateKey.decode contents with
    | .error cause => throw (.key path cause)
    | .ok key => return key

def createKey (path : String) : Session PrivateKey := do
  let agreement : Block 32 ← ask (.random 32)
  let seed : Block 32 ← ask (.random 32)
  let key := PrivateKey.ofSecrets agreement seed
  writeFile path key.encode true
  return key

def identity (key : PrivateKey) : List String :=
  ["Member id: " ++ key.memberId.text, "Public key: " ++ Hex.encode key.publicKey.encode]

def generateKey (path : String) : Session Unit := do
  let isThere : Bool ← ask (.isThere path)
  if isThere then throw (.keyExists path)
  print "Generating new identity key..."
  let key ← createKey path
  (identity key).forM print
  print ("Private key saved to: " ++ path)

def showKey (path : String) : Session Unit := do
  (identity (← readKey path)).forM print

/-- The node's key, which is generated on the first run. -/
def nodeKey (path : String) : Session PrivateKey := do
  let isThere : Bool ← ask (.isThere path)
  if isThere then readKey path else createKey path

def checked (configuration : Configuration) : Session NodeSettings := do
  match configuration.validate, configuration.settings with
  | .error cause, _ | _, .error cause => throw (.configuration cause)
  | .ok (), .ok settings => return settings

def perform (home : String) (invocation : Invocation) : Session Ending := do
  let configuration ← configurationFor home invocation.configuration
  match invocation.command with
  | .keygen output =>
    generateKey (output.getD configuration.keyFile)
    return .finished
  | .id key =>
    showKey (key.getD configuration.keyFile)
    return .finished
  | .run bind =>
    let configuration := { configuration with listen := bind.getD configuration.listen }
    let settings ← checked configuration
    let key ← nodeKey configuration.keyFile
    return .serving settings key

end Session

/-- What the program does with its arguments, for an owner with a home. -/
def program (home : String) (arguments : List String) : Script Ending :=
  match Invocation.ofArguments arguments with
  | .error stop => .done (.stopped stop)
  | .ok invocation => do
    match ← (Session.perform home invocation).run with
    | .ok ending => return ending
    | .error cause => return .failed cause

/-- Calls the program in a folder whose owner's home is the directory `home`. -/
def Folder.call (folder : Folder) (arguments : List String) : Ending × Folder :=
  (program (folder.root ++ "/home") arguments).run Folder.answer folder

end PeerDiscovery
