import PeerDiscovery.Node.Settings

/-!
# The configuration of a node

A configuration is what the owner of a node writes down: texts and numbers that
may be wrong.  Checking one tells the first fault; a configuration without fault
gives the settings of a node.
-/

namespace PeerDiscovery

structure WalkEntry where
  enabled : Bool := true
  timeout : Binary64 := .ofDecimal false ⟨3, 0⟩
  window : Nat := 5
  interval : Nat := 0
  /-- Negative for no limit. -/
  peers : Int := 20
deriving DecidableEq

structure OverlayEntry where
  service : String
  maxPeers : Int := 30
  bootstrap : List String := []
  walk : WalkEntry := {}
deriving DecidableEq

/-- The service that every node offers unless told otherwise. -/
def discoveryService : String := "7e313685c1912a141279f8248fc8db5899c5df5a"

structure Configuration where
  keyFile : String
  listen : String := "0.0.0.0:8090"
  walkInterval : Nat := 5
  lanInterval : Nat := 60
  overlays : List OverlayEntry := [{ service := discoveryService }]
  logLevel : String := "info"
deriving DecidableEq

inductive ConfigurationError where
  | listen (cause : AddressSyntaxError)
  | walkInterval
  | lanInterval
  | logLevel (level : String)
  | service (text : String) (cause : PacketError)
  | bootstrap (text : String) (cause : AddressSyntaxError)
  | walkTimeout (timeout : Binary64)
  | settings (cause : NodeError)
deriving DecidableEq

def logLevels : List String := ["trace", "debug", "info", "warn", "error"]

namespace ConfigurationError

def message : ConfigurationError → String
  | listen cause => cause.message
  | walkInterval => "Walker interval must be at least 1 second"
  | lanInterval => "LAN estimation interval must be at least 1 second"
  | logLevel level =>
    "Invalid log level: " ++ level ++ ". Must be one of: " ++ ", ".intercalate logLevels
  | service text cause => "Invalid service id '" ++ text ++ "': " ++ cause.message
  | bootstrap text cause => "Invalid bootstrap address '" ++ text ++ "': " ++ cause.message
  | walkTimeout timeout => "Invalid walk timeout: " ++ timeout.text
  | settings cause => cause.message

end ConfigurationError

def limitOf : Int → Option Nat
  | .ofNat limit => some limit
  | .negSucc _ => none

namespace WalkEntry

def settings (entry : WalkEntry) : Except ConfigurationError WalkSettings :=
  match entry.timeout.toDuration? with
  | none => .error (.walkTimeout entry.timeout)
  | some timeout =>
    .ok
      { timeout
        window := entry.window
        interval := Duration.ofSeconds entry.interval
        targetPeers := limitOf entry.peers }

end WalkEntry

namespace OverlayEntry

def serviceId (entry : OverlayEntry) : Except ConfigurationError ServiceId :=
  match ServiceId.ofText entry.service with
  | .ok service => .ok service
  | .error cause => .error (.service entry.service cause)

def bootstrapAddress (text : String) : Except ConfigurationError Address :=
  match Address.ofText text with
  | .ok address => .ok address
  | .error cause => .error (.bootstrap text cause)

/-- The overlay as a plan; a walk that is not enabled is not looked at. -/
def plan (entry : OverlayEntry) : Except ConfigurationError OverlayPlan := do
  let service ← entry.serviceId
  let bootstrap ← entry.bootstrap.mapM bootstrapAddress
  let walks ← if entry.walk.enabled then entry.walk.settings.map ([·]) else .ok []
  return { settings := { service, bootstrap, maxPeers := limitOf entry.maxPeers }, walks }

end OverlayEntry

namespace Configuration

/-- The configuration of somebody who wrote nothing down. -/
def default (home : String) : Configuration := { keyFile := home ++ "/.ipv8/private_key" }

def listenAddress (configuration : Configuration) : Except ConfigurationError SocketAddress :=
  match SocketAddress.ofText configuration.listen with
  | .ok address => .ok address
  | .error cause => .error (.listen cause)

/-- The settings of the node; the overlays are looked at first. -/
def settings (configuration : Configuration) : Except ConfigurationError NodeSettings := do
  let overlays ← configuration.overlays.mapM OverlayEntry.plan
  let listen ← configuration.listenAddress
  return {
    listen, overlays
    walkInterval := Duration.ofSeconds configuration.walkInterval
    lanInterval := Duration.ofSeconds configuration.lanInterval }

def isLogLevel (level : String) : Bool :=
  logLevels.contains (String.ofList (level.toList.map Char.toLower))

def validate (configuration : Configuration) : Except ConfigurationError Unit := do
  let _ ← configuration.listenAddress
  if configuration.walkInterval = 0 then throw .walkInterval
  if configuration.lanInterval = 0 then throw .lanInterval
  if !isLogLevel configuration.logLevel then throw (.logLevel configuration.logLevel)
  let settings ← configuration.settings
  match settings.validate with
  | .ok () => return ()
  | .error cause => throw (.settings cause)

end Configuration

end PeerDiscovery
