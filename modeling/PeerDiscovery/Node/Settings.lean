import PeerDiscovery.Overlay.Basic

/-!
# Settings of a node, and what can go wrong with one

A node runs any number of overlays, which are told apart by their services.
-/

namespace PeerDiscovery

inductive NodeError where
  | alreadyStarted
  | notRunning
  | duplicateOverlay (service : ServiceId)
  | unknownOverlay (service : ServiceId)
  | invalidSettings (cause : SettingsError)
  | transport (cause : TransportError)
deriving DecidableEq

namespace NodeError

def message : NodeError → String
  | alreadyStarted => "IPv8 has already started"
  | notRunning => "IPv8 is not running"
  | duplicateOverlay service => "overlay " ++ service.text ++ " already exists"
  | unknownOverlay service => "no overlay for service " ++ service.text
  | invalidSettings cause => "invalid configuration: " ++ cause.message
  | transport cause => "transport error: " ++ cause.message

end NodeError

namespace OverlayPlan

def service (plan : OverlayPlan) : ServiceId := plan.settings.service

def validate (plan : OverlayPlan) : Except NodeError Unit :=
  match plan.settings.validate with
  | .ok () => .ok ()
  | .error cause => .error (.invalidSettings cause)

end OverlayPlan

/-- How a node behaves, and which overlays it starts with. -/
structure NodeSettings where
  listen : SocketAddress := .v4 ⟨.unspecified, 8090⟩
  walkInterval : Duration := Duration.ofSeconds 5
  lanInterval : Duration := Duration.ofSeconds 60
  overlays : List OverlayPlan := []

namespace NodeSettings

def validateOverlays (earlier : List ServiceId) : List OverlayPlan → Except NodeError Unit
  | [] => .ok ()
  | plan :: rest => do
    plan.validate
    if earlier.contains plan.service then throw (.duplicateOverlay plan.service)
    validateOverlays (plan.service :: earlier) rest

def validate (settings : NodeSettings) : Except NodeError Unit :=
  if settings.walkInterval = 0 then .error (.invalidSettings .walkInterval)
  else if settings.lanInterval = 0 then .error (.invalidSettings .lanInterval)
  else validateOverlays [] settings.overlays

end NodeSettings

end PeerDiscovery
