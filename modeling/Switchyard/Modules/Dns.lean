import Switchyard.Route.Module

/-!
# The resolver module

Three switches, held in memory. `get_settings` answers them, `update_settings` replaces them and
raises an event with the payload it was given.
-/

namespace Switchyard.Modules.Dns

open Route

/-- The resolver's switches. -/
structure Settings where
  /-- Whether queries go on to other resolvers. -/
  forwarding : Bool
  /-- Whether signatures are checked. -/
  dnssec : Bool
  /-- Whether the names of leased clients resolve. -/
  fromDhcp : Bool
  deriving DecidableEq

/-- The switches at start. -/
def Settings.initial : Settings :=
  ⟨true, true, false⟩

/-- The keys of the switches, in the order they are declared. -/
def keys : List String :=
  ["forwarding_enabled", "dnssec_enabled", "dns_from_dhcp_enabled"]

/-- The switches as a value. -/
def Settings.toJson (s : Settings) : Json :=
  .ofMembers
    [("forwarding_enabled", .bool s.forwarding), ("dnssec_enabled", .bool s.dnssec),
      ("dns_from_dhcp_enabled", .bool s.fromDhcp)]

/-- The record type as it is read. -/
def Settings.shape : Json.Decoder.Record Settings where
  name := "DnsSettings"
  start := .initial
  fields :=
    [.of "forwarding_enabled" true .bool fun b s => { s with forwarding := b },
     .of "dnssec_enabled" true .bool fun b s => { s with dnssec := b },
     .of "dns_from_dhcp_enabled" true .bool fun b s => { s with fromDhcp := b }]

/-- The switches that a value spells. -/
def Settings.ofJson (j : Json) : Except Json.Cause Settings :=
  (Json.Decoder.record shape).value j

/-- The declared actions. -/
def actions : List Action :=
  [⟨"get_settings", false, none, ⟨keys, []⟩⟩,
   ⟨"update_settings", true, some ⟨keys, []⟩, ⟨["result"], []⟩⟩]

/-- Handles an action. -/
def handle (action : String) (data : Option Json) (s : Settings) : Handling Settings :=
  let failed (e : HandlerError) : Handling Settings := ⟨s, .failed e, [], [], 0⟩
  if action = "get_settings" then ⟨s, .returned s.toJson, [], [], 0⟩
  else if action = "update_settings" then
    match data with
    | none => failed (.invalidData "settings are missing")
    | some data =>
      match Settings.ofJson data with
      | .error c => failed (.invalidData c.message)
      | .ok s =>
        ⟨s, .returned (.object [("result", .bool true)]), [("update_settings", some data)], [], 0⟩
  else failed (.failed ("unsupported action '" ++ action ++ "'"))

/-- The module, with its switches as at start. -/
def module : Module :=
  .passive "dns" actions Settings.initial handle

end Switchyard.Modules.Dns
