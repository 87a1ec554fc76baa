import Switchyard.Settings.AllowList
import Switchyard.Settings.Choice
import Switchyard.Settings.Endpoint

/-!
# Settings

Everything that can be chosen about the daemon. Each setting has a value to begin with; a document
replaces some of them, and members that are no settings are passed over.
-/

namespace Switchyard

/-- The settings of the daemon. -/
structure Settings where
  bus : Settings.BusKind
  /-- Where requests come in. -/
  daemonSocket : Settings.Endpoint
  /-- Where a subscriber for notifications listens. -/
  notificationSocket : Settings.Endpoint
  /-- The socket of the object bus. -/
  ubusSocket : String
  /-- Whether one worker serves all modules on the object bus. -/
  ubusSingle : Bool
  /-- The host of the pub/sub broker. -/
  mqttHost : String
  mqttPort : Nat
  /-- The id of the controller in topics. -/
  controllerId : String
  /-- The list of allowed modules. -/
  modules : Option String
  /-- The directory that absolute programs are taken from. -/
  cmdlineRoot : Option String
  /-- How many processes are kept. -/
  processBuffer : Nat
  /-- Milliseconds between two looks at a bus. -/
  pollInterval : Nat
  logFilter : String
  logFormat : Settings.LogFormat
  deriving DecidableEq

namespace Settings

/-- The settings to begin with; the sockets are in a directory of their own. -/
def initial (directory : String) : Settings where
  bus := .unixSocket
  daemonSocket := .unix (directory ++ "/cfgbusd.sock")
  notificationSocket := .unix (directory ++ "/notifications.sock")
  ubusSocket := "/var/run/ubus.sock"
  ubusSingle := false
  mqttHost := "127.0.0.1"
  mqttPort := 1883
  controllerId := "local"
  modules := none
  cmdlineRoot := none
  processBuffer := 20
  pollInterval := 500
  logFilter := "info"
  logFormat := .json

/-- The directory of the sockets: the user's own one for running programs, or else one for the user
among the temporary files. -/
def socketDirectory (runtime : Option String) (temporary : String) (user : Nat) : String :=
  match runtime with
  | some d => d ++ "/cfgbus"
  | none => temporary ++ "/cfgbus/uid-" ++ toString user

/-- How many processes are kept: at least one. -/
def keptProcesses (s : Settings) : Nat :=
  max s.processBuffer 1

/-- The names of the modules that are allowed; an empty list allows all. -/
def allowedModules (s : Settings) : List String :=
  allowList s.modules

/-- The settings as they are read, on top of others. -/
def shape (start : Settings) : Json.Decoder.Record Settings where
  name := "Config"
  start := start
  fields :=
    [.of "bus" false BusKind.decoder fun x s => { s with bus := x },
     .of "daemon_socket" false Endpoint.decoder fun x s => { s with daemonSocket := x },
     .of "notification_socket" false Endpoint.decoder fun x s => { s with notificationSocket := x },
     .of "ubus_socket" false Endpoint.pathDecoder fun x s => { s with ubusSocket := x },
     .of "ubus_single" false .bool fun x s => { s with ubusSingle := x },
     .of "mqtt_host" false .string fun x s => { s with mqttHost := x },
     .of "mqtt_port" false (.natBelow 65536 "u16") fun x s => { s with mqttPort := x },
     .of "mqtt_controller_id" false .string fun x s => { s with controllerId := x },
     .of "modules" false (.option .string) fun x s => { s with modules := x },
     .of "cmdline_root" false (.option Endpoint.pathDecoder) fun x s => { s with cmdlineRoot := x },
     .of "process_buffer" false (.natBelow 0x10000000000000000 "usize") fun x s =>
       { s with processBuffer := x },
     .of "poll_interval_ms" false (.natBelow 0x10000000000000000 "u64") fun x s =>
       { s with pollInterval := x },
     .of "log_filter" false .string fun x s => { s with logFilter := x },
     .of "log_format" false LogFormat.decoder fun x s => { s with logFormat := x }]

/-- Reads settings in a document. -/
def decoder (start : Settings) : Json.Decoder Settings :=
  .record (shape start)

/-- The members of settings in a document. -/
def members (s : Settings) : Json.Members :=
  let text (t : Option String) := (t.map Json.string).getD .null
  [("bus", .string s.bus.spelling),
   ("daemon_socket", .object s.daemonSocket.members),
   ("notification_socket", .object s.notificationSocket.members),
   ("ubus_socket", .string s.ubusSocket),
   ("ubus_single", .bool s.ubusSingle),
   ("mqtt_host", .string s.mqttHost),
   ("mqtt_port", .nat s.mqttPort),
   ("mqtt_controller_id", .string s.controllerId),
   ("modules", text s.modules),
   ("cmdline_root", text s.cmdlineRoot),
   ("process_buffer", .nat s.processBuffer),
   ("poll_interval_ms", .nat s.pollInterval),
   ("log_filter", .string s.logFilter),
   ("log_format", .string s.logFormat.spelling)]

end Settings
end Switchyard
