import Switchyard.Files.Tree
import Switchyard.Json.Tagged
import Switchyard.Url.Basic

/-!
# Endpoints

Where a socket is: a path in the file system, or a host and a port.

* `Endpoint.render` writes one as a URL, `Endpoint.parse` reads a URL or a path from the root.
* `Endpoint.decoder` reads the form in documents, `Endpoint.toJson` writes it.
* `Endpoint.prepare` makes the directory that a path needs, so that only its owner can use it.
-/

namespace Switchyard.Settings

/-- Where a socket is. -/
inductive Endpoint where
  | unix (path : String)
  | tcp (host : String) (port : UInt16)
  deriving DecidableEq

/-- Why a text is no endpoint. -/
inductive EndpointError where
  | unsupportedScheme (scheme : String)
  | missingHost (text : String)
  | missingPort (text : String)
  | missingPath (text : String)
  | url (e : Url.Error)
  deriving DecidableEq

/-- The error in words. -/
def EndpointError.message : EndpointError → String
  | unsupportedScheme scheme => "unsupported socket scheme '" ++ scheme ++ "'"
  | missingHost text => "missing TCP host in '" ++ text ++ "'"
  | missingPort text => "missing TCP port in '" ++ text ++ "'"
  | missingPath text => "missing Unix socket path in '" ++ text ++ "'"
  | url e => e.message

namespace Endpoint

/-- The path, if there is one. -/
def path? : Endpoint → Option String
  | unix path => some path
  | tcp .. => none

/-! ### As text -/

/-- An endpoint as a URL. -/
def render : Endpoint → String
  | unix path => "unix://" ++ path
  | tcp host port => "tcp://" ++ host ++ ":" ++ toString port.toNat

/-- The endpoint that a URL stands for. -/
def ofUrl (text : String) (u : Url) : Except EndpointError Endpoint :=
  if u.scheme = "unix" then
    if u.path.isEmpty then .error (.missingPath text) else .ok (unix u.path)
  else if u.scheme = "tcp" then
    match u.host, u.port with
    | none, _ => .error (.missingHost text)
    | some _, none => .error (.missingPort text)
    | some host, some port => .ok (tcp host (UInt16.ofNat port))
  else .error (.unsupportedScheme u.scheme)

/-- Reads an endpoint; a path from the root is taken as it is. -/
def parse (text : String) : Except EndpointError Endpoint :=
  if Files.isAbsolute text then .ok (unix text)
  else
    match Url.parse text with
    | .error e => .error (.url e)
    | .ok u => ofUrl text u

/-! ### In documents -/

/-- A path as it is read. -/
def pathDecoder : Json.Decoder String :=
  .textual "a UTF-8 path string" .ok

/-- A port as it is read. -/
def portDecoder : Json.Decoder UInt16 :=
  (Json.Decoder.natBelow 65536 "u16").map UInt16.ofNat

/-- An endpoint with another path. -/
def setPath (path : String) (_ : Endpoint) : Endpoint := unix path

/-- An endpoint with another host. -/
def setHost (host : String) : Endpoint → Endpoint
  | tcp _ port => tcp host port
  | unix _ => tcp host 0

/-- An endpoint with another port. -/
def setPort (port : UInt16) : Endpoint → Endpoint
  | tcp host _ => tcp host port
  | unix _ => tcp "" port

/-- The record types of the two kinds. -/
def variants : List (String × Json.Decoder.Record Endpoint) :=
  [("unix", ⟨"variant SocketEndpoint::Unix", unix "", [.of "path" true pathDecoder setPath]⟩),
   ("tcp", ⟨"variant SocketEndpoint::Tcp", tcp "" 0,
     [.of "host" true .string setHost, .of "port" true portDecoder setPort]⟩)]

/-- Reads an endpoint in a document. -/
def decoder : Json.Decoder Endpoint :=
  .tagged "transport" "SocketEndpoint" variants

/-- The members of an endpoint in a document. -/
def members : Endpoint → Json.Members
  | unix path => [("transport", .string "unix"), ("path", .string path)]
  | tcp host port =>
    [("transport", .string "tcp"), ("host", .string host), ("port", .nat port.toNat)]

/-! ### Its directory -/

/-- Why the directory of a socket could not be made. -/
inductive PrepareError where
  | missingParent (path : String)
  | createDirectory (path : String) (e : IoError)
  deriving DecidableEq

/-- The error in words. -/
def PrepareError.message : PrepareError → String
  | missingParent path => "socket path '" ++ path ++ "' has no parent directory"
  | createDirectory path e =>
    "failed to create socket directory '" ++ path ++ "': " ++ e.message

/-- The permission bits of a directory that only its owner can use. -/
def privateMode : Nat := 0o700

/-- Makes the directory of the path, with all that are missing above it. Something else in its
place is left for the listener to find. -/
def prepare (t : Files.Tree) : Endpoint → Except PrepareError Unit × Files.Tree
  | tcp .. => (.ok (), t)
  | unix path =>
    match Files.parent? path with
    | none | some "" => (.error (.missingParent path), t)
    | some parent =>
      match t.makeDirectories privateMode parent with
      | (.ok (), t) => (.ok (), t)
      | (.error e, t) =>
        (if e = .alreadyExists then .ok () else .error (.createDirectory parent e), t)

end Endpoint
end Switchyard.Settings
