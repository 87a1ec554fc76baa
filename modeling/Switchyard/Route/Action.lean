import Switchyard.Route.Failure
import Switchyard.Text.Quoted

/-!
# Actions and their payloads

* An `Action` declares its name, whether it changes anything, and which keys its payload and its
  answer may have.
* `checkEnvelope` holds a value against the rules of an envelope, `checkRequest` and `checkReply`
  hold payloads against an action. The first rule that is broken is reported: of missing keys the
  first declared one, of unexpected keys the least.
-/

namespace Switchyard.Route

/-- Which keys a payload has. -/
structure Shape where
  /-- Keys that must be there. -/
  required : List String
  /-- Keys that may be there. -/
  optional : List String
  deriving DecidableEq, Inhabited

/-- Whether a key is declared. -/
def Shape.allows (shape : Shape) (key : String) : Bool :=
  shape.required.contains key || shape.optional.contains key

/-- The declaration of one action. -/
structure Action where
  name : String
  /-- Whether it changes the configuration; only then are its events sent. -/
  mutating : Bool
  /-- The payload of a request; `none` if there must be none. -/
  request : Option Shape
  /-- The payload of a successful reply. -/
  reply : Shape
  deriving DecidableEq, Inhabited

/-! ### Checks -/

/-- The keys of an envelope. -/
def envelopeKeys : List String :=
  ["module", "action", "kind", "data", "errors"]

/-- The kinds of an envelope, as they are spelled. -/
def kinds : List String :=
  MessageKind.spellings.map (·.1)

/-- The text of a member that must be a string. -/
def textMember (members : Json.Members) (key : String) : Except Violation String :=
  match Json.lookup? key members with
  | some (.string s) => .ok s
  | some _ => .error ⟨key, "must be a string"⟩
  | none => .error ⟨"$", "missing key '" ++ key ++ "'"⟩

/-- Holds a value against the rules of an envelope. -/
def checkEnvelope (j : Json) : Except Violation Unit := do
  let some members := j.object? | throw ⟨"$", "envelope must be an object"⟩
  if let some (key, _) := members.find? fun (key, _) => !envelopeKeys.contains key then
    throw ⟨"$", "unexpected key '" ++ key ++ "'"⟩
  let _ ← textMember members "module"
  let _ ← textMember members "action"
  let kind ← textMember members "kind"
  if !kinds.contains kind then
    throw ⟨"kind", "'" ++ kind ++ "' is not one of " ++ Text.quoteList kinds⟩
  if let some data := Json.lookup? "data" members then
    if !data.isObject then throw ⟨"data", "must be an object"⟩

/-- Holds a payload, called `path` in reports, against a shape. -/
def checkShape (path : String) (shape : Shape) (data : Json) : Except Violation Unit := do
  let some members := data.object? | throw ⟨path, "must be an object"⟩
  if let some key := shape.required.find? fun key => (Json.lookup? key members).isNone then
    throw ⟨path, "missing key '" ++ key ++ "'"⟩
  if let some (key, _) := members.find? fun (key, _) => !shape.allows key then
    throw ⟨path, "unexpected key '" ++ key ++ "'"⟩

/-- Holds the payload of a request against an action. -/
def checkRequest (action : Action) (data : Option Json) : Except Violation Unit :=
  match action.request, data with
  | none, none => .ok ()
  | none, some _ => .error ⟨"data", "action '" ++ action.name ++ "' takes no data"⟩
  | some shape, some data => checkShape "data" shape data
  | some shape, none =>
    if shape.required.isEmpty then .ok ()
    else .error ⟨"data", "action '" ++ action.name ++ "' requires data"⟩

/-- Holds a handler's answer against an action. -/
def checkReply (action : Action) (data : Json) : Except Violation Unit :=
  checkShape "reply.data" action.reply data

end Switchyard.Route
