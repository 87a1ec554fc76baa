import Switchyard.Stream.Failure

/-!
# Failures on the object bus

What a client of the bus meets: no connection, a peer that breaks the protocol, or a status other
than zero.
-/

namespace Switchyard.Bus

/-- The part of a message that cannot be read. -/
inductive Part where
  /-- A fixed-width number that is cut short. -/
  | number
  /-- The length in the header of an attribute. -/
  | attributeLength
  /-- An attribute that should carry a name. -/
  | field
  /-- The name of a field. -/
  | fieldName
  /-- The header of a field. -/
  | fieldHeader
  /-- A text that is no UTF-8. -/
  | text
  /-- The length in the header of a message. -/
  | messageLength
  /-- A body too long for the length in the header of a message. -/
  | messageSize
  deriving DecidableEq

/-- The part in words. -/
def Part.message : Part → String
  | number => "short attribute"
  | attributeLength => "attribute length"
  | field => "expected blobmsg field"
  | fieldName => "blobmsg name"
  | fieldHeader => "blobmsg header"
  | text => "string attribute"
  | messageLength => "message length"
  | messageSize => "message too large"

/-- Why an exchange with the bus failed. -/
inductive Error where
  /-- The socket of the bus cannot be connected to. -/
  | connect (path : String) (e : IoError)
  /-- The connection failed. -/
  | io (e : IoError)
  /-- The bus closed the connection. -/
  | closed
  /-- The bus did not answer in time. -/
  | timeout
  /-- A message cannot be read. -/
  | malformed (part : Part)
  /-- A message lacks an attribute. -/
  | missing (id : UInt8)
  /-- The bus did not greet first. -/
  | noHello
  /-- A request was refused. -/
  | status (code : UInt32)
  deriving DecidableEq

namespace Error

/-- The error in words. -/
def message : Error → String
  | connect path e => "failed to connect to ubus socket '" ++ path ++ "': " ++ e.message
  | io e => "ubus socket error: " ++ e.message
  | closed => "ubus connection closed"
  | timeout => "timed out waiting for ubusd"
  | malformed part => "malformed ubus message: " ++ part.message
  | missing id => "ubus message lacks attribute " ++ toString id.toNat
  | noHello => "unexpected ubus message: expected hello"
  | status code => "ubus request failed with status " ++ toString code.toNat

end Error
end Switchyard.Bus
