import LightShow.Bridge.Address
import LightShow.Bridge.Answer
import LightShow.Bridge.Body
import LightShow.Settings.Bridge

/-!
Requests to a bridge and its responses as they go over the line.
-/

set_option autoImplicit false

namespace LightShow

/-- What the requests to a bridge have in common. -/
structure BridgeClient where
  host : String
  apiKey : String
  deriving DecidableEq, Repr

/-- The client of a bridge, which needs a host that is not blank. -/
def BridgeClient.create (settings : BridgeSettings) : Except BridgeSettingsError BridgeClient :=
  if isAllBlank settings.bridgeHost then .error .blankHost
  else .ok ⟨String.ofList (trimBlank settings.bridgeHost.toList), settings.apiKey⟩

/-- Asks a bridge for a light state. -/
structure StateRequest where
  address : BridgeAddress
  body : Body
  deriving DecidableEq, Repr

/-- The fields that are present, as a JSON text. -/
def Body.text (body : Body) : String :=
  let field (name : String) (value : Option String) : List String :=
    (value.map fun v => "\"" ++ name ++ "\":" ++ v).toList
  "\x7b" ++ ",".intercalate (field "bri" (body.bri.map toString)
    ++ field "hue" (body.hue.map toString)
    ++ field "sat" (body.sat.map toString)
    ++ field "transitiontime" (body.transition.map toString)) ++ "\x7d"

namespace StateRequest

def method : String := "PUT"

def contentType : String := "application/json"

/-- The request for a light, unless the host gives no address. -/
def ofBody? (client : BridgeClient) (light : String) (body : Body) : Option StateRequest := do
  return ⟨← BridgeAddress.ofLight? client.host client.apiKey light, body⟩

/-- The request as it is sent. -/
def text (request : StateRequest) : String :=
  let address := request.address
  let host := if address.port = 80 then address.host else s!"{address.host}:{address.port}"
  let body := request.body.text
  s!"{method} {address.target} HTTP/1.1\r\nhost: {host}\r\naccept: */*\r\n"
    ++ s!"content-type: {contentType}\r\ncontent-length: {body.utf8ByteSize}\r\n"
    ++ "connection: close\r\n\r\n" ++ body

end StateRequest

namespace Response

/-- The value of a header as it is understood: without the blanks around it, and not at all if it
holds anything but printable ASCII. -/
def headerValue? (value : String) : Option String :=
  let isGap (c : Char) : Bool := c == ' ' || c == '\t'
  let kept := ((value.toList.dropWhile isGap).reverse.dropWhile isGap).reverse
  if kept.all fun c => isGap c || (0x20 ≤ c.toNat && c.toNat < 0x7f) then
    some (String.ofList kept)
  else none

/-- What is understood of a response. -/
def received (status : UInt16) (retryAfter : Option String) : Response :=
  ⟨status, retryAfter.bind headerValue?⟩

/-- The name of a header and its value. -/
def splitHeader (line : List Char) : String × String :=
  (String.ofList ((line.takeWhile (· ≠ ':')).map Char.toLower),
    String.ofList ((line.dropWhile (· ≠ ':')).drop 1))

/-- Reads a status line. -/
def readStatus? (line : List Char) : Option UInt16 :=
  if "HTTP/1.".toList.isPrefixOf line then
    let digits := ((line.dropWhile (· ≠ ' ')).drop 1).take 3
    if digits.length = 3 ∧ digits.all isDecimalDigit then
      some (UInt16.ofNat (digitsValue 0 digits))
    else none
  else none

/-- Reads the head of a response: the status line and the headers up to an empty line. A byte is
taken for the character of its number. -/
def ofBytes? (bytes : List UInt8) : Option Response := do
  let chars := bytes.map fun b => Char.ofNat b.toNat
  let lines := (String.ofList (chars.filter (· ≠ '\r'))).splitOn "\n"
  let status ← readStatus? (lines.headD "").toList
  let headers := (lines.drop 1).takeWhile (· ≠ "")
  let header := headers.find? fun line => (splitHeader line.toList).1 = "retry-after"
  return received status (header.map fun line => (splitHeader line.toList).2)

end Response

end LightShow
