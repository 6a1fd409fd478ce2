import QueryBridge.Service.Charset
import QueryBridge.Settings.Basic
import QueryBridge.Reply
import QueryBridge.Json.Writer
import QueryBridge.Session

/-!
# Exchanges with the service

A query is one POST request whose body is a JSON object with one field. Whatever
happens to the request, the exchange ends in an outcome: a reply is read whatever its
status, and anything short of a reply is a failure that names the address.
-/

set_option autoImplicit false

namespace QueryBridge.Service

/-- A reply on its way. -/
structure Response where
  status : Nat
  mediaType : Option String := none
  body : List UInt8
  /-- The number of octets that are announced and never sent. -/
  missing : Nat := 0
  delayMillis : Nat := 0
  deriving DecidableEq, Repr

/-- What the service does with a request. -/
inductive Behaviour where
  /-- Nothing listens at the address. -/
  | refuse
  /-- The connection is closed before the request is read. -/
  | close
  /-- The request is read and never answered. -/
  | hang
  | reply (response : Response)
  deriving DecidableEq, Repr

/-- The service as a client meets it. -/
structure Network where
  behaviour : Behaviour
  /-- Whether connections to the service come about at all. -/
  reachable : Bool
  deriving DecidableEq, Repr

/-- A request as the service receives it. -/
structure Delivery where
  target : String
  body : String
  deriving DecidableEq, Repr

namespace Delivery

/-- The method of every request. -/
def method : String := "POST"

/-- The media type of every request. -/
def mediaType : String := "application/json"

end Delivery

/-- Where requests go, and how long one may take. -/
structure Client where
  endpoint : String
  timeoutMillis : Nat
  deriving DecidableEq, Repr

/-- The client for settings. -/
def Client.ofConnection (connection : Connection) : Client :=
  ⟨connection.endpoint, connection.timeoutSecs * 1000⟩

/-- How an attempt to send a request ends. -/
structure Attempt where
  reply : Except TransportError String
  delivery : Option Delivery
  deriving Repr

namespace Attempt

/-- The outcome of an attempt. -/
def outcome (attempt : Attempt) : Outcome :=
  .ofReply attempt.reply

/-- An attempt that broke down with nothing received by the service. -/
def unsent (url reason : String) : Attempt :=
  ⟨.error (.unreachable url reason), none⟩

end Attempt

/-- Whether a host can stand in the head of a request. -/
def isSendable (address : Url.WebAddress) : Bool :=
  !address.authority.host.write.any ['\x22', '\x60', '\x7b', '\x7d'].contains

/-- The body of a request. -/
def bodyOf (request : Request) : String :=
  String.ofList (Json.quoteField request.direction.requestField.toList request.text.toList)

/-- A remark on what failed at an address, which is shown without the user. -/
def remark (what : String) (address : Url.WebAddress) : String :=
  what ++ " for url (" ++ String.ofList address.withoutUser.write ++ ")"

/-- What comes of a request that the service has read. -/
def awaitReply (client : Client) (behaviour : Behaviour) (d : Direction) (url : String)
    (address : Url.WebAddress) : Except TransportError String :=
  match behaviour with
  | .refuse | .close => .error (.unreachable url (remark "error sending request" address))
  | .hang => .error (.timeout url)
  | .reply response =>
    if client.timeoutMillis ≤ response.delayMillis then .error (.timeout url)
    else if 0 < response.missing then
      .error (.unreachable url (remark "error decoding response body" address))
    else Reply.read d response.status (Charset.decode response.mediaType response.body)

/-- Whether the service gets to read a request. -/
def Network.isRead (network : Network) : Bool :=
  network.reachable &&
    match network.behaviour with
    | .refuse | .close => false
    | .hang | .reply _ => true

/-- The address that requests of a direction go to, or why none can be built. -/
def Client.destination (client : Client) (d : Direction) : Except String Url.WebAddress :=
  match Url.parse (Endpoint.url client.endpoint d).toList with
  | .error _ | .ok (.other _) => .error "builder error"
  | .ok (.web address) =>
    if isSendable address then .ok address else .error (remark "builder error" address)

/-- A request as it goes to an address. -/
def deliveryOf (address : Url.WebAddress) (request : Request) : Delivery :=
  ⟨String.ofList address.target, bodyOf request⟩

/-- One exchange. -/
def Client.exchange (client : Client) (network : Network) (request : Request) : Attempt :=
  let url := Endpoint.url client.endpoint request.direction
  match client.destination request.direction with
  | .error reason => .unsent url reason
  | .ok address =>
    if network.isRead then
      ⟨awaitReply client network.behaviour request.direction url address,
        some (deliveryOf address request)⟩
    else .unsent url (remark "error sending request" address)

end QueryBridge.Service
