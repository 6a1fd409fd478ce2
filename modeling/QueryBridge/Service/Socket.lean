import QueryBridge.Service.Message
import Std.Async.TCP
import Std.Async.DNS
import Std.Async.Timer

/-!
# Connections

The part of the outer layer that talks to the service. It carries octets there and
back; what they mean is settled in `Service.Message`. It knows no encryption, so
nothing answers behind a secure address.
-/

set_option autoImplicit false

namespace QueryBridge.Service.Socket

open Std.Net
open Std.Async (Async)

/-- The number of the service that an address asks for. -/
def serviceNumber (address : Url.WebAddress) : Nat :=
  address.authority.service.getD (Url.defaultService address.secure)

/-- An octet of an IPv4 address, counted from the lowest. -/
def octetOf (address place : Nat) : UInt8 :=
  (address / Nat.pow 256 place).toUInt8

/-- A piece of an IPv6 address. -/
def pieceOf (pieces : List Nat) (place : Nat) : UInt16 :=
  (pieces.getD place 0).toUInt16

/-- The addresses of a host. -/
def addressesOf (host : Url.Host) (service : Nat) : Async (Array IPAddr) :=
  match host with
  | .ipv4 a => return #[.v4 (.ofParts (octetOf a 3) (octetOf a 2) (octetOf a 1) (octetOf a 0))]
  | .ipv6 pieces =>
    let p := pieceOf pieces
    return #[.v6 (.ofParts (p 0) (p 1) (p 2) (p 3) (p 4) (p 5) (p 6) (p 7))]
  | .domain name => Std.Async.DNS.getAddrInfo (String.ofList name) (toString service)

/-- A place to connect to. -/
def placeOf (service : Nat) : IPAddr → SocketAddress
  | .v4 address => .v4 ⟨address, service.toUInt16⟩
  | .v6 address => .v6 ⟨address, service.toUInt16⟩

/-- A connection to the first place that takes one. -/
def connect? : List SocketAddress → Async (Option Std.Async.TCP.Socket.Client)
  | [] => return none
  | place :: rest => do
    try
      let socket ← Std.Async.TCP.Socket.Client.mk
      socket.connect place
      return some socket
    catch _ => connect? rest

/-- The most octets that are taken at once. -/
def portion : UInt64 := 65536

/-- Takes octets until they tell what the service did. -/
partial def listen (socket : Std.Async.TCP.Socket.Client) (before : ByteArray) :
    Async Behaviour := do
  let arrived ← try socket.recv? portion catch _ => pure none
  match arrived with
  | none => return (Message.observed true before.toList).getD .close
  | some octets =>
    let all := before ++ octets
    match Message.observed false all.toList with
    | some behaviour => return behaviour
    | none => listen socket all

/-- Sends a request and waits for what comes of it. -/
def converse (address : Url.WebAddress) (request : Request) : Async Behaviour := do
  if address.secure then return .refuse
  let service := serviceNumber address
  let found ← try addressesOf address.authority.host service catch _ => pure #[]
  match ← connect? (found.toList.map (placeOf service)) with
  | none => return .refuse
  | some socket =>
    try
      let octets := Message.octets address.authority (deliveryOf address request)
      socket.send ⟨octets.toArray⟩
      listen socket .empty
    catch _ => return .close

/-- The longest time that is waited for, which is a year. -/
def maxMillis : Nat := 31536000000

/-- Waits for a time, and then gives the service up. -/
def patience (client : Client) : Async Behaviour := do
  Std.Async.sleep (.ofNat (min client.timeoutMillis maxMillis))
  return .hang

instance : Inhabited Behaviour := ⟨.hang⟩

/-- The network as a request meets it. -/
def encounter (client : Client) (request : Request) : IO Network := do
  match client.destination request.direction with
  | .error _ => return ⟨.refuse, false⟩
  | .ok address =>
    let behaviour ← (Async.race (converse address request) (patience client)).block
    return ⟨behaviour, true⟩

end QueryBridge.Service.Socket
