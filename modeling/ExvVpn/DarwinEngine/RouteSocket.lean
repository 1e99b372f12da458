import ExvVpn.DarwinEngine.Ledger
import ExvVpn.Tools.LittleEndian

/-!
# Route requests on the routing socket

`platform/route.rs` of `exv-vpn-darwin-engine`: a request opens a routing socket, writes its message and reads one message
back. The scalars of a header are in host order, which is little-endian.
-/

namespace ExvVpn.DarwinEngine.PlatformRoute

open LittleEndian

/-- The step of a request that failed, the text of the source's error. -/
inductive RouteStage
  | socket
  | write
  | ack
deriving DecidableEq, Repr

/-- `PlatformError::Route`, with the 32 bits of the error number. -/
structure RouteError where
  stage : RouteStage
  errno : Nat
deriving DecidableEq, Repr

/-- What the kernel makes of a message that is written: the error of the write, or the messages that the socket delivers
until the time is up, those of other processes among them. -/
abbrev RouteSocket := Bytes → Except Nat (List Bytes)

def rtmDelete : UInt8 := 2

def rtmChange : UInt8 := 3

def esrch : Nat := 3

def eio : Nat := 5

/-- The size of `rt_msghdr`. -/
def headerLen : Nat := 92

def sockaddrIn (address : Nat) : Bytes := [16, 2, 0, 0] ++ BigEndian.toBytes 4 address ++ List.replicate 8 0

/-- The shift by 32 for prefix 0 is one by 0 unless overflow is checked. -/
def prefixToMask (prefixLength : Nat) : Nat := (2 ^ 32 - 1) * 2 ^ ((32 - prefixLength) % 32) % 2 ^ 32

/-- A request with an interface index above 16 bits panics in the source; here the index is cut. -/
def routeMessage (kind : UInt8) (seq : Nat) (route : AppliedRoute) : Bytes :=
  toBytes 2 (headerLen + 48) ++ [5, kind] ++ toBytes 2 route.ifindex ++ [0, 0] ++
    -- flags UP, GATEWAY and STATIC, the three addresses, no process, the number of the request
    toBytes 4 0x13 ++ toBytes 4 7 ++ toBytes 4 0 ++ toBytes 4 seq ++ List.replicate 68 0 ++
    sockaddrIn route.destination ++ sockaddrIn route.gateway ++ sockaddrIn (prefixToMask route.prefixLength)

/-- The number at an offset of a message. -/
def scalarAt (offset : Nat) (message : Bytes) : Nat := ofBytes ((message.drop offset).take 4)

/-- The error number that `write_and_ack_inner` reads off what it has received into its 512 bytes; a message that is shorter
than a header, or none, counts as an input error. -/
def ackErrno (received : Option Bytes) : Nat :=
  let reply := (received.getD []).take 512
  if reply.length < headerLen then eio else scalarAt 24 reply

def ack (received : Option Bytes) : Except RouteError Unit :=
  if ackErrno received ≠ 0 then .error ⟨.ack, ackErrno received⟩ else .ok ()

def writeAndAckInner (socket : RouteSocket) (message : Bytes) : Except RouteError Unit :=
  match socket message with
  | .error errno => .error ⟨.write, errno⟩
  | .ok delivered => ack delivered.head?

/-- A request: its socket is opened, or the error of that. -/
def request (kind : UInt8) (socket : Except Nat RouteSocket) (route : AppliedRoute) : Except RouteError Unit :=
  match socket with
  | .error errno => .error ⟨.socket, errno⟩
  | .ok socket => writeAndAckInner socket (routeMessage kind 1 route)

def change : Except Nat RouteSocket → AppliedRoute → Except RouteError Unit := request rtmChange

/-- A route that is not there counts as deleted. -/
def deleted (result : Except RouteError Unit) : Except RouteError Unit :=
  if result = .error ⟨.ack, esrch⟩ then .ok () else result

def delete (socket : Except Nat RouteSocket) (route : AppliedRoute) : Except RouteError Unit :=
  deleted (request rtmDelete socket route)

end ExvVpn.DarwinEngine.PlatformRoute
