import ExvVpn.DarwinEngine.RouteSocket

/-!
# Route requests and their acknowledgements

A routing socket delivers the messages of every process. A request takes the first one for its acknowledgement, so that it
returns the verdict of the kernel on its own message exactly when the first one carries the same error number.
-/

namespace ExvVpn.DarwinEngine.PlatformRoute

open LittleEndian

/-- The message is the kernel's reply to what the process has written: it has the type and the number of that and names the
process. -/
def answers (pid : Nat) (message reply : Bytes) : Bool :=
  decide (headerLen ≤ reply.length) && reply[3]? == message[3]? && scalarAt 16 reply == pid &&
    scalarAt 20 reply == scalarAt 20 message

/-- What a request should return, whatever else the socket delivers. -/
def matched (pid : Nat) (socket : RouteSocket) (message : Bytes) : Except RouteError Unit :=
  match socket message with
  | .error errno => .error ⟨.write, errno⟩
  | .ok delivered => ack (delivered.find? (answers pid message))

end ExvVpn.DarwinEngine.PlatformRoute
