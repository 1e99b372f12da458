import ExvVpn.Cstp.ReadTask

/-!
# The loop of the writer thread

The writer thread of `data_plane.rs`, as far as it decides why the session ended: the two drains of the control channel, the
look at the write channel, the poll of the data channel and the report. What each look finds is data of a round; keepalives,
probes, counters and log lines are left out.
-/

namespace ExvVpn.EngineDataPlane

open Cstp

variable {ε : Type}

inductive EventAction (ε : Type) where
  | probeRtt
  | replyDpd
  | ignore
  | warnUnknownKind (kind : UInt8)
  | stashSessionEnd (reason : SessionEndReason ε)

/-- `control_event_action`, with the unknown kinds seen so far. -/
def controlEventAction (event : CstpControlEvent ε) (seenUnknownKinds : List UInt8) : EventAction ε × List UInt8 :=
  match event with
  | .dpdResponse => (.probeRtt, seenUnknownKinds)
  | .control kind _ =>
    if kind = 0x03 then (.replyDpd, seenUnknownKinds)
    else if kind = 0x07 ∨ kind = 0x05 ∨ kind = 0x09 ∨ kind ∈ seenUnknownKinds then (.ignore, seenUnknownKinds)
    else (.warnUnknownKind kind, seenUnknownKinds ++ [kind])
  | .sessionEnded reason => (.stashSessionEnd reason, seenUnknownKinds)
  | .writeFailed error => (.stashSessionEnd (.io error), seenUnknownKinds)
  | .ioDiagnostics _ => (.ignore, seenUnknownKinds)

/-- The variables of the loop. -/
structure Writer (ε : Type) where
  seenUnknownKinds : List UInt8
  sessionEnd : Option (SessionEndReason ε)

def Writer.new : Writer ε := ⟨[], none⟩

/-- One event of the drain at the head of a round. -/
def Writer.handle (w : Writer ε) (event : CstpControlEvent ε) : Writer ε :=
  match controlEventAction event w.seenUnknownKinds with
  | (.stashSessionEnd reason, seen) => ⟨seen, w.sessionEnd.or (some reason)⟩
  | (_, seen) => { w with seenUnknownKinds := seen }

/-- The end of the session that an event reports. -/
def ended : CstpControlEvent ε → Option (SessionEndReason ε)
  | .sessionEnded reason => some reason
  | _ => none

/-- One event of the drain behind the close of the data channel, where a failed write is only logged. -/
def finalDrain (sessionEnd : Option (SessionEndReason ε)) (event : CstpControlEvent ε) : Option (SessionEndReason ε) :=
  sessionEnd.or (ended event)

/-- The poll of the data channel: nothing, a packet with the error of its send, or the close, with what the second drain finds. -/
inductive DataPoll (ε : Type) where
  | empty
  | packet (sendError : Option UInt32)
  | closed (drained : List (CstpControlEvent ε))

/-- What one round of the loop finds. `writeClosed` is the error of the reason that the loop makes up when the write channel is
closed: a `BrokenPipe`, whatever has closed it. -/
structure Round (ε : Type) where
  drained : List (CstpControlEvent ε)
  writeClosed : Option ε
  poll : DataPoll ε

inductive ExitReason where
  | sessionTerminated
  | readChannelClosed
  | wintunSendFailed

/-- The arguments of `failure.report`. -/
structure Report (ε : Type) where
  exitReason : ExitReason
  code : Option UInt32
  sessionEnd : Option (SessionEndReason ε)

def errorBufferOverflow : UInt32 := 111

/-- One round: the loop goes on, or it ends with a report. -/
def writerRound (w : Writer ε) (round : Round ε) : Except (Report ε) (Writer ε) :=
  let w := round.drained.foldl Writer.handle w
  match w.sessionEnd.or (round.writeClosed.map .io) with
  | some reason => .error ⟨.sessionTerminated, none, some reason⟩
  | none =>
    match round.poll with
    | .empty | .packet none => .ok w
    | .packet (some code) =>
      if code = errorBufferOverflow then .ok w else .error ⟨.wintunSendFailed, some code, none⟩
    | .closed drained => .error ⟨.readChannelClosed, none, drained.foldl finalDrain w.sessionEnd⟩

/-- The rounds of the loop up to its report; a writer that is told to stop reports nothing. -/
def writerLoop (w : Writer ε) : List (Round ε) → Option (Report ε)
  | [] => none
  | round :: rounds =>
    match writerRound w round with
    | .ok w => writerLoop w rounds
    | .error report => some report

end ExvVpn.EngineDataPlane
