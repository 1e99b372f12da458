import ExvVpn.Win32Host.LogAggregator

/-!
# Listing the log

`log_control.rs`: `LogControlService::list` over the shared aggregator. Where the page is not the aggregator's own, it takes
the aggregator's lock twice: for the entries, and for the cursor of a page without entries.
-/

namespace ExvVpn.Win32Host

open RustStr LineFile

structure ListLogsRequest where
  afterSeq : Nat
  limit : Option Nat
  filter : Option Text

structure LogListReply where
  entries : List LogEntry
  nextSeq : Nat

/-- `effective_limit`: 100 if there is none, in the range from 1 to 500. -/
def effectiveLimit (limit : Option Nat) : Nat := max 1 (min (limit.getD 100) 500)

theorem effectiveLimit_pos (limit : Option Nat) : 0 < effectiveLimit limit :=
  Nat.lt_of_lt_of_le Nat.one_pos (Nat.le_max_left ..)

/-- `matches_filter`, with the case mapping of `str::to_lowercase` as a parameter. -/
def matchesFilter (toLowercase : Text → Text) (filter : Text) (entry : LogEntry) : Bool :=
  let needle := toLowercase filter
  (find needle (toLowercase entry.disk.level)).isSome || (find needle (toLowercase entry.disk.message)).isSome

def nextSeqAfter (entries : List LogEntry) (lastSeq : Nat) : Nat := entries.getLast?.elim (lastSeq + 1) (·.seq + 1)

namespace LogControlService

/-- What `list` has when it gives back the lock for the first time: the reply, or the entries of a page. -/
inductive Listing where
  | reply (reply : LogListReply)
  | page (entries : List LogEntry)

/-- `LogControlService::list` up to the first release of the lock. -/
def listEntries (toLowercase : Text → Text) (format : LineFormat DiskLogEntry) (inner : AggregatorInner)
    (req : ListLogsRequest) : Except LogAggError Listing :=
  let limit := effectiveLimit req.limit
  let filter := (req.filter.map trim).filter (!·.isEmpty)
  if filter.isSome || req.afterSeq = 0 then do
    let all ← inner.list format req.afterSeq 0
    let entries :=
      match filter with
      | some needle => all.entries.filter (matchesFilter toLowercase needle)
      | none => all.entries
    return .page (if req.afterSeq = 0 then entries.drop (entries.length - limit) else entries.take limit)
  else do
    let page ← inner.list format req.afterSeq limit
    return .reply ⟨page.entries, page.nextSeq⟩

/-- The rest of `list`, which reads the cursor of the aggregator as it is by then. -/
def listCursor (entries : List LogEntry) (inner : AggregatorInner) : LogListReply :=
  ⟨entries, nextSeqAfter entries inner.lastSeq⟩

end LogControlService

end ExvVpn.Win32Host
