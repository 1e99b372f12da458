import ExvVpn.Journal.Codec

/-! # The system-proxy journal

The engine's journal over one file: `WinJournalStore` of `exv-vpn-win32-resource` and `SystemProxyJournal` of
`exv-vpn-win32-engine`. What the file system does during an operation is an argument of it. -/

namespace ExvVpn.Journal

open Incremental

/-- The result of reading the journal back from disk. -/
inductive RecoverOutcome where
  | clean (records : List JournalRecord)
  | tornTail (records : List JournalRecord)
  | corrupt (offset : Nat)
  deriving DecidableEq

/-- The records a reader works on; a corrupt journal has none. -/
def RecoverOutcome.records : RecoverOutcome → Option (List JournalRecord)
  | .clean records => some records
  | .tornTail records => some records
  | .corrupt _ => none

/-- Read the whole journal and classify it. -/
def recover (H : Hash) (file : Bytes) : RecoverOutcome :=
  match decode H file with
  | .clean records => .clean records
  | .tornTail records => .tornTail records
  | .corrupt _ offset => .corrupt offset

/-- The journal directory: the journal file and the corrupt files moved out of its way. -/
structure Disk where
  file : Bytes
  quarantined : List Bytes
  deriving DecidableEq

/-- The journal: a store that is open or disabled, over its directory. -/
structure SystemProxyJournal where
  enabled : Bool
  disk : Disk
  deriving DecidableEq

/-- What the file system does while a corrupt file is moved away. -/
structure QuarantineIo where
  renameOk : Bool
  reopenOk : Bool
  deriving DecidableEq

/-- What the file system does during a compaction. -/
inductive CompactIo where
  /-- The file is replaced. -/
  | ok
  /-- The call fails; `replaced` tells whether the file was replaced before that, `reopenOk` whether the store reopens. -/
  | failed (replaced reopenOk : Bool)
  deriving DecidableEq

/-- What the file system does during one `append_step`. -/
structure AppendIo where
  recoverOk : Bool
  quarantine : QuarantineIo
  /-- `none`: the frame is written and flushed; `some n`: the call fails with `n` bytes of it at the end of the file. -/
  write : Option Nat
  deriving DecidableEq

/-- What the file system does during one `replay_pending`. -/
structure ReplayIo where
  recoverOk : Bool
  quarantine : QuarantineIo
  repair : CompactIo
  compact : CompactIo
  deriving DecidableEq

/-- Everything succeeds. -/
def QuarantineIo.good : QuarantineIo := ⟨true, true⟩

/-- Everything succeeds. -/
def AppendIo.good : AppendIo := ⟨true, .good, none⟩

/-- Everything succeeds. -/
def ReplayIo.good : ReplayIo := ⟨true, .good, .ok, .ok⟩

namespace SystemProxyJournal

/-- Put a corrupt file out of the way and start a fresh one; any failure disables the journal. -/
def quarantineLocked (io : QuarantineIo) (j : SystemProxyJournal) : Bool × SystemProxyJournal :=
  if !io.renameOk then (false, { j with enabled := false })
  else (io.reopenOk, ⟨io.reopenOk, ⟨[], j.disk.quarantined ++ [j.disk.file]⟩⟩)

/-- Write a frame at the end of the file. -/
def appendSynced (write : Option Nat) (j : SystemProxyJournal) (record : JournalRecord) : Bool × SystemProxyJournal :=
  match write with
  | none => (true, { j with disk := { j.disk with file := j.disk.file ++ encode record } })
  | some n => (false, { j with disk := { j.disk with file := j.disk.file ++ (encode record).take n } })

/-- The file of some records, one frame after another. -/
def encodeAll (records : List JournalRecord) : Bytes := (records.map encode).flatten

/-- Replace the file by the kept records; after a failure the store is reopened or disabled. -/
def compact (io : CompactIo) (j : SystemProxyJournal) (keep : List JournalRecord) : Bool × SystemProxyJournal :=
  match io with
  | .ok => (true, { j with disk := { j.disk with file := encodeAll keep } })
  | .failed replaced reopenOk =>
    (false, ⟨reopenOk, { j.disk with file := if replaced then encodeAll keep else j.disk.file }⟩)

/-- The sequence number and previous digest of the record behind `records`; the number wraps. -/
def chainHead (records : List JournalRecord) : UInt64 × Digest :=
  match records.getLast? with
  | some last => (last.sequence + 1, last.digest)
  | none => (0, zeroDigest)

/-- The record that `append_step` writes behind `records`. -/
def nextRecord (H : Hash) (records : List JournalRecord) (payload : Bytes) : JournalRecord :=
  JournalRecord.new H (chainHead records).1 (chainHead records).2 payload

/-- Append a step: true when its record is written and flushed. -/
def appendStep (H : Hash) (io : AppendIo) (j : SystemProxyJournal) (payload : Bytes) : Bool × SystemProxyJournal :=
  if !j.enabled || !io.recoverOk then (false, j)
  else
    match recover H j.disk.file with
    | .clean records => appendSynced io.write j (nextRecord H records payload)
    | .tornTail records => appendSynced io.write j (nextRecord H records payload)
    | .corrupt _ =>
      match quarantineLocked io.quarantine j with
      | (true, j) => appendSynced io.write j (nextRecord H [] payload)
      | (false, j) => (false, j)

/-- Drop every record from number `keepLen` on. -/
def clearTail (H : Hash) (recoverOk : Bool) (io : CompactIo) (j : SystemProxyJournal) (keepLen : Nat) : SystemProxyJournal :=
  if !j.enabled || !recoverOk then j
  else
    match (recover H j.disk.file).records with
    | none => j
    | some records => if records.length ≤ keepLen then j else (compact io j (records.take keepLen)).2

/-- How many records the journal has. -/
def recordCount (H : Hash) (recoverOk : Bool) (j : SystemProxyJournal) : Nat :=
  if !j.enabled || !recoverOk then 0 else ((recover H j.disk.file).records.getD []).length

/-- The first half of a replay pass: read the journal, cut off a torn tail, put a corrupt file away. The records it returns
are those the pass works on. -/
def openForReplay (H : Hash) (io : ReplayIo) (j : SystemProxyJournal) : Option (List JournalRecord) × SystemProxyJournal :=
  if !j.enabled || !io.recoverOk then (none, j)
  else
    match recover H j.disk.file with
    | .clean records => (some records, j)
    | .tornTail records =>
      match compact io.repair j records with
      | (true, j) => (some records, j)
      | (false, j) => (none, j)
    | .corrupt _ => (none, (quarantineLocked io.quarantine j).2)

/-- The process died and starts again: the file is there as it was left, and the store opens. -/
def reopen (j : SystemProxyJournal) : SystemProxyJournal := { j with enabled := true }

end SystemProxyJournal

end ExvVpn.Journal
