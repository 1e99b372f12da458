import ExvVpn.Basic
import ExvVpn.Tools.LineFile

/-!
# The log aggregator of the host

`log_aggregator.rs`: the log is a file with one entry a line. The file is the only truth: the number of an entry is that of
its line, and the cursor of a process that opens the file is the number of lines that are not blank.
-/

namespace ExvVpn.Win32Host

open RustStr LineFile

/-! ## Entries -/

/-- `BTreeMap<String, String>`, as its entries in the order of the keys. -/
abbrev StringMap := {entries : List (Text × Text) // entries.Pairwise fun a b => a.1 < b.1}

/-- `BTreeMap::new`. -/
def StringMap.empty : StringMap := ⟨[], .nil⟩

/-- `DiskLogEntry`: what a line holds. -/
structure DiskLogEntry where
  timestampMs : Int64
  receivedMs : Int64
  level : Text
  source : Text
  component : Text
  code : Text
  message : Text
  fields : StringMap
  deriving DecidableEq

/-- `LogEntry`: what a line holds, with its number. -/
structure LogEntry where
  seq : Nat
  disk : DiskLogEntry
  deriving DecidableEq

structure LogPage where
  entries : List LogEntry
  nextSeq : Nat
  deriving DecidableEq

/-- `LogAggError`, without the text of the system's error. -/
inductive LogAggError where
  | io
  deriving DecidableEq, Repr

/-- `AggregatorInner`, with the content of the file behind its handle. -/
structure AggregatorInner where
  file : Bytes
  lastSeq : Nat
  deriving DecidableEq

/-! ## Opening -/

/-- The loop of `rebuild_cursor`. -/
def countLines (count : Nat) : List (Option Text) → Except LogAggError Nat
  | [] => .ok count
  | none :: _ => .error .io
  | some line :: rest => countLines (if (trim line).isEmpty then count else count + 1) rest

def rebuildCursor (file : Bytes) : Except LogAggError Nat := countLines 0 (lines file)

namespace AggregatorInner

/-- `LogAggregator::open`. -/
def openFile (file : Bytes) : Except LogAggError AggregatorInner := (rebuildCursor file).map fun lastSeq => ⟨file, lastSeq⟩

/-! ## Appending -/

variable (format : LineFormat DiskLogEntry) (inner : AggregatorInner)

/-- The bytes that `writeln!` writes for an entry. -/
def lineBytes (disk : DiskLogEntry) : Bytes := asBytes (format.write disk) ++ [10]

/-- `LogAggregator::append`, when nothing fails. -/
def append (disk : DiskLogEntry) : AggregatorInner × LogEntry :=
  (⟨inner.file ++ lineBytes format disk, inner.lastSeq + 1⟩, ⟨inner.lastSeq + 1, disk⟩)

/-- What is left of an append that fails when some bytes of the line were written. -/
def appendFailed (disk : DiskLogEntry) (written : Nat) : AggregatorInner :=
  { inner with file := inner.file ++ (asBytes (format.write disk)).take written }

/-! ## Listing -/

/-- The loop of `list`, from the line of a number on. -/
def listLoop (format : LineFormat DiskLogEntry) (afterSeq limit : Nat) (entries : List LogEntry) :
    Nat → List (Option Text) → Except LogAggError (List LogEntry)
  | _, [] => .ok entries
  | seq, line :: rest =>
    if seq ≤ afterSeq then listLoop format afterSeq limit entries (seq + 1) rest
    else
      match line with
      | none => .error .io
      | some line =>
        if (trim line).isEmpty then listLoop format afterSeq limit entries (seq + 1) rest
        else
          match format.read line with
          -- a bad line keeps its number
          | none => listLoop format afterSeq limit entries (seq + 1) rest
          | some disk =>
            if limit ≠ 0 ∧ limit ≤ entries.length then .ok entries
            else listLoop format afterSeq limit (entries ++ [⟨seq, disk⟩]) (seq + 1) rest

def list (afterSeq limit : Nat) : Except LogAggError LogPage := do
  let entries ← listLoop format afterSeq limit [] 1 (lines inner.file)
  return { entries, nextSeq := entries.getLast?.elim (inner.lastSeq + 1) (·.seq + 1) }

/-- `LogAggregator::clear`, when nothing fails. -/
def clear (_ : AggregatorInner) : AggregatorInner := ⟨[], 0⟩

end AggregatorInner

end ExvVpn.Win32Host
