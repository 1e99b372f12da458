import Mathlib.Logic.Function.Basic
import ExvVpn.Basic
import ExvVpn.Tools.RustStr
import ExvVpn.Tools.Syscall

/-!
# The configuration directory

The files of the configuration directory and the calls of `std::fs` on them, each of which may fail. A rename is atomic; a
write that fails leaves the part that was written.
-/

namespace ExvVpn.Config

open Syscall Function RustStr Ends

def configFile : Text := "config.json".toList

def keyFile : Text := "key.bin".toList

/-- `std::io::ErrorKind`, as far as the sources tell kinds apart. -/
inductive IoError
  | notFound
  | alreadyExists
  | invalidData
  | other
deriving DecidableEq, Repr

/-- The files of the directory, the process's counter of temporary files, and how often the file of a name was replaced. -/
structure Disk where
  files : Text → Option Bytes
  nextTemporaryId : UInt64
  replaced : Text → Nat

namespace Disk

/-- An empty configuration directory. -/
def empty : Disk := ⟨fun _ => none, 0, fun _ => 0⟩

variable (d : Disk) (name : Text) (bytes : Bytes)

/-- The file of a name holds these bytes. -/
def put : Disk := { d with files := update d.files name (some bytes) }

/-- There is no file of a name. -/
def erase : Disk := { d with files := update d.files name none }

/-- The file of a name is replaced. -/
def replace : Disk :=
  { d with
    files := update d.files name (some bytes)
    replaced := update d.replaced name (d.replaced name + 1) }

@[simp] theorem files_put_self : (d.put name bytes).files name = some bytes := by
  simp [put]

@[simp] theorem files_replace_self : (d.replace name bytes).files name = some bytes := by
  simp [replace]

variable {name} {other : Text}

theorem files_put_of_ne (h : other ≠ name) : (d.put name bytes).files other = d.files other := by
  simp [put, h]

theorem files_erase_of_ne (h : other ≠ name) : (d.erase name).files other = d.files other := by
  simp [erase, h]

theorem files_replace_of_ne (h : other ≠ name) : (d.replace name bytes).files other = d.files other := by
  simp [replace, h]

end Disk

/-- `std::fs::create_dir_all` of the directory. -/
def createDirAll : Prog Disk IoError Unit := call (fun d => (.ok (), d)) (fun _ d => (.other, d))

variable (name : Text)

/-- `std::fs::read`. -/
def readFile : Prog Disk IoError Bytes :=
  call
    (fun d =>
      match d.files name with
      | some bytes => (.ok bytes, d)
      | none => (.error .notFound, d))
    (fun _ d => (.other, d))

/-- `std::fs::read_to_string`. -/
def readToString : Prog Disk IoError Text := do
  let bytes ← readFile name
  match fromUtf8 bytes with
  | some text => pure text
  | none => stop .invalidData

def createNew : Prog Disk IoError Unit :=
  call (fun d => if (d.files name).isSome then (.error .alreadyExists, d) else (.ok (), d.put name [])) (fun _ d => (.other, d))

/-- `File::write_all` into a file that was empty when it was opened. -/
def writeAll (bytes : Bytes) : Prog Disk IoError Unit :=
  call (fun d => (.ok (), d.put name bytes)) (fun part d => (.other, d.put name (bytes.take part)))

def syncAll : Prog Disk IoError Unit := call (fun d => (.ok (), d)) (fun _ d => (.other, d))

/-- `std::fs::rename`. -/
def rename (source destination : Text) : Prog Disk IoError Unit :=
  call
    (fun d =>
      match d.files source with
      | some bytes => (.ok (), (d.erase source).replace destination bytes)
      | none => (.error .notFound, d))
    (fun _ d => (.other, d))

/-- `std::fs::remove_file`. -/
def removeFile : Prog Disk IoError Unit :=
  call (fun d => if (d.files name).isSome then (.ok (), d.erase name) else (.error .notFound, d)) (fun _ d => (.other, d))

/-- `File::create`, which empties a file that exists. -/
def createFile : Prog Disk IoError Unit := call (fun d => (.ok (), d.replace name [])) (fun _ d => (.other, d))

/-- `std::fs::write`. -/
def writeFile (bytes : Bytes) : Prog Disk IoError Unit := do
  createFile name
  writeAll name bytes

/-- `AtomicU64::fetch_add(1)` on the counter of temporary files. -/
def nextTemporary {ε : Type} : Prog Disk ε UInt64 := fun d script =>
  (.ok d.nextTemporaryId, { d with nextTemporaryId := d.nextTemporaryId + 1 }, script)

/-- The name of a temporary file: `.{filename}.{pid}.{id}.tmp`. -/
def temporaryName (filename : Text) (pid : UInt32) (id : UInt64) : Text :=
  '.' :: filename ++ '.' :: decimal pid.toNat ++ '.' :: decimal id.toNat ++ ".tmp".toList

theorem temporaryName_ne {filename name : Text} (h : name.head? ≠ some '.') (pid : UInt32) (id : UInt64) :
    name ≠ temporaryName filename pid id := by
  rintro rfl
  exact h rfl

/-! ## What the calls leave -/

theorem readFile_run (d : Disk) (script : List Outcome) :
    readFile name d script =
      (if fails script 0 then .error .other else (d.files name).elim (.error .notFound) .ok, d, script.tail) := by
  rw [readFile, call_run]
  rcases d.files name with _ | bytes <;> split <;> rfl

theorem readToString_run (d : Disk) (script : List Outcome) :
    readToString name d script =
      (if fails script 0 then .error .other else (d.files name).elim (.error .notFound) fun bytes =>
        (fromUtf8 bytes).elim (.error .invalidData) .ok, d, script.tail) := by
  rw [readToString, bind_run, readFile_run]
  by_cases hfails : fails script 0 = true
  · simp [hfails]
  · rcases d.files name with _ | bytes
    · simp [hfails]
    · rcases hutf8 : fromUtf8 bytes with _ | text <;> simp [hfails, hutf8]

variable {d : Disk} {name} {other : Text}

theorem createDirAll_reads : Reads False createDirAll d fun _ => True :=
  Ends.call (fun _ _ => ⟨rfl, trivial⟩) nofun (fun _ => rfl) nofun

theorem syncAll_reads : Reads False syncAll d fun _ => True :=
  Ends.call (fun _ _ => ⟨rfl, trivial⟩) nofun (fun _ => rfl) nofun

theorem nextTemporary_ends {ε : Type} :
    Ends False (nextTemporary : Prog Disk ε UInt64) d (fun _ d' => d'.files = d.files) fun d' => d'.files = d.files :=
  fun _ => ⟨fun _ _ => rfl, fun _ _ => rfl, fun hs => ⟨hs, nofun⟩⟩

theorem createNew_ends (h : other ≠ name) :
    Ends False (createNew name) d (fun _ d' => d'.files other = d.files other) fun d' => d'.files other = d.files other := by
  refine Ends.call ?_ ?_ (fun _ => rfl) nofun <;> split
  · nofun
  · exact fun _ _ => d.files_put_of_ne [] h
  · exact fun _ _ => rfl
  · nofun

theorem writeAll_ends (bytes : Bytes) (h : other ≠ name) :
    Ends False (writeAll name bytes) d (fun _ d' => d'.files other = d.files other ∧ d'.files name = some bytes)
      fun d' => d'.files other = d.files other :=
  Ends.call (fun _ _ => ⟨d.files_put_of_ne _ h, d.files_put_self _ _⟩) nofun (fun _ => d.files_put_of_ne _ h) nofun

theorem writeFile_ends (bytes : Bytes) (h : other ≠ name) :
    Ends False (writeFile name bytes) d (fun _ d' => d'.files other = d.files other ∧ d'.files name = some bytes)
      fun d' => d'.files other = d.files other := by
  have hcreate : Ends False (createFile name) d (fun _ d' => d'.files other = d.files other)
      fun d' => d'.files other = d.files other :=
    Ends.call (fun _ _ => d.files_replace_of_ne _ h) nofun (fun _ => rfl) nofun
  refine hcreate.bind id (fun _ d' hd => ?_) fun _ => id
  exact (writeAll_ends bytes h).weaken id (fun _ _ hw => ⟨hw.1.trans hd, hw.2⟩) fun _ hw => hw.trans hd

/-- A rename replaces the destination as a whole or changes nothing. -/
theorem rename_ends (source destination : Text) (h : other ≠ source) :
    Ends False (rename source destination) d
      (fun _ d' => d'.files other = if other = destination then d.files source else d.files other) (· = d) := by
  refine Ends.call ?_ ?_ (fun _ => rfl) nofun <;> rcases hsource : d.files source with _ | bytes
  · nofun
  · intro _ _
    by_cases hfile : other = destination
    · subst hfile
      simp
    · rw [if_neg hfile, Disk.files_replace_of_ne _ _ hfile, Disk.files_erase_of_ne _ h]
  · exact fun _ _ => rfl
  · nofun

theorem removeFile_ends (h : other ≠ name) :
    Ends False (removeFile name) d (fun _ d' => d'.files other = d.files other) fun d' => d'.files other = d.files other := by
  refine Ends.call ?_ ?_ (fun _ => rfl) nofun <;> split
  · exact fun _ _ => d.files_erase_of_ne h
  · nofun
  · nofun
  · exact fun _ _ => rfl

end ExvVpn.Config
