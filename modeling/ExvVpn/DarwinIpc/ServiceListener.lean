import ExvVpn.Tools.Syscall

/-!
# The fixed endpoint of the macOS service engine

`service_listener.rs` of `exv-vpn-darwin-ipc`: `ServiceListener::bind` and `cleanup` by their system calls. The state is what
stands at the socket leaf, which nobody else changes; the parent directory is that of the run.
-/

namespace ExvVpn.DarwinIpc

open Syscall

/-- `PreauthError`, as far as the two functions return it. -/
inductive PreauthError
  | pathInvalid
  | endpointOwnership
  | transport
  | cleanupRefused
deriving DecidableEq, Repr

/-- The file type `symlink_metadata` reports. -/
inductive FileType
  | directory
  | socket
  | symlink
  | other
deriving DecidableEq, Repr

/-- What `symlink_metadata` reports; the mode is that under the mask `0o7777`. -/
structure Metadata where
  fileType : FileType
  uid : UInt32
  gid : UInt32
  mode : BitVec 12
  dev : UInt64
  ino : UInt64
deriving DecidableEq, Repr

def Metadata.writableByOthers (m : Metadata) : Bool := m.mode &&& 0o022 != 0

structure EndpointIdentity where
  device : UInt64
  inode : UInt64
  owner : UInt32 × UInt32
  mode : BitVec 12
deriving DecidableEq, Repr

/-- What stands at the leaf, if anything does. -/
abbrev Leaf := Option Metadata

abbrev Act := Prog Leaf PreauthError

/-- A call that changes nothing. -/
def look {α : Type} (e : PreauthError) (f : Leaf → α) : Act α :=
  call (fun s => (.ok (f s), s)) fun _ s => (e, s)

/-- `std::fs::remove_file` of the leaf. -/
def removeFile : Act Unit :=
  call (fun s => (if s.isSome then .ok () else .error .cleanupRefused, none))
    fun _ s => (.cleanupRefused, s)

def serviceSocketMode : BitVec 12 := 0o600

/-- `bind(2)` under the umask `0o177`; the file system gives the group, the device and the inode of `made`. -/
def bindSocket (euid : UInt32) (made : Metadata) : Act Unit :=
  call (fun s =>
      if s.isSome then (.error .transport, s)
      else (.ok (), some { made with fileType := .socket, uid := euid, mode := 0o777 &&& ~~~0o177 }))
    fun _ s => (.transport, s)

/-- `fchownat` of the leaf with the group left as it is. -/
def fchownat (owner : UInt32) : Act Unit :=
  call (fun s => match s with
      | none => (.error .endpointOwnership, none)
      | some leaf => (.ok (), some { leaf with uid := owner }))
    fun _ s => (.endpointOwnership, s)

def validateServiceParent (euid : UInt32) (parent : Option Metadata) : Act Unit := do
  match ← look .pathInvalid fun _ => parent with
  | none => stop .pathInvalid
  | some parent =>
    if parent.fileType != .directory then stop .pathInvalid
    else if parent.uid != euid || parent.writableByOthers then stop .pathInvalid
    else pure ()

def removeSafeStaleServiceSocket (owner : UInt32) : Act Unit := do
  match ← look .pathInvalid id with
  | none => pure ()
  | some leaf =>
    if leaf.fileType != .socket then stop .pathInvalid
    else if leaf.uid != owner || leaf.mode != serviceSocketMode then stop .endpointOwnership
    else removeFile

def serviceEndpointIdentity (owner : UInt32) : Act EndpointIdentity := do
  match ← look .transport id with
  | none => stop .transport
  | some leaf =>
    if leaf.fileType != .socket then stop .pathInvalid
    else if leaf.uid != owner then stop .endpointOwnership
    else if leaf.mode != serviceSocketMode then stop .pathInvalid
    else pure ⟨leaf.dev, leaf.ino, (owner, leaf.gid), leaf.mode⟩

/-- `File::open` of the parent. -/
def openParent (parent : Option Metadata) : Act Unit :=
  call (fun s => (if parent.isSome then .ok () else .error .transport, s)) fun _ s => (.transport, s)

def sealServiceSocket (owner : UInt32) (parent : Option Metadata) : Act Unit := do
  openParent parent
  fchownat owner
  let _ ← serviceEndpointIdentity owner
  pure ()

/-- The end of `bind`: the sealing, and the attempt to take the new leaf away if it fails. -/
def sealOrReclaim (owner : UInt32) (parent : Option Metadata) : Act EndpointIdentity := do
  match ← attempt (sealServiceSocket owner parent) with
  | .error e => do
    let _ ← attempt (removeSafeStaleServiceSocket owner)
    stop e
  | .ok () => serviceEndpointIdentity owner

/-- `ServiceListener::bind`; of the listener only the recorded identity matters later. -/
def bind (euid owner : UInt32) (parent : Option Metadata) (made : Metadata) : Act EndpointIdentity := do
  validateServiceParent euid parent
  removeSafeStaleServiceSocket owner
  bindSocket euid made
  -- `listen(2)`, the second half of `UnixListener::bind`
  look .transport fun _ => ()
  sealOrReclaim owner parent

def cleanup (owner : UInt32) (endpoint : EndpointIdentity) : Act Unit := do
  let current ← mapError (fun _ => .cleanupRefused) (serviceEndpointIdentity owner)
  if current != endpoint then stop .cleanupRefused else removeFile

/-- A run of one of the two functions, with how its system calls go. -/
inductive EndpointRun
  | bind (parent : Option Metadata) (made : Metadata) (script : List Outcome)
  | cleanup (endpoint : EndpointIdentity) (script : List Outcome)
deriving Repr

/-- What a run leaves at the leaf. -/
def endpointStep (euid owner : UInt32) (s : Leaf) : EndpointRun → Leaf
  | .bind parent made script => (bind euid owner parent made s script).2.1
  | .cleanup endpoint script => (cleanup owner endpoint s script).2.1

end ExvVpn.DarwinIpc
