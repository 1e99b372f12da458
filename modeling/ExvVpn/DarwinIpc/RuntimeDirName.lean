import ExvVpn.Basic
import ExvVpn.Tools.RustStr

/-!
# The names of runtime directories

`create_runtime_dir_name` writes them. The uninstaller and the service agent each tell by a name whether it is one, and whether
its process is alive: the parameter says for which process ids `kill` with signal 0 succeeds or is not permitted.
-/

namespace ExvVpn.DarwinIpc

open RustStr

/-- `{:02x}` of a byte. -/
def hex02 (byte : UInt8) : Text :=
  List.replicate (2 - (hexadecimal byte.toNat).length) '0' ++ hexadecimal byte.toNat

/-- With what the random generator gives; `none` is `RuntimeDirError::Create`. -/
def createRuntimeDirName (pid : UInt32) (random : Option (Vector UInt8 8)) : Option Text := do
  let suffix := (← random).toList.flatMap hex02
  let name := "exv-vpn-".toList ++ (hexadecimal pid.toNat ++ '-' :: suffix)
  -- `CString::new` takes no NUL.
  if '\x00' ∈ name then none else some name

/-! ## The shape of a name -/

def isAsciiDigit (b : UInt8) : Bool := 0x30 ≤ b && b ≤ 0x39

def isAsciiUppercase (b : UInt8) : Bool := 0x41 ≤ b && b ≤ 0x5a

def isAsciiHexdigit (b : UInt8) : Bool := isAsciiDigit b || (0x41 ≤ b && b ≤ 0x46) || (0x61 ≤ b && b ≤ 0x66)

/-- What stands between `exv-vpn-` and the next hyphen, and what follows. -/
def splitName (leaf : Text) : Option (Text × Text) := (stripPrefix "exv-vpn-".toList leaf).bind (splitOnce '-')

/-- A process id of at most `pidHexMax` bytes and 16 more bytes, all of them `hex`. -/
def nameMatches (hex : UInt8 → Bool) (pidHexMax : Nat) (leaf : Text) : Bool :=
  match splitName leaf with
  | none => false
  | some (pid, suffix) =>
    let hex := fun text => !text.isEmpty && (asBytes text).all hex
    1 ≤ (asBytes pid).length && (asBytes pid).length ≤ pidHexMax && (asBytes suffix).length = 16 && hex pid && hex suffix

/-- The uninstaller. -/
def isRuntimeDirName : Text → Bool := nameMatches (fun b => isAsciiHexdigit b && !isAsciiUppercase b) 8

def isLowerHex (b : UInt8) : Bool := isAsciiDigit b || (0x61 ≤ b && b ≤ 0x66)

def runtimeResiduePidHexMax : Nat := 8

/-- The service agent. -/
def runtimeResidueNameMatches : Text → Bool := nameMatches isLowerHex runtimeResiduePidHexMax

/-! ## The process of a name -/

def stripPlus : Text → Text
  | '+' :: digits => digits
  | digits => digits

/-- `u32::from_str_radix` in radix 16. -/
def u32FromHex (text : Text) : Option Nat := (fromHex (stripPlus text)).filter (· < 2 ^ 32)

/-- `i32::from_str_radix` in radix 16. -/
def i32FromHex : Text → Option Int
  | '-' :: digits => ((fromHex digits).filter (· ≤ 2 ^ 31)).map (-↑·)
  | text => ((fromHex (stripPlus text)).filter (· < 2 ^ 31)).map (↑)

def runtimeResiduePid (leaf : Text) : Option Nat :=
  if !runtimeResidueNameMatches leaf then none
  else (splitName leaf).bind fun (pidHex, _) => (u32FromHex pidHex).filter (0 < ·)

variable (kill : Int → Bool)

/-- The uninstaller. -/
def runtimeDirOwnerAlive (leaf : Text) : Bool :=
  match (splitName leaf).bind fun (pidHex, _) => i32FromHex pidHex with
  | none => false
  | some pid => if pid ≤ 0 then false else kill pid

def processAlive (pid : Nat) : Bool := if 2 ^ 31 ≤ pid ∨ pid ≤ 0 then false else kill pid

/-- The service agent, in `sweep_runtime_residue_impl`. -/
def residueOwnerAlive (leaf : Text) : Bool := (runtimeResiduePid leaf).any (processAlive kill)

end ExvVpn.DarwinIpc
