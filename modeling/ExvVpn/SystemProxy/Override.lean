import ExvVpn.SystemProxy.Settings

/-! # Bypass entries

`system_proxy_override.rs` of `exv-vpn-win32-resource`: the bypass entry of a route, and the merge of such entries into a
user's `ProxyOverride` text. -/

namespace ExvVpn.SystemProxy

open RustStr

/-- The most entries a merged text may have. -/
def maxMergeEntries : Nat := 512

/-- The most bytes one entry may have. -/
def maxEntryLen : Nat := 1024

/-! ## Merging -/

/-- The key of an entry to be added: its text in lower case. -/
def normalizedDesired (entry : Text) : Except NativeError Text :=
  if entry.contains ';' then .error (.fromWin32 87 "system_proxy_entry_contains_semicolon")
  else if maxEntryLen < (asBytes entry).length then .error (.fromWin32 87 "system_proxy_entry_too_long")
  else if entry.isEmpty then .error (.fromWin32 87 "system_proxy_entry_empty")
  else .ok (toAsciiLowercase entry)

/-- A merge under way: the keys met so far and the entries kept. -/
structure Merge where
  seen : List Text
  merged : List Text
  deriving DecidableEq, Repr

/-- Keep an entry unless its key was met before. -/
def Merge.push (m : Merge) (key entry : Text) : Merge :=
  if m.seen.contains key then m else ⟨m.seen ++ [key], m.merged ++ [entry]⟩

/-- Take over the parts of the original text. -/
def mergeOriginal (m : Merge) : List Text → Except NativeError Merge
  | [] => .ok m
  | segment :: rest =>
    if (trim segment).isEmpty then mergeOriginal m rest
    else if maxEntryLen < (asBytes (trim segment)).length then .error (.fromWin32 87 "system_proxy_original_entry_too_long")
    else mergeOriginal (m.push (toAsciiLowercase (trim segment)) (trim segment)) rest

/-- Add the desired entries. -/
def mergeDesired (m : Merge) : List Text → Except NativeError Merge
  | [] => .ok m
  | entry :: rest => do mergeDesired (m.push (← normalizedDesired entry) entry) rest

/-- Merge the desired entries into the original text. -/
def mergeBypassEntries (original : Text) (desired : List Text) : Except NativeError Text := do
  let m ← mergeOriginal ⟨[], []⟩ (split ';' (trim original))
  let m ← mergeDesired m desired
  if maxMergeEntries < m.merged.length then .error (.fromWin32 234 "system_proxy_merge_limit_exceeded")
  else return join [';'] m.merged

/-! ## Routes as entries -/

/-- The bypass entry of a route. -/
inductive WildcardEntry where
  | exact (text : Text)
  | wildcard (text : Text)
  deriving DecidableEq, Repr

def WildcardEntry.asStr : WildcardEntry → Text
  | .exact text => text
  | .wildcard text => text

/-- One part of a dotted address: up to three digits without a leading zero. -/
def parseOctet (part : Text) : Option Nat :=
  if part.isEmpty || 3 < (asBytes part).length || !part.all Char.isDigit then none
  else if 1 < part.length && part.head? == some '0' then none
  else parseUnsigned 255 part

/-- A dotted IPv4 address. -/
def parseIpv4Octets (text : Text) : Option (Nat × Nat × Nat × Nat) :=
  match split '.' text with
  | [a, b, c, d] => do return (← parseOctet a, ← parseOctet b, ← parseOctet c, ← parseOctet d)
  | _ => none

/-- The bypass entry of an IPv4 CIDR: whole /8, /16 and /24 networks become wildcards. -/
def cidrToWildcardOpt (cidr : Text) : Option WildcardEntry := do
  let (addrPart, lengthPart) ← splitOnce '/' cidr
  let length ← parseUnsigned 255 lengthPart
  if 32 < length then none
  else
    let (a, b, c, d) ← parseIpv4Octets addrPart
    let addr := ((a * 256 + b) * 256 + c) * 256 + d
    if length < 32 && addr % (1 <<< (32 - length)) != 0 then some (.exact cidr)
    else if length = 8 then some (.wildcard (decimal a ++ ".*".toList))
    else if length = 16 then some (.wildcard (decimal a ++ ".".toList ++ decimal b ++ ".*".toList))
    else if length = 24 then
      some (.wildcard (decimal a ++ ".".toList ++ decimal b ++ ".".toList ++ decimal c ++ ".*".toList))
    else some (.exact cidr)

example : cidrToWildcardOpt "10.1.0.0/16".toList = some (.wildcard "10.1.*".toList) := by decide +kernel

example : (mergeBypassEntries "<local>;A".toList ["a".toList, "10.*".toList]).toOption = some "<local>;A;10.*".toList := by
  decide +kernel

end ExvVpn.SystemProxy
