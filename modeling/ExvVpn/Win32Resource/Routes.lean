import ExvVpn.SystemProxy.Override
import ExvVpn.Tools.Ipv4
import Mathlib.Data.List.Nodup

/-!
# Rows of the Windows route table

`routes.rs` of `exv-vpn-win32-resource`: installing one row and finding out whether it was there before, and removing one row
by comparing all its fields first.

The table belongs to Windows. It names a row by destination, next hop and interface, and keeps a metric of its own choice. A
call that fails leaves the table as it is; one that does not answers what the table says. Which calls fail, with which code,
and which metric Windows chooses is data of the call.
-/

namespace ExvVpn.Win32Resource

open List Ipv4

open SystemProxy (NativeError)

/-! ## Rows -/

def maxPrefixLen : Nat := 32

def errorNotFound : UInt32 := 1168

def errorInvalidParameter : UInt32 := 87

def errorObjectAlreadyExists : UInt32 := 5010

/-- `MIB_IPPROTO_NETMGMT`. -/
def protocolNetmgmt : UInt32 := 3

/-- `RouteKey`: the destination of a row. -/
structure RouteKey where
  network : Addr
  prefixLen : Nat
  deriving DecidableEq, Repr

structure RouteRow where
  network : Addr
  prefixLen : Nat
  nextHop : Addr
  interfaceLuid : UInt64
  metric : UInt32
  protocol : UInt32
  deriving DecidableEq, Repr

/-- What names a row in the table. -/
structure RouteIdentity where
  key : RouteKey
  nextHop : Addr
  interfaceLuid : UInt64
  deriving DecidableEq, Repr

def maskedNetwork (network : Addr) (prefixLen : Nat) : Addr :=
  let mask := if prefixLen = 0 then 0 else if prefixLen ≤ 32 then (2 ^ 32 - 1) <<< (32 - prefixLen) % 2 ^ 32 else 2 ^ 32 - 1
  .ofNat (network.toNat &&& mask)

namespace RouteRow

/-- `RouteRow::new`: the host bits are cleared, and the protocol is the one of a manual row. -/
def new (network : Addr) (prefixLen : Nat) (nextHop : Addr) (interfaceLuid : UInt64) (metric : UInt32) :
    RouteRow where
  network := maskedNetwork network prefixLen
  prefixLen := prefixLen
  nextHop := nextHop
  interfaceLuid := interfaceLuid
  metric := metric
  protocol := protocolNetmgmt

def destKey (row : RouteRow) : RouteKey := ⟨row.network, row.prefixLen⟩

/-- The name of the row in the table. -/
def identity (row : RouteRow) : RouteIdentity := ⟨row.destKey, row.nextHop, row.interfaceLuid⟩

/-- A key without next hop and interface, which Windows completes with any row of the destination. -/
def isDestOnly (row : RouteRow) : Bool := row.nextHop = .unspecified && row.interfaceLuid = 0

/-- The row that Windows keeps: `to_api_row` always asks for the protocol of a manual row. -/
def stored (row : RouteRow) (metric : UInt32) : RouteRow := { row with metric, protocol := protocolNetmgmt }

@[simp] theorem identity_stored (row : RouteRow) (metric : UInt32) : (row.stored metric).identity = row.identity := rfl

end RouteRow

def sameRouteIdentity (requested actual : RouteRow) : Bool :=
  requested.destKey = actual.destKey && requested.nextHop = actual.nextHop &&
    requested.interfaceLuid = actual.interfaceLuid

@[simp]
theorem sameRouteIdentity_iff {requested actual : RouteRow} :
    sameRouteIdentity requested actual = true ↔ actual.identity = requested.identity := by
  simp only [sameRouteIdentity, Bool.and_eq_true, decide_eq_true_eq, RouteRow.identity, RouteIdentity.mk.injEq]
  constructor
  · intro ⟨⟨hkey, hhop⟩, hluid⟩
    exact ⟨hkey.symm, hhop.symm, hluid.symm⟩
  · intro ⟨hkey, hhop, hluid⟩
    exact ⟨⟨hkey.symm, hhop.symm⟩, hluid.symm⟩

/-! ## The table -/

/-- The route table of Windows: one row under each name, and each row is on an interface. -/
structure RouteTable where
  rows : List RouteRow
  unique : (rows.map RouteRow.identity).Nodup
  onInterface : ∀ row ∈ rows, row.interfaceLuid ≠ 0

variable {table : RouteTable} {row : RouteRow}

namespace RouteTable

/-- The table without rows. -/
def empty : RouteTable := ⟨[], nodup_nil, by simp⟩

/-- The names in use. -/
def identities (table : RouteTable) : List RouteIdentity := table.rows.map RouteRow.identity

def find (table : RouteTable) (name : RouteIdentity) : Option RouteRow := table.rows.find? (·.identity = name)

/-- The table with one row more; the name has to be free and the row has to be on an interface. -/
def insert (table : RouteTable) (row : RouteRow) : RouteTable :=
  if h : row.interfaceLuid ≠ 0 ∧ row.identity ∉ table.identities then
    { rows := row :: table.rows
      unique := nodup_cons.mpr ⟨h.2, table.unique⟩
      onInterface := forall_mem_cons.mpr ⟨h.1, table.onInterface⟩ }
  else table

/-- The table without the row under a name. -/
def erase (table : RouteTable) (name : RouteIdentity) : RouteTable where
  rows := table.rows.filter (·.identity ≠ name)
  unique := table.unique.sublist (filter_sublist.map _)
  onInterface row hrow := table.onInterface row (mem_of_mem_filter hrow)

@[ext]
theorem ext {other : RouteTable} (h : table.rows = other.rows) : table = other := by
  cases other
  cases h
  rfl

theorem mem_identities {name : RouteIdentity} :
    name ∈ table.identities ↔ ∃ row ∈ table.rows, row.identity = name := mem_map

@[simp]
theorem mem_erase {name : RouteIdentity} : row ∈ (table.erase name).rows ↔ row ∈ table.rows ∧ row.identity ≠ name := by
  simp [erase]

theorem rows_insert (hluid : row.interfaceLuid ≠ 0)
    (hfree : row.identity ∉ table.identities) : (table.insert row).rows = row :: table.rows := by
  unfold insert
  rw [dif_pos ⟨hluid, hfree⟩]

/-- Two rows under one name are one row. -/
theorem eq_of_identity {other : RouteRow} (hrow : row ∈ table.rows)
    (hother : other ∈ table.rows) (h : row.identity = other.identity) : row = other :=
  inj_on_of_nodup_map table.unique hrow hother h

theorem find_of_mem (hrow : row ∈ table.rows) : table.find row.identity = some row := by
  cases hfind : table.find row.identity with
  | none =>
    have hnone := find?_eq_none.mp hfind row hrow
    simp at hnone
  | some other =>
    have hname : other.identity = row.identity := by simpa using find?_some hfind
    rw [eq_of_identity (mem_of_find?_eq_some hfind) hrow hname]

end RouteTable

/-! ## Calls of Windows -/

/-- A call that failed for a reason of its own: the code says nothing about the table. -/
structure Fault where
  code : UInt32
  ownReason : code ≠ 0 ∧ code ≠ errorNotFound ∧ code ≠ errorObjectAlreadyExists
  deriving DecidableEq, Repr

variable (table)

/-- `CreateIpForwardEntry2`: the code and the table after it. A row without an interface is refused. -/
def createIpForwardEntry2 (row : RouteRow) (fault : Option Fault) (metric : UInt32) :
    UInt32 × RouteTable :=
  match fault with
  | some fault => (fault.code, table)
  | none =>
    if row.interfaceLuid = 0 then (errorInvalidParameter, table)
    else if row.identity ∈ table.identities then (errorObjectAlreadyExists, table)
    else (0, table.insert (row.stored metric))

/-- `GetIpForwardEntry2`: the code, or the row that it fills in. -/
def getIpForwardEntry2 (key : RouteRow) (fault : Option Fault) : Except UInt32 RouteRow :=
  match fault with
  | some fault => .error fault.code
  | none =>
    let found := if key.isDestOnly then table.rows.find? (·.destKey = key.destKey) else table.find key.identity
    match found with
    | some row => .ok row
    | none => .error errorNotFound

/-- `DeleteIpForwardEntry2`: the code and the table after it. -/
def deleteIpForwardEntry2 (row : RouteRow) (fault : Option Fault) : UInt32 × RouteTable :=
  match fault with
  | some fault => (fault.code, table)
  | none => if row.identity ∈ table.identities then (0, table.erase row.identity) else (errorNotFound, table)

/-- `GetIpForwardTable2`, with the rows of one interface kept: `capture_rows`. -/
def captureRows (interfaceLuid : UInt64) (fault : Option Fault) :
    Except NativeError (List RouteRow) :=
  match fault with
  | some fault => .error (.fromWin32 fault.code "GetIpForwardTable2 失败")
  | none => .ok (table.rows.filter (·.interfaceLuid = interfaceLuid))

/-! ## Installing a row -/

inductive RouteInstallOutcome where
  | created (actual : RouteRow)
  | createdPending (submitted : RouteRow) (readbackError rollbackError : NativeError)
  | borrowed (actual : RouteRow)
  deriving DecidableEq, Repr

inductive CreateDisposition where
  | created
  | borrowed
  deriving DecidableEq, Repr

/-- What Windows answers to the calls of one install, in the order of the code, with the metric it chooses. -/
structure InstallIo where
  create : Option Fault
  metric : UInt32
  readback : Option Fault
  rollback : Option Fault
  observe : Option Fault

def classifyCreateResult (code : UInt32) : Except NativeError CreateDisposition :=
  if code = 0 then .ok .created
  else if code = errorObjectAlreadyExists then .ok .borrowed
  else .error (.fromWin32 code "CreateIpForwardEntry2 失败")

/-- `read_back_effective_row`; every row of the table has IPv4 addresses. -/
def readBackEffectiveRow (requested : RouteRow) (fault : Option Fault) :
    Except NativeError RouteRow :=
  match getIpForwardEntry2 table requested fault with
  | .error code => .error (.fromWin32 code "install_with_outcome: GetIpForwardEntry2 回读失败")
  | .ok actual =>
    if sameRouteIdentity requested actual then .ok actual
    else .error (.fromWin32 errorInvalidParameter "install_with_outcome: 回读行身份与请求不一致")

/-- The search for the effective row of a submitted one in captured rows. -/
def findEffective (submitted : RouteRow) (rows : List RouteRow) : Option RouteRow :=
  rows.find? fun actual => sameRouteIdentity submitted actual && submitted.protocol = actual.protocol

/-- A created row could not be read back: it is deleted at once, and if that fails the whole table is looked at. -/
def undoCreate (row : RouteRow) (readbackError : NativeError) (io : InstallIo) :
    Except NativeError RouteInstallOutcome × RouteTable :=
  let (rollbackCode, table) := deleteIpForwardEntry2 table row io.rollback
  if rollbackCode = 0 ∨ rollbackCode = errorNotFound then (.error readbackError, table)
  else
    match captureRows table row.interfaceLuid io.observe with
    | .ok rows =>
      match findEffective row rows with
      | some actual => (.ok (.created actual), table)
      | none => (.error readbackError, table)
    | .error _ =>
      (.ok (.createdPending row readbackError
        (.fromWin32 rollbackCode "install_with_outcome: created 行即时回滚失败")), table)

/-- `install_with_outcome`: the outcome and the table after it. -/
def installWithOutcome (row : RouteRow) (io : InstallIo) :
    Except NativeError RouteInstallOutcome × RouteTable :=
  if maxPrefixLen < row.prefixLen then
    (.error (.fromWin32 errorInvalidParameter "install_with_outcome: 非法前缀（IPv4 前缀上限 32）"), table)
  else
    let (code, table) := createIpForwardEntry2 table row io.create io.metric
    match classifyCreateResult code with
    | .error error => (.error error, table)
    | .ok disposition =>
      match readBackEffectiveRow table row io.readback, disposition with
      | .ok actual, .created => (.ok (.created actual), table)
      | .ok actual, .borrowed => (.ok (.borrowed actual), table)
      | .error readbackError, .created => undoCreate table row readbackError io
      | .error readbackError, .borrowed => (.error readbackError, table)

/-! ## Removing a row -/

inductive RemoveOutcome where
  | removed
  | alreadyAbsent
  deriving DecidableEq, Repr

/-- What Windows answers to the calls of one removal, in the order of the code. -/
structure RemoveIo where
  observe : Option Fault
  get : Option Fault
  delete : Option Fault

/-- `remove`: only a row that agrees in all fields is deleted. -/
def remove (row : RouteRow) (io : RemoveIo) : Except NativeError RemoveOutcome × RouteTable :=
  if row.isDestOnly then
    (.error (.fromWin32 errorInvalidParameter
      "remove: dest-only key 不是合法删除输入（facts §3：按 CIDR 删除是 mutant）"), table)
  else
    match getIpForwardEntry2 table row io.get with
    | .error code =>
      if code = errorNotFound then (.ok .alreadyAbsent, table)
      else (.error (.fromWin32 code "GetIpForwardEntry2 失败"), table)
    | .ok filled =>
      if filled ≠ row then
        (.error (.fromWin32 errorInvalidParameter "remove: GetIpForwardEntry2 填满的行与请求行不一致，拒绝删除"), table)
      else
        let (code, table) := deleteIpForwardEntry2 table filled io.delete
        if code ≠ 0 then (.error (.fromWin32 code "DeleteIpForwardEntry2 失败"), table)
        else (.ok .removed, table)

/-- `remove_created_pending`: the effective row is looked for in the whole table first. -/
def removeCreatedPending (submitted : RouteRow) (io : RemoveIo) :
    Except NativeError RemoveOutcome × RouteTable :=
  match captureRows table submitted.interfaceLuid io.observe with
  | .error error => (.error error, table)
  | .ok rows =>
    match findEffective submitted rows with
    | some actual => remove table actual io
    | none => (.ok .alreadyAbsent, table)

/-! ## Installing a plan -/

/-- `install`; `metric` is the one that Windows gives the row. -/
def install (row : RouteRow) (fault : Option Fault) (metric : UInt32) :
    Except NativeError Unit × RouteTable :=
  if maxPrefixLen < row.prefixLen then
    (.error (.fromWin32 errorInvalidParameter "install: 非法前缀（IPv4 前缀上限 32）"), table)
  else
    let (code, table) := createIpForwardEntry2 table row fault metric
    if code ≠ 0 then (.error (.fromWin32 code "CreateIpForwardEntry2 失败（重复精确行 -> 5010）"), table)
    else (.ok (), table)

/-- The rollback of `install_plan`, newest row first; `undo` says what Windows answers to each removal. -/
def undoRows (undo : RouteRow → RemoveIo) (table : RouteTable) :
    List RouteRow → RouteTable × List (Except NativeError RemoveOutcome)
  | [] => (table, [])
  | done :: rest =>
    let (answer, table) := remove table done (undo done)
    let (table, answers) := undoRows undo table rest
    (table, answer :: answers)

end ExvVpn.Win32Resource
