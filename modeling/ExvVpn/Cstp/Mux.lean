import ExvVpn.Basic

/-!
# The priority mux

`Mux` of `mux.rs` in `exv-vpn-cstp`: the single writer over the peer's byte stream. Control frames have a queue of their own
with a reserved capacity; data frames of two producers share a budget of bytes, queued and in flight, and are taken in turns.
Lengths and counts are natural numbers.
-/

namespace ExvVpn.Cstp

open Option

inductive ControlKind where
  | close
  | dpd
  | keepalive
  deriving DecidableEq, Repr

inductive DataSource where
  | producerA
  | producerB
  deriving DecidableEq, Repr

def DataSource.other : DataSource → DataSource
  | .producerA => .producerB
  | .producerB => .producerA

structure MuxConfig where
  controlCapacity : Nat
  dataByteBudget : Nat
  deriving DecidableEq, Repr

inductive MuxError where
  | controlQueueFull
  | dataBudgetExceeded
  | eofTerminal
  deriving DecidableEq, Repr

inductive MuxItem where
  | control (kind : ControlKind)
  | data (source : DataSource) (payload : Bytes)
  | eof
  deriving DecidableEq, Repr

structure Mux where
  config : MuxConfig
  control : List ControlKind
  dataA : List Bytes
  dataB : List Bytes
  nextSource : DataSource
  queuedBytes : Nat
  inflightBytes : Nat
  eof : Bool
  eofEmitted : Bool
  deriving DecidableEq, Repr

namespace Mux

def new (config : MuxConfig) : Mux := ⟨config, [], [], [], .producerA, 0, 0, false, false⟩

def queue (mux : Mux) : DataSource → List Bytes
  | .producerA => mux.dataA
  | .producerB => mux.dataB

/-- The mux with another queue of a producer. -/
def setQueue (mux : Mux) (frames : List Bytes) : DataSource → Mux
  | .producerA => { mux with dataA := frames }
  | .producerB => { mux with dataB := frames }

def pushControl (mux : Mux) (kind : ControlKind) : Except MuxError Mux :=
  if mux.eof then .error .eofTerminal
  else if mux.config.controlCapacity ≤ mux.control.length then .error .controlQueueFull
  else .ok { mux with control := mux.control ++ [kind] }

def pushData (mux : Mux) (source : DataSource) (payload : Bytes) : Except MuxError Mux :=
  if mux.eof then .error .eofTerminal
  else if mux.config.dataByteBudget < mux.queuedBytes + mux.inflightBytes + payload.length then .error .dataBudgetExceeded
  else
    .ok ({ mux with queuedBytes := mux.queuedBytes + payload.length }.setQueue (mux.queue source ++ [payload]) source)

/-- The producer whose turn it is, or the other one if it has nothing queued. -/
def chosen (mux : Mux) : Option DataSource :=
  if mux.queue mux.nextSource = [] then
    if mux.queue mux.nextSource.other = [] then none else some mux.nextSource.other
  else some mux.nextSource

def takeNextData (mux : Mux) : Option (DataSource × Bytes × Mux) :=
  match mux.chosen with
  | none => none
  | some source =>
    match mux.queue source with
    | [] => none
    | payload :: rest =>
      some (source, payload,
        { mux with
          queuedBytes := mux.queuedBytes - payload.length
          inflightBytes := mux.inflightBytes + payload.length
          nextSource := source.other }.setQueue rest source)

def next (mux : Mux) : Option MuxItem × Mux :=
  match mux.control with
  | kind :: rest => (some (.control kind), { mux with control := rest })
  | [] =>
    match mux.takeNextData with
    | some (source, payload, after) => (some (.data source payload), after)
    | none => if mux.eof && !mux.eofEmitted then (some .eof, { mux with eofEmitted := true }) else (none, mux)

def peerRead (mux : Mux) (consumed : Nat) : Mux := { mux with inflightBytes := mux.inflightBytes - consumed }

/-- `eof`. -/
def markEof (mux : Mux) : Mux := { mux with eof := true }

/-! ## Queues -/

variable {mux : Mux} {source other : DataSource} {frames : List Bytes}

@[simp] theorem queue_setQueue : (mux.setQueue frames source).queue source = frames := by
  cases source <;> rfl

theorem queue_setQueue_of_ne (h : other ≠ source) : (mux.setQueue frames source).queue other = mux.queue other := by
  cases source <;> cases other <;> first | rfl | exact absurd rfl h

@[simp] theorem setQueue_config : (mux.setQueue frames source).config = mux.config := by
  cases source <;> rfl

@[simp] theorem setQueue_control : (mux.setQueue frames source).control = mux.control := by
  cases source <;> rfl

@[simp] theorem setQueue_queuedBytes : (mux.setQueue frames source).queuedBytes = mux.queuedBytes := by
  cases source <;> rfl

@[simp] theorem setQueue_inflightBytes : (mux.setQueue frames source).inflightBytes = mux.inflightBytes := by
  cases source <;> rfl

@[simp] theorem setQueue_eof : (mux.setQueue frames source).eof = mux.eof := by
  cases source <;> rfl

@[simp] theorem setQueue_eofEmitted : (mux.setQueue frames source).eofEmitted = mux.eofEmitted := by
  cases source <;> rfl

/-- A producer that is chosen has something queued. -/
theorem queue_of_chosen (h : mux.chosen = some source) : mux.queue source ≠ [] := by
  unfold chosen at h
  split at h
  · split at h
    · nomatch h
    · obtain rfl := some.inj h
      assumption
  · obtain rfl := some.inj h
    assumption

/-- No producer is chosen exactly when nothing is queued. -/
theorem chosen_eq_none_iff : mux.chosen = none ↔ ∀ source, mux.queue source = [] := by
  unfold chosen
  constructor
  · intro h source
    split at h
    · split at h
      · cases hnext : mux.nextSource <;> cases source <;> simp_all [DataSource.other]
      · nomatch h
    · nomatch h
  · intro h
    simp [h]

theorem takeNextData_eq_none_iff : mux.takeNextData = none ↔ ∀ source, mux.queue source = [] := by
  rw [← chosen_eq_none_iff]
  unfold takeNextData
  cases hchosen : mux.chosen with
  | none => simp
  | some source =>
    cases hqueue : mux.queue source with
    | nil => exact absurd hqueue (queue_of_chosen hchosen)
    | cons payload rest => simp [hqueue]

/-- What is taken is the first frame of a producer. -/
theorem takeNextData_eq_some {payload : Bytes} {after : Mux} (h : mux.takeNextData = some (source, payload, after)) :
    ∃ rest, mux.queue source = payload :: rest ∧
      after = { mux with
        queuedBytes := mux.queuedBytes - payload.length
        inflightBytes := mux.inflightBytes + payload.length
        nextSource := source.other }.setQueue rest source := by
  unfold takeNextData at h
  split at h
  · nomatch h
  split at h
  · nomatch h
  · rename_i first rest hqueue
    obtain ⟨rfl, rfl, rfl⟩ := h
    exact ⟨rest, hqueue, rfl⟩

@[simp] theorem queue_peerRead (consumed : Nat) : (mux.peerRead consumed).queue source = mux.queue source := by
  cases source <;> rfl

@[simp] theorem queue_markEof : mux.markEof.queue source = mux.queue source := by
  cases source <;> rfl

/-! ## What the calls do -/

variable {after : Mux}

theorem pushControl_eq_ok_iff {kind : ControlKind} :
    mux.pushControl kind = .ok after ↔
      mux.eof = false ∧ mux.control.length < mux.config.controlCapacity ∧
        after = { mux with control := mux.control ++ [kind] } := by
  unfold pushControl
  split
  · rename_i heof
    simp [heof]
  rename_i heof
  split
  · rename_i hfull
    constructor
    · intro h
      nomatch h
    · intro ⟨_, hroom, _⟩
      exact absurd hroom (Nat.not_lt.mpr hfull)
  · rename_i hroom
    exact ⟨fun h => ⟨Bool.not_eq_true _ ▸ heof, Nat.not_le.mp hroom, (Except.ok.inj h).symm⟩,
      fun h => congrArg Except.ok h.2.2.symm⟩

theorem pushData_eq_ok_iff {payload : Bytes} :
    mux.pushData source payload = .ok after ↔
      mux.eof = false ∧ mux.queuedBytes + mux.inflightBytes + payload.length ≤ mux.config.dataByteBudget ∧
        after = { mux with queuedBytes := mux.queuedBytes + payload.length }.setQueue (mux.queue source ++ [payload])
          source := by
  unfold pushData
  split
  · rename_i heof
    simp [heof]
  rename_i heof
  split
  · rename_i hfull
    constructor
    · intro h
      nomatch h
    · intro ⟨_, hroom, _⟩
      exact absurd hroom (Nat.not_le.mpr hfull)
  · rename_i hfits
    exact ⟨fun h => ⟨Bool.not_eq_true _ ▸ heof, Nat.not_lt.mp hfits, (Except.ok.inj h).symm⟩,
      fun h => congrArg Except.ok h.2.2.symm⟩

/-- What `next` can give out, and what it leaves. -/
inductive Next (mux : Mux) : Option MuxItem → Mux → Prop
  | control (kind : ControlKind) (rest : List ControlKind) (h : mux.control = kind :: rest) :
      Next mux (some (.control kind)) { mux with control := rest }
  | data (source : DataSource) (payload : Bytes) (rest : List Bytes) (hcontrol : mux.control = [])
      (h : mux.queue source = payload :: rest) :
      Next mux (some (.data source payload))
        ({ mux with
          queuedBytes := mux.queuedBytes - payload.length
          inflightBytes := mux.inflightBytes + payload.length
          nextSource := source.other }.setQueue rest source)
  | eof (hcontrol : mux.control = []) (hdata : ∀ source, mux.queue source = []) (heof : mux.eof = true)
      (h : mux.eofEmitted = false) : Next mux (some .eof) { mux with eofEmitted := true }
  | nothing (hcontrol : mux.control = []) (hdata : ∀ source, mux.queue source = [])
      (h : mux.eof = true → mux.eofEmitted = true) : Next mux none mux

theorem next_next (mux : Mux) : Next mux mux.next.1 mux.next.2 := by
  unfold next
  split
  · rename_i kind rest hcontrol
    exact .control kind rest hcontrol
  rename_i hcontrol
  split
  · rename_i source payload after htake
    obtain ⟨rest, hqueue, rfl⟩ := takeNextData_eq_some htake
    exact .data source payload rest hcontrol hqueue
  rename_i htake
  have hdata := takeNextData_eq_none_iff.mp htake
  split
  · rename_i h
    simp only [Bool.and_eq_true, Bool.not_eq_true'] at h
    exact .eof hcontrol hdata h.1 h.2
  · rename_i h
    simp only [Bool.and_eq_true, Bool.not_eq_true', not_and, Bool.not_eq_false] at h
    exact .nothing hcontrol hdata h

end Mux

end ExvVpn.Cstp
