import ExvVpn.Basic
import ExvVpn.Tools.ReplayLane

/-! # The event bus of the host

`EventBus` of `event_bus.rs`: the tick, the latest event and the channel of the `WatchEvents` subscribers, and the same for
statistics. Publications hold the gate from beginning to end. Every access to the counter, region under the lock of a cell and
operation of a channel is a step, and so are taking and leaving the gate.

Of a snapshot the bus reads whether it is Connected and the operation, and replaces the statistics; the rest, `π`, is passed
on, as is the rest of a sample, `ρ`. The counter is a natural number: it wraps after 2^64 events. -/

namespace ExvVpn.Host

open ReplayLane

/-! ## Messages -/

structure RuntimeStats (ρ : Type) where
  sampleTick : Nat
  sample : ρ
  deriving DecidableEq, Repr

structure RuntimeSnapshot (π ρ : Type) where
  connected : Bool
  operationId : Bytes
  stats : Option (RuntimeStats ρ)
  rest : π
  deriving DecidableEq, Repr

inductive RuntimeEventKind where
  | unspecified
  | snapshot
  | transition
  deriving DecidableEq, Repr

structure RuntimeEvent (π ρ : Type) where
  monotonicTick : Nat
  kind : RuntimeEventKind
  snapshot : Option (RuntimeSnapshot π ρ)
  operationId : Bytes
  deriving DecidableEq, Repr

/-! ## The bus -/

variable {π ρ : Type}

/-- What a publication was called with. -/
inductive Publication (π ρ : Type) where
  | composing (kind : RuntimeEventKind) (compose : Nat → RuntimeSnapshot π ρ)
  | stats (stats : RuntimeStats ρ)

/-- Where a publication is; all places but the first are inside the gate. -/
inductive PublisherPc (π ρ : Type) where
  | called (publication : Publication π ρ)
  | entered (publication : Publication π ρ)
  | loaded (stats : RuntimeStats ρ) (current : Option (RuntimeSnapshot π ρ))
  | numbered (stats : RuntimeStats ρ) (event : Option (RuntimeEvent π ρ))
  | statsStored (stats : RuntimeStats ρ) (event : Option (RuntimeEvent π ρ))
  | minted (event : RuntimeEvent π ρ)
  | stored (event : RuntimeEvent π ρ)
  | leaving

/-- `EventBus` with the publications in progress. -/
structure EventBus (π ρ : Type) where
  tick : Nat
  gate : Option Nat
  events : Lane (RuntimeEvent π ρ)
  stats : Lane (RuntimeStats ρ)
  publishers : Nat → Option (PublisherPc π ρ)

namespace EventBus

/-- The capacity of both channels. -/
def capacity : Nat := 64

def new : EventBus π ρ := ⟨0, none, .empty, .empty, fun _ => none⟩

def currentSnapshot (bus : EventBus π ρ) : Option (RuntimeSnapshot π ρ) := bus.events.current.bind (·.snapshot)

def setPublisher (bus : EventBus π ρ) (p : Nat) (pc : Option (PublisherPc π ρ)) : EventBus π ρ :=
  { bus with publishers := Function.update bus.publishers p pc }

/-- The event of `publish_composing`, composed with the tick minted for it. -/
def composed (kind : RuntimeEventKind) (compose : Nat → RuntimeSnapshot π ρ) (tick : Nat) : RuntimeEvent π ρ :=
  ⟨tick, kind, some (compose tick), (compose tick).operationId⟩

/-- The snapshot `publish_stats` publishes again: the current one, if it is connected. -/
def republished (current : Option (RuntimeSnapshot π ρ)) : Option (RuntimeSnapshot π ρ) :=
  current.filter (·.connected)

/-- The event of `publish_stats`. -/
def refreshed (snapshot : RuntimeSnapshot π ρ) (stats : RuntimeStats ρ) (tick : Nat) : RuntimeEvent π ρ :=
  ⟨tick, .snapshot, some { snapshot with stats := some stats }, snapshot.operationId⟩

/-- A publication takes its next step. -/
def publisherStep (bus : EventBus π ρ) (p : Nat) : EventBus π ρ :=
  match bus.publishers p with
  | none => bus
  | some (.called publication) =>
    match bus.gate with
    | some _ => bus
    | none => { bus with gate := some p }.setPublisher p (some (.entered publication))
  | some (.entered (.composing kind compose)) =>
    { bus with tick := bus.tick + 1 }.setPublisher p (some (.minted (composed kind compose (bus.tick + 1))))
  | some (.entered (.stats stats)) => bus.setPublisher p (some (.loaded stats bus.currentSnapshot))
  | some (.loaded stats current) =>
    match republished current with
    | some snapshot =>
      let stats := { stats with sampleTick := bus.tick + 1 }
      { bus with tick := bus.tick + 1 }.setPublisher p
        (some (.numbered stats (some (refreshed snapshot stats (bus.tick + 1)))))
    -- The sample keeps the tick of the last event.
    | none => bus.setPublisher p (some (.numbered { stats with sampleTick := bus.tick } none))
  | some (.numbered stats event) =>
    { bus with stats := bus.stats.store stats }.setPublisher p (some (.statsStored stats event))
  | some (.statsStored stats event) =>
    { bus with stats := bus.stats.send capacity stats }.setPublisher p
      (some (match event with | some event => .minted event | none => .leaving))
  | some (.minted event) => { bus with events := bus.events.store event }.setPublisher p (some (.stored event))
  | some (.stored event) => { bus with events := bus.events.send capacity event }.setPublisher p (some .leaving)
  | some .leaving => { bus with gate := none }.setPublisher p none

/-- A step of a task that uses the bus; a new publication has a number nobody has. -/
inductive BusLabel (π ρ : Type) where
  | publish (p : Nat) (publication : Publication π ρ)
  | publisher (p : Nat)
  | subscriber (k : Nat) (label : Lane.ReaderLabel)
  | statsSubscriber (k : Nat) (label : Lane.ReaderLabel)

def busStep (bus : EventBus π ρ) : BusLabel π ρ → EventBus π ρ
  | .publish p publication =>
    match bus.publishers p with
    | none => bus.setPublisher p (some (.called publication))
    | some _ => bus
  | .publisher p => bus.publisherStep p
  | .subscriber k label => { bus with events := bus.events.readerStep RuntimeEvent.monotonicTick k label }
  | .statsSubscriber k label => { bus with stats := bus.stats.readerStep RuntimeStats.sampleTick k label }

end EventBus

end ExvVpn.Host
