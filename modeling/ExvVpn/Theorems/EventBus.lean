import ExvVpn.Host.EventBus
import ExvVpn.Tools.Transition

/-! # What a subscriber of the event bus receives

Publications are one after the other, so the ticks of what is sent go up. A subscription reads the latest event and opens its
receiver in two steps, and a publication stores and sends in two: an event sent between the two steps of a subscription is
lost, and one that is read and then sent to the receiver comes twice. -/

namespace ExvVpn.Host.EventBus

open ReplayLane Transition List Function Option RuntimeEvent Lane

variable {π ρ : Type}

/-! ## Steps -/

/-- The publication is inside the gate. -/
def inside : PublisherPc π ρ → Bool
  | .called _ => false
  | _ => true

/-- The event a publication has minted and not sent. -/
def unsent : PublisherPc π ρ → Option (RuntimeEvent π ρ)
  | .numbered _ event => event
  | .statsStored _ event => event
  | .minted event => some event
  | .stored event => some event
  | _ => none

/-- The event that is minted and not sent. -/
def pending (bus : EventBus π ρ) : Option (RuntimeEvent π ρ) :=
  (bus.gate.bind bus.publishers).bind unsent

/-- Who is inside has the gate. -/
def Gated (bus : EventBus π ρ) : Prop :=
  ∀ p pc, bus.publishers p = some pc → inside pc = true → bus.gate = some p

/-- What a step does to the events: nothing, one of the three parts of a publication, or a step of a subscriber. -/
inductive Moved (bus : EventBus π ρ) : Nat → Option (RuntimeEvent π ρ) → Lane (RuntimeEvent π ρ) → Prop where
  | same : Moved bus bus.tick (pending bus) bus.events
  | mint (event : RuntimeEvent π ρ) (hpending : pending bus = none) (htick : event.monotonicTick = bus.tick + 1) :
      Moved bus (bus.tick + 1) (some event) bus.events
  | store (event : RuntimeEvent π ρ) (hpending : pending bus = some event) :
      Moved bus bus.tick (some event) (bus.events.store event)
  | send (event : RuntimeEvent π ρ) (hpending : pending bus = some event) :
      Moved bus bus.tick none (bus.events.send capacity event)
  | reader (k : Nat) (label : Lane.ReaderLabel) :
      Moved bus bus.tick (pending bus) (bus.events.readerStep monotonicTick k label)

variable {bus : EventBus π ρ}

theorem pending_of_inside (h : Gated bus) {p : Nat} {pc : PublisherPc π ρ} (hp : bus.publishers p = some pc)
    (hinside : inside pc = true) : pending bus = unsent pc := by
  simp [pending, h p pc hp hinside, hp]

/-- A publication inside the gate moves on, and what is pending is what it has in its hands. -/
theorem moved_same {event : Option (RuntimeEvent π ρ)} (h : pending bus = event) :
    Moved bus bus.tick event bus.events := h ▸ .same

theorem moved_setPublisher (h : Gated bus) {p : Nat} {pc : PublisherPc π ρ} (hp : bus.publishers p = some pc)
    (hinside : inside pc = true) (next : PublisherPc π ρ) (bus' : EventBus π ρ) (hgate : bus'.gate = bus.gate)
    (hpublishers : bus'.publishers = bus.publishers) (hmoved : Moved bus bus'.tick (unsent next) bus'.events) :
    let after := bus'.setPublisher p (some next)
    Gated after ∧ Moved bus after.tick (pending after) after.events := by
  have hheld : bus'.gate = some p := hgate.trans (h p pc hp hinside)
  constructor
  · refine OptionMap.forall_update (fun q pc' hq _ hinside' => ?_) fun _ _ _ => hheld
    exact hgate.trans (h q pc' (hpublishers ▸ hq) hinside')
  · have hpending : pending (bus'.setPublisher p (some next)) = unsent next := by simp [pending, setPublisher, hheld]
    rw [hpending]
    exact hmoved

/-- What a publication does in its next step. -/
theorem moved_publisherStep (h : Gated bus) (p : Nat) :
    Gated (bus.publisherStep p) ∧
      Moved bus (bus.publisherStep p).tick (pending (bus.publisherStep p)) (bus.publisherStep p).events := by
  unfold publisherStep
  split
  · exact ⟨h, .same⟩
  · rename_i publication hp
    split
    · exact ⟨h, .same⟩
    rename_i hgate
    -- Nobody is inside, so nothing is pending before and after.
    have hnone : pending bus = none := by simp [pending, hgate]
    have hnext : pending ({ bus with gate := some p }.setPublisher p (some (.entered publication))) = none := by
      simp [pending, setPublisher, unsent]
    refine ⟨OptionMap.forall_update (fun q pc hq _ hinside => ?_) fun _ _ _ => rfl, ?_⟩
    · cases hgate.symm.trans (h q pc hq hinside)
    · rw [hnext, ← hnone]
      exact .same
  · rename_i kind compose hp
    exact moved_setPublisher h hp rfl (.minted (composed kind compose (bus.tick + 1)))
      { bus with tick := bus.tick + 1 } rfl rfl (.mint _ (pending_of_inside h hp rfl) rfl)
  · rename_i stats hp
    exact moved_setPublisher h hp rfl (.loaded stats bus.currentSnapshot) bus rfl rfl
      (moved_same ((pending_of_inside h hp rfl).trans rfl))
  · rename_i stats current hp
    split
    · rename_i snapshot _
      exact moved_setPublisher h hp rfl
        (.numbered { stats with sampleTick := bus.tick + 1 }
          (some (refreshed snapshot { stats with sampleTick := bus.tick + 1 } (bus.tick + 1))))
        { bus with tick := bus.tick + 1 } rfl rfl (.mint _ (pending_of_inside h hp rfl) rfl)
    · exact moved_setPublisher h hp rfl (.numbered { stats with sampleTick := bus.tick } none) bus rfl rfl
        (moved_same ((pending_of_inside h hp rfl).trans rfl))
  · rename_i stats event hp
    exact moved_setPublisher h hp rfl (.statsStored stats event)
      { bus with stats := bus.stats.store stats } rfl rfl (moved_same ((pending_of_inside h hp rfl).trans rfl))
  · rename_i stats event hp
    have hevent : pending bus = event := pending_of_inside h hp rfl
    cases event with
    | some event =>
      exact moved_setPublisher h hp rfl (.minted event)
        { bus with stats := bus.stats.send capacity stats } rfl rfl (moved_same hevent)
    | none =>
      exact moved_setPublisher h hp rfl .leaving
        { bus with stats := bus.stats.send capacity stats } rfl rfl (moved_same hevent)
  · rename_i event hp
    exact moved_setPublisher h hp rfl (.stored event)
      { bus with events := bus.events.store event } rfl rfl (.store event (pending_of_inside h hp rfl))
  · rename_i event hp
    exact moved_setPublisher h hp rfl .leaving
      { bus with events := bus.events.send capacity event } rfl rfl (.send event (pending_of_inside h hp rfl))
  · rename_i hp
    have hnone : pending bus = none := pending_of_inside h hp rfl
    have hnext : pending ({ bus with gate := none }.setPublisher p none) = none := by simp [pending, setPublisher]
    refine ⟨OptionMap.forall_update (fun q pc hq hqp hinside => ?_) nofun, ?_⟩
    · -- The gate was held by the publication that leaves.
      have hheld := (h q pc hq hinside).symm.trans (h p _ hp rfl)
      exact absurd (some.inj hheld) hqp
    · rw [hnext, ← hnone]
      exact .same

/-- What a step does. -/
theorem moved_busStep (h : Gated bus) (label : BusLabel π ρ) :
    Gated (busStep bus label) ∧
      Moved bus (busStep bus label).tick (pending (busStep bus label)) (busStep bus label).events := by
  cases label with
  | publish p publication =>
    simp only [busStep]
    split
    · rename_i hp
      have hsame : pending (bus.setPublisher p (some (.called publication))) = pending bus := by
        unfold pending
        cases hgate : bus.gate with
        | none => simp [setPublisher, hgate]
        | some q =>
          by_cases hqp : q = p
          · simp [setPublisher, hgate, hqp, hp, unsent]
          · simp [setPublisher, hgate, update_of_ne hqp]
      refine ⟨OptionMap.forall_update_some h (by rintro ⟨⟩), ?_⟩
      rw [hsame]
      exact .same
    · exact ⟨h, .same⟩
  | publisher p => exact moved_publisherStep h p
  | subscriber k label => exact ⟨h, .reader k label⟩
  | statsSubscriber k label => exact ⟨h, .same⟩

/-! ## Order of the events -/

/-- Nothing that is pending or minted later precedes the event. -/
def Behind (tick : Nat) (pending : Option (RuntimeEvent π ρ)) (event : RuntimeEvent π ρ) : Prop :=
  event.monotonicTick ≤ tick ∧ ∀ next, pending = some next → event.monotonicTick < next.monotonicTick ∨ event = next

/-- Ticks go up in the order of sending, and what is pending comes next. -/
structure Ordered (tick : Nat) (pending : Option (RuntimeEvent π ρ)) (lane : Lane (RuntimeEvent π ρ)) : Prop where
  next : ∀ event, pending = some event → 0 < tick ∧ event.monotonicTick = tick
  sent : ∀ event ∈ lane.sent, event.monotonicTick ≤ tick ∧
    ∀ later, pending = some later → event.monotonicTick < later.monotonicTick
  sorted : lane.sent.Pairwise fun x y => x.monotonicTick < y.monotonicTick
  sound : lane.Sound monotonicTick (Behind tick pending)

/-- Every step keeps the order. -/
theorem ordered_moved {bus : EventBus π ρ} (h : Ordered bus.tick (pending bus) bus.events) {tick : Nat}
    {next : Option (RuntimeEvent π ρ)} {lane : Lane (RuntimeEvent π ρ)} (hmoved : Moved bus tick next lane) :
    Ordered tick next lane := by
  cases hmoved with
  | same => exact h
  | mint event hpending htick =>
    have hlater : ∀ x : RuntimeEvent π ρ, x.monotonicTick ≤ bus.tick → x.monotonicTick < event.monotonicTick := by
      intro x hx
      omega
    refine ⟨?_, ?_, h.sorted, h.sound.mono ?_⟩
    · intro e he
      cases he
      exact ⟨Nat.succ_pos _, htick⟩
    · intro x hx
      have hle := (h.sent x hx).1
      refine ⟨Nat.le_succ_of_le hle, ?_⟩
      intro e he
      cases he
      exact hlater x hle
    · intro r hr
      refine ⟨Nat.le_succ_of_le hr.1, ?_⟩
      intro e he
      cases he
      exact .inl (hlater r hr.1)
  | store event hpending =>
    obtain ⟨hpos, htick⟩ := h.next event hpending
    rw [hpending] at h
    refine ⟨h.next, h.sent, h.sorted, h.sound.store (htick ▸ hpos) ⟨Nat.le_of_eq htick, ?_⟩⟩
    intro e he
    cases he
    exact .inr rfl
  | send event hpending =>
    obtain ⟨-, htick⟩ := h.next event hpending
    refine ⟨by simp, ?_, ?_, ?_⟩
    · refine forall_mem_append.mpr ⟨fun x hx => ⟨(h.sent x hx).1, by simp⟩, forall_mem_singleton.mpr ⟨?_, by simp⟩⟩
      exact Nat.le_of_eq htick
    · refine pairwise_append.mpr ⟨h.sorted, pairwise_singleton _ _, ?_⟩
      intro x hx y hy
      rw [mem_singleton.mp hy]
      exact (h.sent x hx).2 event hpending
    · refine (h.sound.send (fun r hr => hr.2 event hpending) capacity).mono ?_
      intro r hr
      exact ⟨hr.1, by simp⟩
  | reader k label =>
    refine ⟨h.next, ?_, ?_, h.sound.readerStep k label⟩
    · rw [readerStep_sent]
      exact h.sent
    · rw [readerStep_sent]
      exact h.sorted

/-- The events are in order in every state a run reaches. -/
theorem ordered_run (labels : List (BusLabel π ρ)) :
    Ordered (run busStep new labels).tick (pending (run busStep new labels)) (run busStep new labels).events := by
  have hinv := invariant_of_run
    (I := fun bus : EventBus π ρ => Gated bus ∧ Ordered bus.tick (pending bus) bus.events)
    (fun bus label h => ⟨(moved_busStep h.1 label).1, ordered_moved h.2 (moved_busStep h.1 label).2⟩)
    (s := new) ⟨?_, ?_⟩ labels
  · exact hinv.2
  · intro p pc hp
    cases hp
  · exact ⟨by simp [pending, new], by simp [new, empty], List.Pairwise.nil, sound_empty⟩

/-! ## Subscriptions -/

/-- The subscriber is given the event it was replayed and every later one, once and in the order of the ticks. -/
structure Coherent (sent : List (RuntimeEvent π ρ)) (stream : Stream (RuntimeEvent π ρ)) : Prop where
  complete : stream.content monotonicTick = stream.expected monotonicTick sent
  ordered : (stream.content monotonicTick).Pairwise fun x y => x.monotonicTick < y.monotonicTick

/-- In every run a stream that has not lagged is coherent exactly when no event newer than the one read was sent before its
receiver was opened and the one read is not sent after it. -/
theorem subscription_coherent_iff (labels : List (BusLabel π ρ)) {k : Nat} {stream : Stream (RuntimeEvent π ρ)}
    (hstream : (run busStep new labels).events.readers k = some (.streaming stream)) (hlagged : stream.lagged = false) :
    Coherent (run busStep new labels).events.sent stream ↔
      stream.Timely monotonicTick (run busStep new labels).events.sent := by
  have hordered := ordered_run labels
  have hsound : stream.Sound _ _ _ := hordered.sound.readers k _ hstream
  have hiff := hsound.content_eq_expected_iff hlagged hordered.sorted
  constructor
  · intro h
    exact hiff.mp h.complete
  · intro h
    refine ⟨hiff.mpr h, ?_⟩
    rw [hiff.mpr h]
    exact Stream.expected_sorted hordered.sorted stream

/-- A publication of a snapshot that is not connected. -/
def transition : Publication Unit Unit := .composing .transition fun _ => ⟨false, [], none, ()⟩

def transitionEvent (tick : Nat) : RuntimeEvent Unit Unit := ⟨tick, .transition, some ⟨false, [], none, ()⟩, []⟩

/-- A publication from the call to its end. -/
def published (p : Nat) : List (BusLabel Unit Unit) :=
  [.publish p transition, .publisher p, .publisher p, .publisher p, .publisher p, .publisher p]

/-- A subscription between two publications. -/
def subscribedBetween : List (BusLabel Unit Unit) :=
  published 0 ++ [.subscriber 0 (.read 0), .subscriber 0 .openStream] ++ published 1 ++
    [.subscriber 0 .poll, .subscriber 0 .poll]

/-- A stream that has given two events, of which the first was replayed. -/
def givenTwo : Stream (RuntimeEvent Unit Unit) :=
  ⟨0, some (transitionEvent 1), 1, [], [], false, [transitionEvent 1, transitionEvent 2]⟩

/-- A subscription between two publications is given both events. -/
theorem subscription_coherent_between :
    (run busStep new subscribedBetween).events.readers 0 = some (.streaming givenTwo) ∧
      Coherent (run busStep new subscribedBetween).events.sent givenTwo := by
  have hstream : (run busStep new subscribedBetween).events.readers 0 = some (.streaming givenTwo) := rfl
  refine ⟨hstream, (subscription_coherent_iff subscribedBetween hstream rfl).mpr ⟨?_, ?_⟩⟩
  · intro event hevent _
    have hfirst : event ∈ [transitionEvent 1] := hevent
    exact ⟨transitionEvent 1, rfl, Nat.le_of_eq (by rw [mem_singleton.mp hfirst])⟩
  · intro event hevent
    cases hevent
    decide

/-- An event is published between the two steps of a subscription. -/
def publishedBetween : List (BusLabel Unit Unit) :=
  .subscriber 0 (.read 0) :: published 0 ++ [.subscriber 0 .openStream]

/-- A subscription comes between the two steps of a publication. -/
def subscribedInside : List (BusLabel Unit Unit) :=
  [.publish 0 transition, .publisher 0, .publisher 0, .publisher 0, .subscriber 0 (.read 0), .subscriber 0 .openStream,
    .publisher 0, .subscriber 0 .poll, .subscriber 0 .poll]

/-- An event sent between the reading of the cell and the opening of the receiver is lost; one that is read after it was
stored and before it was sent comes twice. -/
theorem event_lost_or_doubled :
    (∃ stream, (run busStep new publishedBetween).events.readers 0 = some (.streaming stream) ∧ stream.lagged = false ∧
      stream.content monotonicTick = [] ∧
      ¬ Coherent (run busStep new publishedBetween).events.sent stream) ∧
    (∃ stream, (run busStep new subscribedInside).events.readers 0 = some (.streaming stream) ∧ stream.lagged = false ∧
      stream.received = [transitionEvent 1, transitionEvent 1] ∧
      ¬ Coherent (run busStep new subscribedInside).events.sent stream) := by
  refine ⟨⟨_, rfl, rfl, rfl, ?_⟩, ⟨_, rfl, rfl, rfl, ?_⟩⟩
  · intro h
    exact absurd h.complete (by decide)
  · intro h
    exact absurd h.complete (by decide)

end ExvVpn.Host.EventBus
