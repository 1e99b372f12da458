import ExvVpn.Cstp.Mux
import ExvVpn.Tools.Transition

/-!
# What the mux gives out

In every run of the mux the bytes it counts are those it holds, within the budget; the frames of each producer come out in
the order in which they were accepted, each once; a control frame that is queued is next; and the end of the stream is the
last item, once.
-/

namespace ExvVpn.Cstp

open Transition List Function Mux MuxItem

/-! ## Calls and their record -/

inductive MuxCall where
  | pushControl (kind : ControlKind)
  | pushData (source : DataSource) (payload : Bytes)
  | next
  | peerRead (consumed : Nat)
  | eof

/-- A mux, what it accepted and what came out of it. -/
structure MuxRun where
  mux : Mux
  acceptedControl : List ControlKind
  accepted : DataSource → List Bytes
  out : List MuxItem

/-- A mux before any call. -/
def MuxRun.new (config : MuxConfig) : MuxRun := ⟨.new config, [], fun _ => [], []⟩

def muxStep (r : MuxRun) : MuxCall → MuxRun
  | .pushControl kind =>
    match r.mux.pushControl kind with
    | .ok mux => { r with mux, acceptedControl := r.acceptedControl ++ [kind] }
    | .error _ => r
  | .pushData source payload =>
    match r.mux.pushData source payload with
    | .ok mux => { r with mux, accepted := update r.accepted source (r.accepted source ++ [payload]) }
    | .error _ => r
  | .next => { r with mux := r.mux.next.2, out := r.out ++ r.mux.next.1.toList }
  | .peerRead consumed => { r with mux := r.mux.peerRead consumed }
  | .eof => { r with mux := r.mux.markEof }

/-- The payload of an item of a producer. -/
def MuxItem.payloadOf (source : DataSource) : MuxItem → Option Bytes
  | .data producer payload => if producer = source then some payload else none
  | _ => none

def MuxItem.controlOf : MuxItem → Option ControlKind
  | .control kind => some kind
  | _ => none

def frameBytes (frames : List Bytes) : Nat := frames.flatten.length

/-- The number of frames that are queued. -/
def Mux.pending (mux : Mux) : Nat := mux.control.length + mux.dataA.length + mux.dataB.length

/-! ## One call -/

variable {config : MuxConfig} {r : MuxRun}

namespace MuxAux

@[simp] theorem frameBytes_nil : frameBytes [] = 0 := rfl

@[simp] theorem frameBytes_cons (frame : Bytes) (frames : List Bytes) :
    frameBytes (frame :: frames) = frame.length + frameBytes frames := by
  simp [frameBytes]

@[simp] theorem frameBytes_append (frames frames' : List Bytes) :
    frameBytes (frames ++ frames') = frameBytes frames + frameBytes frames' := by
  simp [frameBytes]

/-- What a call can lead to. -/
inductive Called (r : MuxRun) : MuxCall → MuxRun → Prop
  | refused (call : MuxCall) (h : call ≠ .next) : Called r call r
  | control (kind : ControlKind) (h : r.mux.eof = false) :
      Called r (.pushControl kind)
        { r with mux := { r.mux with control := r.mux.control ++ [kind] }, acceptedControl := r.acceptedControl ++ [kind] }
  | data (source : DataSource) (payload : Bytes) (h : r.mux.eof = false)
      (hfits : r.mux.queuedBytes + r.mux.inflightBytes + payload.length ≤ r.mux.config.dataByteBudget) :
      Called r (.pushData source payload)
        { r with
          mux := { r.mux with queuedBytes := r.mux.queuedBytes + payload.length }.setQueue
            (r.mux.queue source ++ [payload]) source
          accepted := update r.accepted source (r.accepted source ++ [payload]) }
  | next {item : Option MuxItem} {after : Mux} (h : r.mux.Next item after) :
      Called r .next { r with mux := after, out := r.out ++ item.toList }
  | peerRead (consumed : Nat) : Called r (.peerRead consumed) { r with mux := r.mux.peerRead consumed }
  | eof : Called r .eof { r with mux := r.mux.markEof }

theorem called_muxStep (r : MuxRun) (call : MuxCall) : Called r call (muxStep r call) := by
  cases call with
  | pushControl kind =>
    simp only [muxStep]
    cases hpush : r.mux.pushControl kind with
    | error error => exact .refused _ (by simp)
    | ok mux =>
      obtain ⟨heof, -, rfl⟩ := pushControl_eq_ok_iff.mp hpush
      exact .control kind heof
  | pushData source payload =>
    simp only [muxStep]
    cases hpush : r.mux.pushData source payload with
    | error error => exact .refused _ (by simp)
    | ok mux =>
      obtain ⟨heof, hfits, rfl⟩ := pushData_eq_ok_iff.mp hpush
      exact .data source payload heof hfits
  | next => exact .next (next_next r.mux)
  | peerRead consumed => exact .peerRead consumed
  | eof => exact .eof

/-! ## Every run -/

/-- The end of the stream in what came out: the last item if it was given out, and nowhere otherwise. -/
inductive EofLast (mux : Mux) (out : List MuxItem) : Prop
  | emitted (items : List MuxItem) (hout : out = items ++ [.eof]) (h : .eof ∉ items) (heof : mux.eof = true)
      (hcontrol : mux.control = []) (hdata : ∀ source, mux.queue source = []) (hemitted : mux.eofEmitted = true)
  | waiting (h : .eof ∉ out) (hemitted : mux.eofEmitted = false)

/-- What holds of every mux in a run. -/
structure Sound (config : MuxConfig) (r : MuxRun) : Prop where
  config_eq : r.mux.config = config
  queued : r.mux.queuedBytes = frameBytes r.mux.dataA + frameBytes r.mux.dataB
  bounded : r.mux.queuedBytes + r.mux.inflightBytes ≤ config.dataByteBudget
  ordered : ∀ source, r.accepted source = r.out.filterMap (·.payloadOf source) ++ r.mux.queue source
  controls : r.acceptedControl = r.out.filterMap controlOf ++ r.mux.control
  eofLast : EofLast r.mux r.out

theorem sound_new (config : MuxConfig) : Sound config (.new config) where
  config_eq := rfl
  queued := rfl
  bounded := Nat.zero_le _
  ordered source := by cases source <;> rfl
  controls := rfl
  eofLast := .waiting not_mem_nil rfl

/-- The bytes of one queue are among all. -/
theorem frameBytes_queue_le (mux : Mux) (source : DataSource) :
    frameBytes (mux.queue source) ≤ frameBytes mux.dataA + frameBytes mux.dataB := by
  cases source <;> simp only [queue] <;> omega

/-- The mux gives out an item, or nothing. -/
theorem sound_next (h : Sound config r) {item : Option MuxItem} {after : Mux}
    (hnext : r.mux.Next item after) : Sound config { r with mux := after, out := r.out ++ item.toList } := by
  have hlast := h.eofLast
  cases hnext with
  | control kind rest hcontrol =>
    refine ⟨h.config_eq, h.queued, h.bounded, fun source => ?_, by simp [h.controls, controlOf, hcontrol], ?_⟩
    · rw [h.ordered source]
      cases source <;> simp [payloadOf, queue]
    · cases hlast with
      | emitted items _ _ _ hempty _ _ => simp [hempty] at hcontrol
      | waiting hmem hemitted => exact .waiting (by simp [hmem]) hemitted
  | data source payload rest hcontrol hqueue =>
    have hle := frameBytes_queue_le r.mux source
    have hqueued := h.queued
    have hbounded := h.bounded
    rw [hqueue, frameBytes_cons] at hle
    refine ⟨by simp [h.config_eq], ?_, ?_, fun other => ?_, by simp [h.controls, controlOf], ?_⟩
    · cases source <;> simp only [queue] at hqueue <;> simp [setQueue, hqueued, hqueue] <;> omega
    · simp only [setQueue_queuedBytes, setQueue_inflightBytes]
      omega
    · rw [h.ordered other]
      by_cases hother : other = source
      · subst hother
        simp [payloadOf, hqueue]
      · rw [queue_setQueue_of_ne hother]
        cases other <;> simp [payloadOf, Ne.symm hother, queue]
    · cases hlast with
      | emitted _ _ _ _ _ hempty _ => simp [hempty] at hqueue
      | waiting hmem hemitted => exact .waiting (by simp [hmem]) (by simp [hemitted])
  | eof hcontrol hdata heof hemitted =>
    refine ⟨h.config_eq, h.queued, h.bounded, fun source => ?_, by simp [h.controls, controlOf], ?_⟩
    · rw [h.ordered source]
      cases source <;> simp [payloadOf, queue]
    · cases hlast with
      | emitted _ _ _ _ _ _ hdone => simp [hdone] at hemitted
      | waiting hmem _ => exact .emitted r.out rfl hmem heof hcontrol hdata rfl
  | nothing hcontrol hdata hdone =>
    simp only [Option.toList_none, append_nil]
    exact h

theorem EofLast.eofEmitted_of_eof {mux : Mux} {out : List MuxItem} (h : EofLast mux out) (heof : mux.eof = false) :
    .eof ∉ out ∧ mux.eofEmitted = false := by
  cases h with
  | emitted _ _ _ hmarked _ _ _ => simp [heof] at hmarked
  | waiting hmem hemitted => exact ⟨hmem, hemitted⟩

/-- One call keeps the invariant. -/
theorem sound_muxStep (h : Sound config r) (call : MuxCall) : Sound config (muxStep r call) := by
  have hcalled := called_muxStep r call
  generalize muxStep r call = after at hcalled ⊢
  cases hcalled with
  | refused _ _ => exact h
  | control kind heof =>
    obtain ⟨hmem, hemitted⟩ := h.eofLast.eofEmitted_of_eof heof
    refine ⟨h.config_eq, h.queued, h.bounded, fun source => ?_, by simp [h.controls], .waiting hmem hemitted⟩
    rw [h.ordered source]
    cases source <;> rfl
  | data source payload heof hfits =>
    obtain ⟨hmem, hemitted⟩ := h.eofLast.eofEmitted_of_eof heof
    have hqueued := h.queued
    have hconfig := h.config_eq
    rw [hconfig] at hfits
    refine ⟨by simp [hconfig], ?_, ?_, fun other => ?_, by simp [h.controls],
      .waiting hmem (by simp [hemitted])⟩
    · cases source <;> simp [setQueue, queue, hqueued] <;> omega
    · simp only [setQueue_queuedBytes, setQueue_inflightBytes]
      omega
    · by_cases hother : other = source
      · subst hother
        simp [h.ordered other]
      · rw [queue_setQueue_of_ne hother]
        simp only [update_of_ne hother, h.ordered other]
        cases other <;> rfl
  | next hnext => exact sound_next h hnext
  | peerRead consumed =>
    have hbounded := h.bounded
    refine ⟨h.config_eq, h.queued, ?_, fun source => ?_, h.controls, ?_⟩
    · simp only [peerRead]
      omega
    · rw [h.ordered source]
      cases source <;> rfl
    · cases h.eofLast with
      | emitted items hout hmem heof hcontrol hdata hemitted =>
        exact .emitted items hout hmem heof hcontrol (by simpa using hdata) hemitted
      | waiting hmem hemitted => exact .waiting hmem hemitted
  | eof =>
    refine { h with ordered := fun source => ?_, eofLast := ?_ }
    · rw [h.ordered source]
      cases source <;> rfl
    · cases h.eofLast with
      | emitted items hout hmem heof hcontrol hdata hemitted =>
        exact .emitted items hout hmem rfl hcontrol (by simpa using hdata) hemitted
      | waiting hmem hemitted => exact .waiting hmem hemitted

/-- It holds in every run. -/
theorem sound_run (config : MuxConfig) (calls : List MuxCall) : Sound config (run muxStep (.new config) calls) :=
  invariant_of_run (I := Sound config) (fun _ call h => sound_muxStep h call) (sound_new config) calls

/-! ## Everything comes out -/

/-- Nothing is queued. -/
theorem queues_empty_of_pending {mux : Mux} (h : mux.pending = 0) :
    mux.control = [] ∧ ∀ source, mux.queue source = [] := by
  simp only [pending, Nat.add_eq_zero_iff, length_eq_zero_iff] at h
  exact ⟨h.1.1, fun source => by cases source <;> simp [queue, h]⟩

/-- Each call of `next` takes one of the frames that are queued, and accepts nothing. -/
theorem pending_next (r : MuxRun) :
    (muxStep r .next).mux.pending = r.mux.pending - 1 ∧ (muxStep r .next).accepted = r.accepted ∧
      (muxStep r .next).mux.eof = r.mux.eof := by
  have hnext := next_next r.mux
  simp only [muxStep, pending]
  generalize r.mux.next.1 = item, r.mux.next.2 = after at hnext ⊢
  refine ⟨?_, trivial, ?_⟩
  · cases hnext with
    | control kind rest hcontrol =>
      simp only [hcontrol, length_cons]
      omega
    | data source payload rest hcontrol hqueue =>
      cases source <;> simp only [queue] at hqueue <;> simp [setQueue, hcontrol, hqueue]
    | eof hcontrol hdata _ _ | nothing hcontrol hdata _ =>
      have hA := hdata .producerA
      have hB := hdata .producerB
      simp only [queue] at hA hB
      simp [hcontrol, hA, hB]
  · cases hnext with
    | control | eof | nothing => rfl
    | data => simp

theorem pending_drain (r : MuxRun) (n : Nat) :
    let drained := run muxStep r (replicate n .next)
    drained.mux.pending = r.mux.pending - n ∧ drained.accepted = r.accepted ∧ drained.mux.eof = r.mux.eof := by
  induction n generalizing r with
  | zero => simp
  | succ n ih =>
    obtain ⟨hpending, haccepted, heof⟩ := pending_next r
    obtain ⟨hpending', haccepted', heof'⟩ := ih (muxStep r .next)
    rw [replicate_succ, run_cons]
    refine ⟨?_, haccepted'.trans haccepted, heof'.trans heof⟩
    omega

/-- When nothing is queued and the end was marked, the end comes out now or came out last. -/
theorem getLast_next (h : Sound config r) (hpending : r.mux.pending = 0)
    (heof : r.mux.eof = true) : (muxStep r .next).out.getLast? = some .eof := by
  obtain ⟨hcontrol, hdata⟩ := queues_empty_of_pending hpending
  have hnext := next_next r.mux
  simp only [muxStep]
  generalize r.mux.next.1 = item, r.mux.next.2 = after at hnext ⊢
  cases hnext with
  | control kind rest hsome => simp [hcontrol] at hsome
  | data source payload rest _ hqueue => simp [hdata source] at hqueue
  | eof _ _ _ _ => simp
  | nothing _ _ hdone =>
    cases h.eofLast with
    | emitted items hout _ _ _ _ _ => simp [hout]
    | waiting _ hemitted => simp [hdone heof] at hemitted

end MuxAux

open MuxAux

/-- In every run of the mux: the queued bytes are those of the queued frames; with the bytes in flight they stay within the
budget, and what is subtracted for a frame is there; the accepted frames of each producer, and the control frames, are those
that came out, in order, followed by those that are queued; a queued control frame is the next item; after the end of the
stream, which comes out once, nothing comes; and enough calls of `next` give out all frames and then the end, if it was
marked. -/
theorem mux_sound (config : MuxConfig) (calls : List MuxCall) :
    let r := run muxStep (.new config) calls
    let later := fun n => run muxStep r (replicate n .next)
    r.mux.queuedBytes = frameBytes r.mux.dataA + frameBytes r.mux.dataB ∧
      r.mux.queuedBytes + r.mux.inflightBytes ≤ config.dataByteBudget ∧
      (∀ source payload after, r.mux.takeNextData = some (source, payload, after) →
        payload.length ≤ r.mux.queuedBytes) ∧
      (∀ source, r.accepted source = r.out.filterMap (·.payloadOf source) ++ r.mux.queue source) ∧
      r.acceptedControl = r.out.filterMap controlOf ++ r.mux.control ∧
      (∀ kind rest, r.mux.control = kind :: rest → r.mux.next = (some (.control kind), { r.mux with control := rest })) ∧
      (∀ before after, r.out = before ++ .eof :: after → .eof ∉ before ∧ after = []) ∧
      (∀ source, (later r.mux.pending).out.filterMap (·.payloadOf source) = r.accepted source) ∧
      (r.mux.eof = true → (later (r.mux.pending + 1)).out.getLast? = some .eof) := by
  intro r later
  have h : Sound config r := sound_run config calls
  have hlater : ∀ n, Sound config (later n) := fun n =>
    invariant_of_run (I := Sound config) (fun _ call hs => sound_muxStep hs call) h _
  obtain ⟨hpending, haccepted, heof⟩ := pending_drain r r.mux.pending
  rw [Nat.sub_self] at hpending
  refine ⟨h.queued, h.bounded, ?_, h.ordered, h.controls, ?_, ?_, ?_, ?_⟩
  · intro source payload after htake
    obtain ⟨rest, hqueue, -⟩ := takeNextData_eq_some htake
    have hle := frameBytes_queue_le r.mux source
    rw [hqueue, frameBytes_cons, ← h.queued] at hle
    omega
  · intro kind rest hcontrol
    simp [Mux.next, hcontrol]
  · intro before after hout
    cases h.eofLast with
    | emitted items hitems hmem _ _ _ _ =>
      have hsplit := hitems.symm.trans hout
      rw [append_cons_inj_of_notMem hmem not_mem_nil] at hsplit
      exact ⟨hsplit.1 ▸ hmem, hsplit.2.2.symm⟩
    | waiting hmem _ => exact absurd (hout ▸ mem_append_right _ (mem_cons_self ..)) hmem
  · intro source
    have hordered := (hlater r.mux.pending).ordered source
    rw [(queues_empty_of_pending hpending).2 source, append_nil] at hordered
    exact hordered.symm.trans (congrFun haccepted source)
  · intro hmarked
    have hsplit : later (r.mux.pending + 1) = muxStep (later r.mux.pending) .next := by
      simp only [later, replicate_succ', run_append]
      rfl
    rw [hsplit]
    exact getLast_next (hlater _) hpending (heof.trans hmarked)

/-- With a budget of up to `2^63` bytes the sum in `push_data` fits in a word of 64 bits, since a vector is shorter than
that. -/
theorem total_lt_word (hbudget : 2 * config.dataByteBudget ≤ UInt64.size) (calls : List MuxCall)
    {payload : Bytes} (h : 2 * payload.length < UInt64.size) :
    let mux := (run muxStep (.new config) calls).mux
    mux.queuedBytes + mux.inflightBytes + payload.length < UInt64.size := by
  intro mux
  have hbounded : mux.queuedBytes + mux.inflightBytes ≤ config.dataByteBudget := (sound_run config calls).bounded
  omega

/-- A mux whose budget is used up. -/
theorem total_lt_word_full : let mux := (run muxStep (.new ⟨0, 2⟩) [.pushData .producerA [1, 2]]).mux
    mux.queuedBytes + mux.inflightBytes + 1 < UInt64.size :=
  @total_lt_word ⟨0, 2⟩ (by decide) [.pushData .producerA [1, 2]] [1] (by decide)

/-! ## Turns -/

/-- The producers of the data frames that came out. -/
def sources (out : List MuxItem) : List DataSource :=
  out.filterMap fun
    | .data source _ => some source
    | _ => none

/-- After a frame of one producer it is the turn of the other one. -/
def InTurn (r : MuxRun) : Prop := ∀ source ∈ (sources r.out).getLast?, r.mux.nextSource = source.other

/-- One call keeps the turns. -/
theorem inTurn_muxStep (r : MuxRun) (call : MuxCall) (h : InTurn r) : InTurn (muxStep r call) := by
  have hcalled := called_muxStep r call
  generalize muxStep r call = after at hcalled ⊢
  cases hcalled with
  | data producer => cases producer <;> exact h
  | next hnext =>
    cases hnext with
    | data producer => cases producer <;> simp [InTurn, sources, setQueue]
    | _ => simpa [InTurn, sources] using h
  | _ => exact h

/-- The producers take turns: in every run a frame comes out behind one of the same producer only if nothing of the other one is
queued. -/
theorem data_in_turns (config : MuxConfig) (calls : List MuxCall) :
    let r := run muxStep (.new config) calls
    ∀ source payload after, r.mux.takeNextData = some (source, payload, after) → source ∈ (sources r.out).getLast? →
      r.mux.queue source.other = [] := by
  intro r source payload after htake hlast
  have hturn : r.mux.nextSource = source.other :=
    invariant_of_run inTurn_muxStep (fun _ h => by cases h) calls source hlast
  by_contra hqueued
  have hchosen : r.mux.chosen = some source.other := by rw [chosen, hturn, if_neg hqueued]
  simp only [takeNextData, hchosen] at htake
  split at htake
  · cases htake
  · cases source <;> cases htake

/-- Two turns in a row: nothing else is queued. -/
theorem data_in_turns_alone :
    (run muxStep (.new ⟨0, 4⟩) [.pushData .producerA [1, 2], .pushData .producerA [3], .next]).mux.queue .producerB = [] :=
  data_in_turns ⟨0, 4⟩ _ .producerA [3] _ rfl rfl

end ExvVpn.Cstp
