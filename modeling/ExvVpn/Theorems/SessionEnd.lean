import ExvVpn.Win32Engine.WriterLoop

/-!
# The reason that a writer reports

The writer reports the first terminal event that it observes, with two exceptions: the drain behind the close of the data
channel passes over a failed write, and a write channel that is found closed in front of a terminal event makes the writer
report a reason of its own.
-/

namespace ExvVpn.EngineDataPlane

open Cstp List Option Writer CstpControlEvent

variable {ε : Type}

/-- The reason for which an event ends the session. -/
def terminal : CstpControlEvent ε → Option (SessionEndReason ε)
  | .writeFailed error => some (.io error)
  | event => ended event

/-- The control events that a round observes, in order. -/
def Round.observed (round : Round ε) : List (CstpControlEvent ε) :=
  round.drained ++
    match round.poll with
    | .closed drained => drained
    | _ => []

/-- What the loop observes until it ends. -/
def observed (w : Writer ε) : List (Round ε) → List (CstpControlEvent ε)
  | [] => []
  | round :: rounds =>
    round.observed ++
      match writerRound w round with
      | .ok w => observed w rounds
      | .error _ => []

/-- A write channel is found closed only when the event for it has been drained, and the drain behind a close of the data
channel finds no failed write in front of the end of the session. -/
structure Round.InTime (round : Round ε) : Prop where
  write : round.writeClosed.isSome → ∃ event ∈ round.drained, (terminal event).isSome
  data : ∀ drained error, round.poll = .closed drained → .writeFailed error ∉ drained.takeWhile fun event => (ended event).isNone

/-- A fold that keeps the first value it meets. -/
theorem foldl_or {σ α β : Type} {get : σ → Option β} {step : σ → α → σ} {f : α → Option β}
    (h : ∀ s a, get (step s a) = (get s).or (f a)) (xs : List α) (s : σ) :
    get (xs.foldl step s) = (get s).or (xs.findSome? f) := by
  induction xs generalizing s with
  | nil => simp
  | cons x xs ih =>
    rw [foldl_cons, ih, h, Option.or_assoc, findSome?_cons]
    cases f x <;> rfl

/-- An event of the first drain is stashed if it is the first terminal one. -/
theorem sessionEnd_handle (w : Writer ε) (event : CstpControlEvent ε) :
    (w.handle event).sessionEnd = w.sessionEnd.or (terminal event) := by
  cases event with
  | control kind body =>
    simp only [handle, controlEventAction, terminal, ended]
    split <;> grind
  | dpdResponse | sessionEnded | writeFailed | ioDiagnostics => simp [handle, controlEventAction, terminal, ended]

/-- The second drain finds the first terminal event, unless a failed write comes first. -/
theorem ended_eq_terminal {events : List (CstpControlEvent ε)}
    (h : ∀ error, .writeFailed error ∉ events.takeWhile fun event => (ended event).isNone) :
    events.findSome? ended = events.findSome? terminal := by
  induction events with
  | nil => rfl
  | cons event events ih =>
    cases event with
    | sessionEnded reason => rfl
    | writeFailed error => exact absurd mem_cons_self (h error)
    | control | dpdResponse | ioDiagnostics => exact ih fun error => not_mem_of_not_mem_cons (h error)

/-- One round: a writer that goes on has observed nothing terminal, and one that ends reports the first that it has. -/
theorem round_spec {w : Writer ε} (hw : w.sessionEnd = none) {round : Round ε} (hround : round.InTime) :
    match writerRound w round with
    | .ok after => after.sessionEnd = none ∧ round.observed.findSome? terminal = none
    | .error report => report.sessionEnd = round.observed.findSome? terminal := by
  have hdrain := foldl_or sessionEnd_handle round.drained w
  rw [hw, none_or] at hdrain
  rw [writerRound, Round.observed, findSome?_append, ← hdrain]
  generalize round.drained.foldl handle w = after at hdrain ⊢
  cases hend : after.sessionEnd with
  | some reason => simp
  | none =>
    have hopen : round.writeClosed = none := by
      rw [← not_isSome_iff_eq_none]
      intro hclosed
      obtain ⟨event, hevent, hterminal⟩ := hround.write hclosed
      rw [hend, eq_comm, findSome?_eq_none_iff] at hdrain
      rw [hdrain event hevent] at hterminal
      cases hterminal
    rw [hopen]
    cases hpoll : round.poll with
    | empty => exact ⟨hend, rfl⟩
    | packet sendError =>
      rcases sendError with _ | code
      · exact ⟨hend, rfl⟩
      · by_cases hfull : code = errorBufferOverflow
        · simp [hfull, hend]
        · simp [hfull]
    | closed drained =>
      have hended := @foldl_or _ _ _ id finalDrain ended (fun _ _ => rfl) drained none
      rw [ended_eq_terminal fun error => hround.data drained error hpoll] at hended
      exact hended

/-- The reported reason is the first terminal event of the run, if each round sees it in time. -/
theorem session_end_first_terminal (rounds : List (Round ε)) (report : Report ε)
    (hreport : writerLoop .new rounds = some report) (hrounds : ∀ round ∈ rounds, round.InTime) :
    report.sessionEnd = (observed .new rounds).findSome? terminal := by
  have hnew : (new : Writer ε).sessionEnd = none := rfl
  generalize (new : Writer ε) = w at hnew hreport ⊢
  induction rounds generalizing w with
  | nil => nomatch hreport
  | cons round rounds ih =>
    have hround := round_spec hnew (hrounds round mem_cons_self)
    rw [observed, findSome?_append]
    rw [writerLoop] at hreport
    cases hstep : writerRound w round with
    | ok after =>
      rw [hstep] at hround hreport
      rw [hround.2, none_or]
      exact ih (fun r hr => hrounds r (mem_cons_of_mem _ hr)) after hround.1 hreport
    | error first =>
      rw [hstep] at hround hreport
      obtain rfl := some.inj hreport
      rw [hround, findSome?_nil, or_none]

/-- Two rounds without a terminal event, and then a failed write in front of the end of the session: the write is what the
writer reports, and the closed write channel makes no difference. -/
theorem session_end_failed_write :
    let rounds : List (Round Nat) := [⟨[.dpdResponse], none, .packet none⟩, ⟨[.control 0x07 []], none, .empty⟩,
      ⟨[.writeFailed 104, .sessionEnded .gatewayClosedStream], some 32, .closed []⟩]
    writerLoop .new rounds = some ⟨.sessionTerminated, none, some (.io 104)⟩ ∧
      some (.io 104) = (observed .new rounds).findSome? terminal := by
  intro rounds
  refine ⟨rfl, session_end_first_terminal rounds ⟨.sessionTerminated, none, some (.io 104)⟩ rfl ?_⟩
  simp only [rounds, forall_mem_cons]
  refine ⟨⟨by simp, by simp⟩, ⟨by simp, by simp⟩, ⟨fun _ => ⟨_, mem_cons_self, rfl⟩, ?_⟩, by simp⟩
  rintro drained error hpoll
  cases hpoll
  exact not_mem_nil

/-- A failed write that comes with the close of the data channel is not reported. -/
theorem failed_write_not_reported :
    let rounds : List (Round Unit) := [⟨[], none, .closed [.writeFailed ()]⟩]
    writerLoop .new rounds = some ⟨.readChannelClosed, none, none⟩ ∧
      (observed .new rounds).findSome? terminal = some (.io ()) :=
  ⟨rfl, rfl⟩

end ExvVpn.EngineDataPlane
