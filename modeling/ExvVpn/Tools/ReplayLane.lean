import ExvVpn.Tools.OptionMap
import Mathlib.Data.List.Basic

/-! # A cell with a broadcast channel

Values with a key are stored in a cell and sent to all open receivers, in two operations. A subscriber reads the cell and
opens a receiver, in two operations as well: its stream gives the value it has read, if it asked for one newer than its last,
and then what the receiver gets beyond that one. A receiver keeps a bounded number of values and loses the oldest when one
more comes. -/

namespace ReplayLane

open List Function Option Stream

variable {α : Type*}

/-- The stream of a subscriber. `replay`, `opened` and `received` are a history: the value that was read, how many values had
been sent when the receiver was opened, and what the stream has given so far. -/
structure Stream (α : Type*) where
  resume : Nat
  replay : Option α
  opened : Nat
  initial : List α
  queue : List α
  lagged : Bool
  received : List α

/-- A subscriber between its two operations, and after them. -/
inductive Reader (α : Type*) where
  | reading (resume : Nat) (replay : Option α)
  | streaming (stream : Stream α)

/-- The cell, everything sent so far in the order of sending, and the subscribers. -/
structure Lane (α : Type*) where
  current : Option α
  sent : List α
  readers : Nat → Option (Reader α)

/-- A lane nobody has used. -/
def Lane.empty : Lane α := ⟨none, [], fun _ => none⟩

/-! ## Streams -/

/-- A value goes into the receiver; the oldest goes when there is no room. -/
def Stream.push (capacity : Nat) (x : α) (s : Stream α) : Stream α :=
  if s.queue.length < capacity then { s with queue := s.queue ++ [x] }
  else { s with queue := s.queue.tail ++ [x], lagged := true }

variable (key : α → Nat)

/-- The next item of the stream, which passes by what is not newer than the last one seen. -/
def Stream.poll (s : Stream α) : Stream α :=
  match s.initial with
  | x :: rest => { s with initial := rest, received := s.received ++ [x] }
  | [] =>
    match s.queue with
    | [] => s
    | x :: rest => { s with queue := rest, received := if s.resume < key x then s.received ++ [x] else s.received }

/-- What the stream has given and will give without anything being sent. -/
def Stream.content (s : Stream α) : List α :=
  s.received ++ s.initial ++ s.queue.filter fun x => s.resume < key x

/-- Polling gives what was to come. -/
theorem Stream.content_poll (s : Stream α) : (s.poll key).content key = s.content key := by
  unfold poll
  split
  · rename_i x rest hinitial
    simp [content, hinitial]
  rename_i hinitial
  split
  · rfl
  rename_i x rest hqueue
  by_cases hx : s.resume < key x
  · simp [content, hinitial, hqueue, hx]
  · simp [content, hinitial, hqueue, hx]

variable {x : α}

/-- A value that finds room is at the end of what is to come, if it passes. -/
theorem Stream.content_push {capacity : Nat} {s : Stream α} (h : (s.push capacity x).lagged = false) :
    (s.push capacity x).content key = s.content key ++ [x].filter fun x => s.resume < key x := by
  unfold push at h ⊢
  split
  · simp [content]
  · rename_i hfull
    rw [if_neg hfull] at h
    cases h

/-! ## Operations -/

/-- The stream of a subscriber gets a value; one that has not opened its receiver gets nothing. -/
def Reader.push (capacity : Nat) (x : α) : Reader α → Reader α
  | .reading resume replay => .reading resume replay
  | .streaming stream => .streaming (stream.push capacity x)

namespace Lane

variable (lane : Lane α) (k : Nat)

/-- The value in the cell is replaced. -/
def store (x : α) : Lane α := { lane with current := some x }

/-- A value goes to every receiver that is open. -/
def send (capacity : Nat) (x : α) : Lane α :=
  { lane with sent := lane.sent ++ [x], readers := fun k => (lane.readers k).map (Reader.push capacity x) }

/-- A new subscriber reads the cell. -/
def read (k resume : Nat) : Lane α :=
  match lane.readers k with
  | none =>
    let replay := lane.current.filter fun x => resume = 0 || resume < key x
    { lane with readers := update lane.readers k (some (.reading resume replay)) }
  | some _ => lane

/-- A subscriber that has read the cell opens its receiver. -/
def openStream : Lane α :=
  match lane.readers k with
  | some (.reading resume replay) =>
    let stream := { resume, replay, opened := lane.sent.length, initial := replay.toList, queue := [], lagged := false,
                    received := [] }
    { lane with readers := update lane.readers k (some (.streaming stream)) }
  | _ => lane

/-- A subscriber takes the next item of its stream. -/
def poll : Lane α :=
  match lane.readers k with
  | some (.streaming stream) =>
    { lane with readers := update lane.readers k (some (.streaming (stream.poll key))) }
  | _ => lane

/-- A step of a subscriber. -/
inductive ReaderLabel where
  | read (resume : Nat)
  | openStream
  | poll

/-- A subscriber takes a step. -/
def readerStep : ReaderLabel → Lane α
  | .read resume => lane.read key k resume
  | .openStream => lane.openStream k
  | .poll => lane.poll key k

/-! ## What a step leaves -/

/-- A reader sends nothing. -/
@[simp] theorem readerStep_sent (label : ReaderLabel) : (lane.readerStep key k label).sent = lane.sent := by
  cases label <;> simp only [readerStep, read, openStream, poll] <;> split <;> rfl

end Lane

/-! ## Invariant

`F` says of a value that nothing sent from now on precedes it. -/

variable {reader : Reader α}

section Sound

variable (F : α → Prop) (sent : List α)

/-- A value that was read is newer than the last one seen, and `F` holds of it. -/
def ReplayOk (resume : Nat) (replay : Option α) : Prop :=
  ∀ r, replay = some r → resume < key r ∧ F r

/-- A stream gives what was read, and then what was sent since its receiver was opened. -/
structure Stream.Sound (s : Stream α) : Prop where
  replay : ReplayOk key F s.resume s.replay
  opened : s.opened ≤ sent.length
  content : s.lagged = false →
    s.content key = s.replay.toList ++ (sent.drop s.opened).filter fun x => s.resume < key x
  after : ∀ r, s.replay = some r → ∀ x ∈ sent.drop s.opened, key r < key x ∨ r = x

/-- What a subscriber has read or is given is in order. -/
def Reader.Sound : Reader α → Prop
  | .reading resume replay => ReplayOk key F resume replay
  | .streaming stream => stream.Sound key F sent

/-- The cell and all subscribers are in order. -/
structure Lane.Sound (lane : Lane α) : Prop where
  current : ∀ x, lane.current = some x → 0 < key x ∧ F x
  readers : ∀ k reader, lane.readers k = some reader → reader.Sound key F lane.sent

variable {key F sent} {lane : Lane α}

/-- A reader under a weaker bound. -/
theorem Reader.Sound.mono {G : α → Prop} (hFG : ∀ r, F r → G r) (h : reader.Sound key F sent) :
    reader.Sound key G sent := by
  have hreplay : ∀ {resume replay}, ReplayOk key F resume replay → ReplayOk key G resume replay := by
    intro resume replay hok r hr
    exact ⟨(hok r hr).1, hFG r (hok r hr).2⟩
  cases reader with
  | reading resume replay => exact hreplay h
  | streaming stream => exact ⟨hreplay h.replay, h.opened, h.content, h.after⟩

/-- A value that is sent comes after what was read before. -/
theorem Reader.Sound.push (h : reader.Sound key F sent) (hx : ∀ r, F r → key r < key x ∨ r = x) (capacity : Nat) :
    (reader.push capacity x).Sound key F (sent ++ [x]) := by
  cases reader with
  | reading resume replay => exact h
  | streaming stream =>
    have hframe : (stream.push capacity x).resume = stream.resume ∧ (stream.push capacity x).replay = stream.replay ∧
        (stream.push capacity x).opened = stream.opened := by
      unfold Stream.push
      split <;> exact ⟨rfl, rfl, rfl⟩
    obtain ⟨hresume, hreplay, hopened⟩ := hframe
    have hdrop : (sent ++ [x]).drop stream.opened = sent.drop stream.opened ++ [x] :=
      drop_append_of_le_length h.opened
    refine ⟨?_, ?_, ?_, ?_⟩
    · rw [hresume, hreplay]
      exact h.replay
    · rw [hopened, length_append]
      exact Nat.le_add_right_of_le h.opened
    · intro hlagged
      have hbefore : stream.lagged = false := by
        unfold Stream.push at hlagged
        split at hlagged
        · exact hlagged
        · cases hlagged
      rw [Stream.content_push key hlagged, h.content hbefore, hresume, hreplay, hopened, hdrop, filter_append,
        append_assoc]
    · intro r hr y hy
      rw [hreplay] at hr
      rw [hopened, hdrop, mem_append, mem_singleton] at hy
      rcases hy with hy | rfl
      · exact h.after r hr y hy
      · exact hx r (h.replay r hr).2

namespace Lane

/-- A lane nobody has used. -/
theorem sound_empty : (empty : Lane α).Sound key F where
  current := fun _ h => nomatch h
  readers := fun _ _ h => nomatch h

variable (h : lane.Sound key F)
include h

/-- A lane under a weaker bound. -/
theorem Sound.mono {G : α → Prop} (hFG : ∀ r, F r → G r) : lane.Sound key G :=
  ⟨fun x hx => ⟨(h.current x hx).1, hFG x (h.current x hx).2⟩, fun k reader hk => (h.readers k reader hk).mono hFG⟩

/-- A value is stored. -/
theorem Sound.store (hpos : 0 < key x) (hx : F x) : (lane.store x).Sound key F := by
  refine ⟨?_, h.readers⟩
  intro y hy
  cases hy
  exact ⟨hpos, hx⟩

/-- A value that is newer than all is sent. -/
theorem Sound.send (hx : ∀ r, F r → key r < key x ∨ r = x) (capacity : Nat) : (lane.send capacity x).Sound key F := by
  refine ⟨h.current, ?_⟩
  intro k reader hk
  obtain ⟨before, hbefore, rfl⟩ := map_eq_some_iff.mp hk
  exact (h.readers k before hbefore).push hx capacity

/-- One reader is replaced. -/
theorem Sound.update (k : Nat) (hreader : reader.Sound key F lane.sent) :
    Sound key F { lane with readers := update lane.readers k (some reader) } := by
  refine ⟨h.current, OptionMap.forall_update (fun m x hm _ => h.readers m x hm) ?_⟩
  intro x hx
  cases hx
  exact hreader

/-- A reader takes a step. -/
theorem Sound.readerStep (k : Nat) (label : ReaderLabel) : (lane.readerStep key k label).Sound key F := by
  cases label with
  | read resume =>
    simp only [Lane.readerStep, Lane.read]
    split
    · refine h.update k ?_
      intro r hr
      obtain ⟨hcurrent, hnewer⟩ := filter_eq_some_iff.mp hr
      obtain ⟨hpos, hF⟩ := h.current r hcurrent
      refine ⟨?_, hF⟩
      simp only [Bool.or_eq_true, decide_eq_true_eq] at hnewer
      rcases hnewer with rfl | hlt
      · exact hpos
      · exact hlt
    · exact h
  | openStream =>
    simp only [Lane.readerStep, Lane.openStream]
    split
    · rename_i resume replay hk
      refine h.update k ⟨h.readers k _ hk, Nat.le.refl, ?_, ?_⟩
      · simp [Stream.content]
      · simp
    · exact h
  | poll =>
    simp only [Lane.readerStep, Lane.poll]
    split
    · rename_i stream hk
      have hstream : stream.Sound key F lane.sent := h.readers k _ hk
      have hframe : (stream.poll key).resume = stream.resume ∧ (stream.poll key).replay = stream.replay ∧
          (stream.poll key).opened = stream.opened ∧ (stream.poll key).lagged = stream.lagged := by
        unfold Stream.poll
        split
        · exact ⟨rfl, rfl, rfl, rfl⟩
        · split <;> exact ⟨rfl, rfl, rfl, rfl⟩
      obtain ⟨hresume, hreplay, hopened, hlagged⟩ := hframe
      refine h.update k ⟨?_, ?_, ?_, ?_⟩
      · rw [hresume, hreplay]
        exact hstream.replay
      · rw [hopened]
        exact hstream.opened
      · rw [hlagged, hresume, hreplay, hopened, Stream.content_poll]
        exact hstream.content
      · rw [hreplay, hopened]
        exact hstream.after
    · exact h

end Lane

/-! ## Coherence -/

/-- What the stream should give: the value read and all that are newer, or all that are newer than the last one seen. -/
def Stream.expected (key : α → Nat) (sent : List α) (s : Stream α) : List α :=
  match s.replay with
  | some r => r :: sent.filter fun x => key r < key x
  | none => sent.filter fun x => s.resume < key x

/-- Nothing newer than what was read had been sent when the receiver was opened, and what was read is not sent after it. -/
structure Stream.Timely (key : α → Nat) (sent : List α) (s : Stream α) : Prop where
  before : ∀ x ∈ sent.take s.opened, s.resume < key x → ∃ r, s.replay = some r ∧ key x ≤ key r
  after : ∀ r, s.replay = some r → r ∉ sent.drop s.opened

/-- A stream that lost nothing gives what it should exactly when it was opened in time. -/
theorem Stream.Sound.content_eq_expected_iff {s : Stream α} (h : s.Sound key F sent) (hlagged : s.lagged = false)
    (hsorted : sent.Pairwise fun x y => key x < key y) : s.content key = s.expected key sent ↔ s.Timely key sent := by
  have hcontent := h.content hlagged
  have hsplit : sent = sent.take s.opened ++ sent.drop s.opened := (take_append_drop _ _).symm
  generalize hbefore : sent.take s.opened = before at hsplit
  generalize hafter : sent.drop s.opened = after at hsplit hcontent
  have hdisjoint : ∀ x ∈ before, x ∉ after := by
    intro x hx hx'
    rw [hsplit] at hsorted
    exact Nat.lt_irrefl _ ((pairwise_append.mp hsorted).2.2 x hx x hx')
  unfold expected
  rw [hcontent, hsplit]
  cases hreplay : s.replay with
  | none =>
    simp only [toList_none, nil_append, filter_append]
    rw [self_eq_append_left, filter_eq_nil_iff]
    constructor
    · intro hnone
      refine ⟨?_, fun r hr => by rw [hreplay] at hr; cases hr⟩
      intro x hx hlt
      rw [← hsplit, hbefore] at hx
      exact absurd (decide_eq_true hlt) (hnone x hx)
    · intro htimely x hx hlt
      rw [← hsplit] at htimely
      obtain ⟨r, hr, -⟩ := htimely.before x (by rw [hbefore]; exact hx) (of_decide_eq_true hlt)
      rw [hreplay] at hr
      cases hr
  | some r =>
    obtain ⟨hnewer, -⟩ := h.replay r hreplay
    have hlater : ∀ x ∈ after, key r < key x ∨ r = x := by
      rw [← hafter]
      exact h.after r hreplay
    simp only [toList_some, singleton_append, cons.injEq, true_and, filter_append]
    rw [← hsplit]
    constructor
    · intro heq
      have hmem : ∀ x, (x ∈ before ∧ key r < key x) ∨ (x ∈ after ∧ key r < key x) ↔ x ∈ after ∧ s.resume < key x := by
        intro x
        have hsame := (congrArg (x ∈ ·) heq).symm
        simpa using hsame
      refine ⟨?_, ?_⟩
      · intro x hx hlt
        rw [hbefore] at hx
        refine ⟨r, hreplay, ?_⟩
        by_contra hgt
        exact hdisjoint x hx ((hmem x).mp (.inl ⟨hx, by omega⟩)).1
      · intro r' hr' hin
        rw [hreplay] at hr'
        cases hr'
        rw [hafter] at hin
        rcases (hmem r).mpr ⟨hin, hnewer⟩ with ⟨-, hself⟩ | ⟨-, hself⟩
        · exact Nat.lt_irrefl _ hself
        · exact Nat.lt_irrefl _ hself
    · intro htimely
      have hnone : before.filter (fun x => key r < key x) = [] := by
        rw [filter_eq_nil_iff]
        intro x hx hlt
        have hlt := of_decide_eq_true hlt
        obtain ⟨r', hr', hle⟩ := htimely.before x (by rw [hbefore]; exact hx) (by omega)
        rw [hreplay] at hr'
        cases hr'
        omega
      rw [hnone, nil_append]
      refine filter_congr ?_
      intro x hx
      rcases hlater x hx with hlt | rfl
      · simp only [hlt, decide_true, decide_eq_true_eq]
        omega
      · exact absurd (by rw [hafter]; exact hx) (htimely.after r hreplay)

/-- A stream gives its values in order. -/
theorem Stream.expected_sorted (hsorted : sent.Pairwise fun x y => key x < key y) (s : Stream α) :
    (s.expected key sent).Pairwise fun x y => key x < key y := by
  unfold expected
  split
  · refine pairwise_cons.mpr ⟨?_, hsorted.filter _⟩
    intro x hx
    exact of_decide_eq_true (mem_filter.mp hx).2
  · exact hsorted.filter _

end Sound

end ReplayLane
