import Mathlib.Data.List.Basic

/-! # Incremental consumers of an append-only input

A consumer reads a growing input through a buffer. It needs more input, takes something off the front and goes on, or stops
for good. It advances soundly when going on shortens the buffer and is not changed by input that arrives behind it; it is
lawful when a stop is not changed by it either. A lawful consumer ends up with the same however the input is cut. -/

namespace Incremental

open List

universe u v

/-- The decision of one pass over the buffered input, with the consumer's state after it. -/
inductive Verdict (σ : Type u) (β : Type v) where
  /-- More input is needed; nothing has changed. -/
  | starved
  /-- Input was taken off the front. -/
  | advance (s : σ) (rest : List β)
  /-- The consumer has stopped for good. -/
  | halt (s : σ)
  deriving DecidableEq, Repr

/-- Where a consumer stands when it has drained its buffer. -/
inductive Drained (σ : Type u) (β : Type v) where
  /-- It waits for more input behind `rest`. -/
  | waiting (s : σ) (rest : List β)
  /-- It has stopped for good. -/
  | halted (s : σ)
  deriving DecidableEq, Repr

variable {σ τ : Type u} {β : Type v}

/-- A verdict with its state translated. -/
def Verdict.map (f : σ → τ) : Verdict σ β → Verdict τ β
  | .starved => .starved
  | .advance s rest => .advance (f s) rest
  | .halt s => .halt (f s)

/-- A drained buffer with its state translated. -/
def Drained.map (f : σ → τ) : Drained σ β → Drained τ β
  | .waiting s rest => .waiting (f s) rest
  | .halted s => .halted (f s)

variable (pass : σ → List β → Verdict σ β)

/-- A pass advances soundly: input behind the buffer does not change what is taken off its front, and taking uses it up. -/
structure Advancing : Prop where
  advance_append : ∀ {s s' b r} (c : List β), pass s b = .advance s' r → pass s (b ++ c) = .advance s' (r ++ c)
  advance_lt : ∀ {s s' b r}, pass s b = .advance s' r → r.length < b.length

/-- A pass is lawful: besides, input behind the buffer does not undo a halt. -/
structure Lawful : Prop extends Advancing pass where
  halt_append : ∀ {s s' b} (c : List β), pass s b = .halt s' → pass s (b ++ c) = .halt s'

/-- Passes repeated until one of them is starved or halts, at most `fuel` of them. -/
def drain (pass : σ → List β → Verdict σ β) : Nat → σ → List β → Option (Drained σ β)
  | 0, _, _ => none
  | fuel + 1, s, b =>
    match pass s b with
    | .starved => some (.waiting s b)
    | .advance s' r => drain pass fuel s' r
    | .halt s' => some (.halted s')

/-- The drained buffer, with the fuel that always suffices for a lawful pass. -/
def settle (s : σ) (b : List β) : Drained σ β :=
  (drain pass (b.length + 1) s b).getD (.waiting s b)

/-- Input that arrives behind a drained buffer; a halted consumer takes no notice of it. -/
def Drained.feed : Drained σ β → List β → Drained σ β
  | .waiting s rest, chunk => settle pass s (rest ++ chunk)
  | .halted s, _ => .halted s

/-- The state the consumer ended up in. -/
def Drained.state : Drained σ β → σ
  | .waiting s _ => s
  | .halted s => s

variable {pass}

/-! ## Draining ends -/

/-- A consumer that advances soundly drains any buffer with one pass more than the buffer is long. -/
theorem drain_ends (hp : Advancing pass) (fuel : Nat) (s : σ) (b : List β) (h : b.length < fuel) :
    ∃ d, drain pass fuel s b = some d := by
  induction fuel generalizing s b with
  | zero => omega
  | succ fuel ih =>
    simp only [drain]
    cases hv : pass s b with
    | starved => exact ⟨_, rfl⟩
    | advance s' r =>
      have hlt := hp.advance_lt hv
      exact ih s' r (by omega)
    | halt s' => exact ⟨_, rfl⟩

variable {s : σ} {b : List β}

/-- More fuel does not change how a buffer drains. -/
theorem drain_mono {fuel fuel' : Nat} {d : Drained σ β} (h : drain pass fuel s b = some d)
    (hle : fuel ≤ fuel') : drain pass fuel' s b = some d := by
  induction fuel generalizing fuel' s b with
  | zero => simp [drain] at h
  | succ fuel ih =>
    obtain ⟨m, rfl⟩ : ∃ m, fuel' = m + 1 := ⟨fuel' - 1, by omega⟩
    simp only [drain] at h ⊢
    cases hv : pass s b with
    | starved => simpa [hv] using h
    | advance s' r =>
      simp only [hv] at h
      exact ih h (by omega)
    | halt s' => simpa [hv] using h

/-- Any drain that ends is the settled buffer. -/
theorem drain_eq_settle (hp : Advancing pass) {fuel : Nat} {d : Drained σ β}
    (h : drain pass fuel s b = some d) : settle pass s b = d := by
  obtain ⟨e, he⟩ := drain_ends hp (b.length + 1) s b (by omega)
  have hd := drain_mono h (Nat.le_max_left fuel (b.length + 1))
  have he' := drain_mono he (Nat.le_max_right fuel (b.length + 1))
  rw [hd] at he'
  simp [settle, he, Option.some.inj he']

/-! ## The three cases of a settled buffer -/

/-- A consumer that needs more input waits. -/
theorem settle_starved (hv : pass s b = .starved) : settle pass s b = .waiting s b := by
  simp [settle, drain, hv]

/-- A consumer that stops has stopped. -/
theorem settle_halt {s' : σ} (hv : pass s b = .halt s') : settle pass s b = .halted s' := by
  simp [settle, drain, hv]

/-- A pass that goes on changes nothing of the end. -/
theorem settle_advance (hp : Advancing pass) {s' : σ} {r : List β} (hv : pass s b = .advance s' r) :
    settle pass s b = settle pass s' r := by
  obtain ⟨d, hd⟩ := drain_ends hp (r.length + 1) s' r (by omega)
  have hb : drain pass (r.length + 2) s b = some d := by simpa [drain, hv] using hd
  rw [drain_eq_settle hp hb, drain_eq_settle hp hd]

/-- Induction along the passes over a buffer. -/
theorem pass_induct (hp : Advancing pass) {motive : σ → List β → Prop} (starved : ∀ s b, pass s b = .starved → motive s b)
    (advance : ∀ s b s' r, pass s b = .advance s' r → motive s' r → motive s b)
    (halt : ∀ s b s', pass s b = .halt s' → motive s b) (s : σ) (b : List β) : motive s b :=
  match hv : pass s b with
  | .starved => starved s b hv
  | .advance s' r => advance s b s' r hv (pass_induct hp starved advance halt s' r)
  | .halt s' => halt s b s' hv
termination_by b.length
decreasing_by exact hp.advance_lt hv

/-- What holds at the start and is kept by every pass holds where draining ends. -/
theorem settle_induct (hp : Advancing pass) (P : σ → Prop)
    (hadv : ∀ {s s' b r}, pass s b = .advance s' r → P s → P s') (hhalt : ∀ {s s' b}, pass s b = .halt s' → P s → P s')
    (s : σ) (b : List β) (h : P s) : P (settle pass s b).state := by
  induction s, b using pass_induct hp with
  | starved s b hv =>
    rw [settle_starved hv]
    exact h
  | advance s b s' r hv ih =>
    rw [settle_advance hp hv]
    exact ih (hadv hv h)
  | halt s b s' hv =>
    rw [settle_halt hv]
    exact hhalt hv h

/-- Two consumers whose passes agree up to translations of their states drain a buffer alike up to them. -/
theorem settle_map_congr {ρ : Type u} {other : τ → List β → Verdict τ β} (hp : Advancing pass) (ho : Advancing other)
    {f : σ → ρ} {g : τ → ρ} (h : ∀ s t b, f s = g t → (pass s b).map f = (other t b).map g) {s : σ} {t : τ}
    (hst : f s = g t) (b : List β) : (settle pass s b).map f = (settle other t b).map g := by
  induction s, b using pass_induct hp generalizing t with
  | starved s b hv =>
    have hpass := h s t b hst
    rw [hv] at hpass
    cases hw : other t b <;> rw [hw] at hpass <;> cases hpass
    rw [settle_starved hv, settle_starved hw, Drained.map, Drained.map, hst]
  | advance s b s' r hv ih =>
    have hpass := h s t b hst
    rw [hv] at hpass
    cases hw : other t b with
    | advance t' r' =>
      rw [hw, Verdict.map, Verdict.map, Verdict.advance.injEq] at hpass
      obtain ⟨hst', rfl⟩ := hpass
      rw [settle_advance hp hv, settle_advance ho hw, ih hst']
    | starved | halt => rw [hw] at hpass; cases hpass
  | halt s b s' hv =>
    have hpass := h s t b hst
    rw [hv] at hpass
    cases hw : other t b with
    | halt t' =>
      rw [hw, Verdict.map, Verdict.map, Verdict.halt.injEq] at hpass
      rw [settle_halt hv, settle_halt hw, Drained.map, Drained.map, hpass]
    | starved | advance => rw [hw] at hpass; cases hpass

/-- A translation of states that every pass respects is respected by draining. -/
theorem settle_map (hp : Advancing pass) (f : σ → σ) (hf : ∀ s b, pass (f s) b = (pass s b).map f) (s : σ) (b : List β) :
    settle pass (f s) b = (settle pass s b).map f := by
  have h := @settle_map_congr _ _ _ _ _ _ hp hp id f (fun t s b hts => ?_) (f s) s rfl b
  · cases hd : settle pass (f s) b <;> rw [hd] at h <;> exact h
  · rw [show t = f s from hts, hf]
    cases pass s b <;> rfl

/-! ## Feeding in pieces -/

/-- A buffer that was drained without a halt may be drained on, from where it stands, when more arrives. -/
theorem settle_append_of_waiting (hp : Advancing pass) {s' : σ} {r : List β} (c : List β)
    (h : settle pass s b = .waiting s' r) : settle pass s (b ++ c) = settle pass s' (r ++ c) := by
  induction s, b using pass_induct hp with
  | starved s b hv =>
    rw [settle_starved hv, Drained.waiting.injEq] at h
    rw [h.1, h.2]
  | advance s b s₁ r₁ hv ih =>
    rw [settle_advance hp hv] at h
    rw [settle_advance hp (hp.advance_append c hv), ih h]
  | halt s b s₁ hv => simp [settle_halt hv] at h

/-- Draining before the rest arrives is the same as draining once, with everything there. -/
theorem settle_append (hp : Lawful pass) (s : σ) (b c : List β) :
    (settle pass s b).feed pass c = settle pass s (b ++ c) := by
  induction s, b using pass_induct hp.toAdvancing with
  | starved s b hv => rw [settle_starved hv, Drained.feed]
  | advance s b s' r hv ih =>
    rw [settle_advance hp.toAdvancing hv, settle_advance hp.toAdvancing (hp.advance_append c hv), ih]
  | halt s b s' hv => rw [settle_halt hv, settle_halt (hp.halt_append c hv), Drained.feed]

/-- Feeding the pieces one after another, each drained before the next, is draining their concatenation. -/
theorem foldl_feed (hp : Lawful pass) (s : σ) (b : List β) (chunks : List (List β)) :
    chunks.foldl (Drained.feed pass) (settle pass s b) = settle pass s (b ++ chunks.flatten) := by
  induction chunks generalizing b with
  | nil => simp
  | cons c cs ih => rw [foldl_cons, settle_append hp, ih, flatten_cons, append_assoc]

/-- A halted consumer stays as it is, whatever is fed to it. -/
theorem foldl_feed_halted (s : σ) (chunks : List (List β)) :
    chunks.foldl (Drained.feed pass) (.halted s) = .halted s := by
  induction chunks with
  | nil => rfl
  | cons c cs ih => exact ih

end Incremental
