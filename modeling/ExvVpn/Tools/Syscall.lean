import Mathlib.Data.List.Basic

/-!
# Programs whose system calls may fail

A program is run with a script that says how each of its system calls goes; a call beyond the end of the script does its work.
A process that dies is one whose calls all fail from some point on and leave nothing behind, so what holds at the end of every
script holds wherever the program stops.
-/

namespace Syscall

open Syscall

/-- How a system call goes: it does its work, or it fails when a part of it is done. -/
inductive Outcome
  | done
  | failed (part : Nat)
deriving DecidableEq, Repr

/-- Whether the call at a position of a script fails. -/
def fails (script : List Outcome) (i : Nat) : Bool :=
  match script[i]? with
  | some (.failed _) => true
  | _ => false

/-- Beyond the script no call fails. -/
@[simp] theorem fails_nil (i : Nat) : fails [] i = false := rfl

/-- The calls behind the first. -/
@[simp] theorem fails_tail (script : List Outcome) (i : Nat) : fails script.tail i = fails script (i + 1) := by
  cases script <;> rfl

/-- The next calls, as many as said, go through. -/
def goes : Nat → List Outcome → Bool
  | 0, _ => true
  | n + 1, script => !fails script 0 && goes n script.tail

/-- The first calls go, and so do the next. -/
theorem goes_add (m n : Nat) (script : List Outcome) : goes (m + n) script = (goes m script && goes n (script.drop m)) := by
  induction m generalizing script with
  | zero => simp [goes]
  | succ m ih => rw [Nat.succ_add, goes, goes, ih, List.drop_tail, Bool.and_assoc]

/-- Beyond the script every call goes. -/
@[simp] theorem goes_nil (n : Nat) : goes n [] = true := by
  induction n with
  | zero => rfl
  | succ n ih => exact ih

/-- What a call that fails next has done. -/
def part : List Outcome → Nat
  | .failed n :: _ => n
  | _ => 0

/-- A program over a state `σ` with errors `ε`: its result, the state it leaves and the part of the script it did not use. -/
def Prog (σ ε α : Type) := σ → List Outcome → Except ε α × σ × List Outcome

variable {σ ε ε' α β : Type}

/-- The program that does nothing. -/
def ret (a : α) : Prog σ ε α := fun s script => (.ok a, s, script)

/-- The program that stops with an error. -/
def stop (e : ε) : Prog σ ε α := fun s script => (.error e, s, script)

/-- One program after another; an error ends both. -/
def seq (m : Prog σ ε α) (f : α → Prog σ ε β) : Prog σ ε β := fun s script =>
  match m s script with
  | (.ok a, s', script') => f a s' script'
  | (.error e, s', script') => (.error e, s', script')

instance : Monad (Prog σ ε) where
  pure := ret
  bind := seq

/-- The result of a program, an error included, as a value. -/
def attempt (m : Prog σ ε α) : Prog σ ε' (Except ε α) := fun s script =>
  (.ok (m s script).1, (m s script).2)

/-- A program whose errors are turned into those of its caller. -/
def mapError (f : ε → ε') (m : Prog σ ε α) : Prog σ ε' α := fun s script =>
  ((m s script).1.mapError f, (m s script).2)

/-- One system call, by what it does when it goes through and what it leaves when it fails. -/
def call (done : σ → Except ε α × σ) (failed : Nat → σ → ε × σ) : Prog σ ε α := fun s script =>
  match script with
  | [] => ((done s).1, (done s).2, [])
  | .done :: rest => ((done s).1, (done s).2, rest)
  | .failed n :: rest => (.error (failed n s).1, (failed n s).2, rest)

/-- A value takes no call. -/
@[simp] theorem pure_run (a : α) (s : σ) (script : List Outcome) :
    (pure a : Prog σ ε α) s script = (.ok a, s, script) := rfl

/-- An error takes no call. -/
@[simp] theorem stop_run (e : ε) (s : σ) (script : List Outcome) :
    (stop e : Prog σ ε α) s script = (.error e, s, script) := rfl

/-- A call takes one position of the script. -/
theorem call_run (done : σ → Except ε α × σ) (failed : Nat → σ → ε × σ) (s : σ) (script : List Outcome) :
    call done failed s script =
      if fails script 0 then (.error (failed (part script) s).1, (failed (part script) s).2, script.tail)
      else ((done s).1, (done s).2, script.tail) := by
  rcases script with _ | ⟨_ | n, rest⟩ <;> rfl

/-- The run of two programs. -/
theorem bind_run (m : Prog σ ε α) (f : α → Prog σ ε β) (s : σ) (script : List Outcome) :
    (m >>= f) s script = match m s script with
      | (.ok a, s', script') => f a s' script'
      | (.error e, s', script') => (.error e, s', script') := rfl

variable {f : α → Prog σ ε β} {m : Prog σ ε α} {s s' : σ} {script script' : List Outcome}

/-- The second program runs if the first succeeds. -/
theorem bind_of_ok {a : α} (h : m s script = (.ok a, s', script')) : (m >>= f) s script = f a s' script' := by
  rw [bind_run, h]

/-- An error ends the program. -/
theorem bind_of_error {e : ε} (h : m s script = (.error e, s', script')) : (m >>= f) s script = (.error e, s', script') := by
  rw [bind_run, h]

/-- Two programs give a value only when the first gives one to the second. -/
theorem bind_eq_ok {b : β} (h : ((m >>= f) s script).1 = .ok b) :
    ∃ a s' script', m s script = (.ok a, s', script') ∧ (f a s' script').1 = .ok b := by
  rw [bind_run] at h
  rcases hm : m s script with ⟨e | a, s', script'⟩
  · rw [hm] at h
    cases h
  · rw [hm] at h
    exact ⟨a, s', script', rfl, h⟩

/-- What is made of a result does not change what the program leaves. -/
theorem bind_pure_snd (m : Prog σ ε α) (f : α → β) (s : σ) (script : List Outcome) :
    ((m >>= fun a => pure (f a)) s script).2 = (m s script).2 := by
  rw [bind_run]
  rcases m s script with ⟨_ | _, _⟩ <;> rfl

/-! ## What a run from one state comes to -/

/-- Under every script, a value is left with `Q` and an error with `E`; and where `C` holds, a run in which no call fails gives
a value. -/
def Ends (C : Prop) (m : Prog σ ε α) (s : σ) (Q : α → σ → Prop) (E : σ → Prop) : Prop :=
  ∀ script, (∀ a, (m s script).1 = .ok a → Q a (m s script).2.1) ∧ (∀ e, (m s script).1 = .error e → E (m s script).2.1) ∧
    (script = [] → (m s script).2.2 = [] ∧ (C → ∃ a, (m s script).1 = .ok a))

namespace Ends

variable {C C' : Prop} {Q Q' : α → σ → Prop} {E E' : σ → Prop}

/-- A weaker statement about a program. -/
theorem weaken (h : Ends C m s Q E) (hc : C' → C) (hq : ∀ a s', Q a s' → Q' a s') (he : ∀ s', E s' → E' s') :
    Ends C' m s Q' E' := by
  intro script
  obtain ⟨hok, herr, hclean⟩ := h script
  exact ⟨fun a ha => hq _ _ (hok a ha), fun e ha => he _ (herr e ha), fun hs => ⟨(hclean hs).1, fun c => (hclean hs).2 (hc c)⟩⟩

/-- A value is at hand. -/
protected theorem pure {a : α} (h : Q a s) : Ends C (Pure.pure a : Prog σ ε α) s Q E := by
  intro script
  refine ⟨fun b hb => ?_, fun e he => ?_, fun hs => ⟨hs, fun _ => ⟨a, rfl⟩⟩⟩
  · cases hb
    exact h
  · cases he

/-- A program that ends with an error. -/
protected theorem stop {e : ε} (h : E s) (hc : ¬ C) : Ends C (stop e : Prog σ ε α) s Q E := by
  intro script
  refine ⟨fun b hb => ?_, fun _ _ => h, fun hs => ⟨hs, fun c => absurd c hc⟩⟩
  cases hb

/-- The second program goes on from whatever the first leaves with a value; the first one's errors are the end. -/
protected theorem bind {R : α → σ → Prop} {Q : β → σ → Prop} (hm : Ends C' m s R E')
    (hc : C → C') (hf : ∀ a s', R a s' → Ends C (f a) s' Q E) (he : ∀ s', E' s' → E s') : Ends C (m >>= f) s Q E := by
  intro script
  obtain ⟨hok, herr, hclean⟩ := hm script
  rw [bind_run]
  rcases hrun : m s script with ⟨e | a, s', script'⟩
  · rw [hrun] at herr hclean
    refine ⟨fun b hb => ?_, fun _ _ => he _ (herr e rfl), fun hs => ⟨(hclean hs).1, fun c => ?_⟩⟩
    · cases hb
    · obtain ⟨a, ha⟩ := (hclean hs).2 (hc c)
      cases ha
  · rw [hrun] at hok hclean
    obtain ⟨hok', herr', hclean'⟩ := hf a s' (hok a rfl) script'
    exact ⟨hok', herr', fun hs => hclean' (hclean hs).1⟩

/-- An attempt gives a value whatever the program does. -/
protected theorem attempt (h : Ends C m s Q E) : Ends C' (attempt m : Prog σ ε' (Except ε α)) s
    (fun r s' => (∀ a, r = .ok a → Q a s') ∧ ∀ e, r = .error e → E s') E' := by
  intro script
  obtain ⟨hok, herr, hclean⟩ := h script
  refine ⟨fun b hb => ?_, fun e he => ?_, fun hs => ⟨(hclean hs).1, fun _ => ⟨_, rfl⟩⟩⟩
  · cases hb
    exact ⟨hok, herr⟩
  · cases he

/-- A program that looks at the result of another goes on from whatever that leaves. -/
theorem attempt_bind {R : β → σ → Prop} {F : σ → Prop} {f : Except ε α → Prog σ ε' β} (hm : Ends C' m s Q E)
    (hf : ∀ r s', (∀ a, r = .ok a → Q a s') → (∀ e, r = .error e → E s') → Ends C (f r) s' R F) :
    Ends C (attempt m >>= f) s R F := by
  intro script
  obtain ⟨hok, herr, hclean⟩ := hm script
  obtain ⟨hok', herr', hclean'⟩ := hf _ _ hok herr (m s script).2.2
  exact ⟨hok', herr', fun hs => hclean' (hclean hs).1⟩

/-- The error is replaced. -/
protected theorem mapError {f : ε → ε'} (h : Ends C m s Q E) : Ends C (mapError f m) s Q E := by
  intro script
  obtain ⟨hok, herr, hclean⟩ := h script
  simp only [mapError]
  generalize m s script = r at hok herr hclean ⊢
  rcases r with ⟨e | a, s', script'⟩
  · refine ⟨fun b hb => ?_, fun _ _ => herr e rfl, fun hs => ⟨(hclean hs).1, fun c => ?_⟩⟩
    · cases hb
    · obtain ⟨a, ha⟩ := (hclean hs).2 c
      cases ha
  · refine ⟨fun b hb => ?_, fun e he => ?_, fun hs => ⟨(hclean hs).1, fun _ => ⟨a, rfl⟩⟩⟩
    · cases hb
      exact hok a rfl
    · cases he

/-- One call, done or failed. -/
protected theorem call {done : σ → Except ε α × σ} {failed : Nat → σ → ε × σ} (hok : ∀ a, (done s).1 = .ok a → Q a (done s).2)
    (herr : ∀ e, (done s).1 = .error e → E (done s).2) (hfailed : ∀ n, E (failed n s).2)
    (hc : C → ∃ a, (done s).1 = .ok a) : Ends C (call done failed) s Q E := by
  intro script
  rcases script with _ | ⟨_ | n, rest⟩
  · exact ⟨hok, herr, fun _ => ⟨rfl, hc⟩⟩
  · exact ⟨hok, herr, nofun⟩
  · refine ⟨fun a ha => ?_, fun _ _ => hfailed n, nofun⟩
    cases ha

end Ends

/-- A run that leaves the state as it is, with `R` of the value it gives. -/
def Reads (C : Prop) (m : Prog σ ε α) (s : σ) (R : α → Prop) : Prop :=
  Ends C m s (fun a s' => s' = s ∧ R a) (· = s)

variable {R : α → Prop}

/-- A program that takes one position of the script and changes nothing. -/
theorem Reads.of_run (h : ∀ script, (m s script).2 = (s, script.tail))
    (hr : ∀ script a, (m s script).1 = .ok a → R a) : Reads False m s R := by
  intro script
  rw [h]
  refine ⟨fun a ha => ⟨rfl, hr script a ha⟩, fun _ _ => rfl, ?_⟩
  rintro rfl
  exact ⟨rfl, nofun⟩

/-- A program that only reads goes first. -/
theorem Reads.bind {C C' : Prop} {Q : β → σ → Prop} {E : σ → Prop} (hm : Reads C' m s R) (hc : C → C')
    (he : E s) (hf : ∀ a, R a → Ends C (f a) s Q E) :
    Ends C (m >>= f) s Q E := by
  refine Ends.bind hm hc (fun a s' h => ?_) fun s' h => ?_
  · obtain ⟨rfl, ha⟩ := h
    exact hf a ha
  · exact h ▸ he

/-- Reading with the error as a value. -/
theorem Reads.attempt {C C' : Prop} (hm : Reads C' m s R) :
    Reads C (attempt m : Prog σ ε' (Except ε α)) s fun r => ∀ a, r = .ok a → R a := by
  refine (Ends.attempt hm).weaken id (fun r s' h => ?_) fun _ => id
  cases r with
  | ok a => exact ⟨(h.1 a rfl).1, fun b hb => Except.ok.inj hb ▸ (h.1 a rfl).2⟩
  | error e => exact ⟨h.2 e rfl, nofun⟩

end Syscall
