import ExvVpn.Lemmas.SystemProxy

/-!
# Fingerprints of proxy settings

A fingerprint is the five values one behind the other, each with a mark and without a length. Two settings have one fingerprint
exactly when, at the first value in which they differ, the content of one goes on where the other's ends, with bytes that read
like the values the other has there.
-/

namespace ExvVpn.SystemProxy

open RustStr List LittleEndian RawInternetSettings

def RawInternetSettings.values (raw : RawInternetSettings) : List RawValue := raw.fields.map Prod.snd

/-- The content of a value goes on with more bytes where the content of another one ends: both are texts, or raw values of one
type. -/
inductive Continues (more : Bytes) : RawValue → RawValue → Prop
  | text {shorter longer : Text}
      (h : ofUnits (encodeUtf16 longer) = ofUnits (encodeUtf16 shorter) ++ more) :
      Continues more (.sz shorter) (.sz longer)
  | raw (type : UInt32) (data : Bytes) : Continues more (.other type data) (.other type (data ++ more))

/-- At the first value at which the lists differ, the one of `ws` goes on with bytes that, with the values behind it, read like
the values of `vs` from there on. -/
def Imitates (ws vs : List RawValue) : Prop :=
  ∃ same v w vs' ws' more, vs = same ++ v :: vs' ∧ ws = same ++ w :: ws' ∧ more ≠ [] ∧ Continues more v w ∧
    vs'.flatMap fingerprintValue = more ++ ws'.flatMap fingerprintValue

namespace ProxyFingerprintAux

variable {v w : RawValue} {more : Bytes}

theorem values_inj {a b : RawInternetSettings} (h : a.values = b.values) : a = b := by
  cases a
  cases b
  simpa [values, fields] using h

theorem fingerprintValue_of_continues (h : Continues more v w) : fingerprintValue w = fingerprintValue v ++ more := by
  cases h with
  | text h => rw [fingerprintValue, fingerprintValue, h, cons_append]
  | raw type data => simp only [fingerprintValue, cons_append, append_assoc]

/-- Only the content of texts and of raw values has no fixed length. -/
theorem continues_of_fingerprintValue (h : fingerprintValue w = fingerprintValue v ++ more) (hmore : more ≠ []) :
    Continues more v w := by
  cases v <;> cases w <;> simp only [fingerprintValue, cons_append, cons.injEq] at h <;> try (cases h.1; done)
  · exact absurd h.2.symm hmore
  · have hlen := congrArg length h.2
    simp only [length_append, toBytes_length] at hlen
    exact absurd (length_eq_zero_iff.mp (by omega)) hmore
  · exact .text h.2
  · rw [append_assoc] at h
    obtain ⟨htype, rfl⟩ := append_inj h.2 (by simp)
    rw [UInt32.toNat_inj.mp (toBytes_inj (UInt32.toNat_lt _) (UInt32.toNat_lt _) htype)]
    exact .raw _ _

theorem fingerprint_of_imitates {vs ws : List RawValue} (h : Imitates ws vs) :
    ws.flatMap fingerprintValue = vs.flatMap fingerprintValue ∧ ws ≠ vs := by
  obtain ⟨same, v, w, vs', ws', more, rfl, rfl, hmore, hcontinues, hrest⟩ := h
  have hvalue := fingerprintValue_of_continues hcontinues
  refine ⟨by simp only [flatMap_append, flatMap_cons, hrest, hvalue, append_assoc], fun heq => ?_⟩
  obtain ⟨rfl, -⟩ := cons.inj (append_cancel_left heq)
  exact hmore (self_eq_append_right.mp hvalue)

/-- Lists of one length with one fingerprint are the same, or one imitates the other. -/
theorem imitates_of_fingerprint {vs ws : List RawValue} (hlen : vs.length = ws.length)
    (h : vs.flatMap fingerprintValue = ws.flatMap fingerprintValue) : vs = ws ∨ Imitates ws vs ∨ Imitates vs ws := by
  induction vs generalizing ws with
  | nil => exact .inl (length_eq_zero_iff.mp hlen.symm).symm
  | cons v vs ih =>
    obtain ⟨w, ws, rfl⟩ := exists_cons_of_length_eq_add_one hlen.symm
    by_cases hvw : v = w
    · subst hvw
      rcases ih (Nat.succ.inj hlen) (append_cancel_left h) with rfl | himitates
      · exact .inl rfl
      -- the first difference lies further on
      refine .inr (himitates.imp ?_ ?_) <;>
      · rintro ⟨same, x, y, xs, ys, more, rfl, rfl, hrest⟩
        exact ⟨v :: same, x, y, xs, ys, more, rfl, rfl, hrest⟩
    · have hne : ∀ more : Bytes, fingerprintValue v = fingerprintValue w ++ more ∨
          fingerprintValue w = fingerprintValue v ++ more → more ≠ [] := by
        rintro _ hvalue rfl
        simp only [append_nil] at hvalue
        exact hvw (hvalue.elim (fingerprintValue_injective ·) fun h => (fingerprintValue_injective h).symm)
      right
      rcases append_eq_append_iff.mp h with ⟨more, hvalue, hrest⟩ | ⟨more, hvalue, hrest⟩
      · have hmore := hne more (.inr hvalue)
        exact .inl ⟨[], v, w, vs, ws, more, rfl, rfl, hmore, continues_of_fingerprintValue hvalue hmore, hrest⟩
      · have hmore := hne more (.inl hvalue)
        exact .inr ⟨[], w, v, ws, vs, more, rfl, rfl, hmore, continues_of_fingerprintValue hvalue hmore, hrest⟩

end ProxyFingerprintAux

open ProxyFingerprintAux

/-- Two settings that differ have different fingerprints unless one imitates the other. -/
theorem fingerprint_tells_apart_iff (a b : RawInternetSettings) :
    (a ≠ b → fingerprintPrestate a ≠ fingerprintPrestate b) ↔
      ¬Imitates a.values b.values ∧ ¬Imitates b.values a.values := by
  constructor
  · intro h
    refine ⟨fun himitates => ?_, fun himitates => ?_⟩
    · obtain ⟨hsame, hne⟩ := fingerprint_of_imitates himitates
      exact h (fun heq => hne (by rw [heq])) hsame
    · obtain ⟨hsame, hne⟩ := fingerprint_of_imitates himitates
      exact h (fun heq => hne (by rw [heq])) hsame.symm
  · rintro ⟨hab, hba⟩ hne hsame
    have hlen : a.values.length = b.values.length := rfl
    rcases imitates_of_fingerprint hlen hsame with heq | h | h
    · exact hne (values_inj heq)
    · exact hba h
    · exact hab h

namespace ProxyFingerprintAux

/-- An empty server and a bypass list of one letter. -/
def bypassSettings : RawInternetSettings := ⟨.absent, .sz [], .sz ['a'], .absent, .absent⟩

/-- A server of one character and no bypass list. -/
def serverSettings : RawInternetSettings := ⟨.absent, .sz [Char.ofNat 0x6103], .absent, .absent, .absent⟩

end ProxyFingerprintAux

/-- The mark of the bypass list and its letter read as one character of the server. -/
theorem bypass_read_as_server :
    bypassSettings ≠ serverSettings ∧ fingerprintPrestate bypassSettings = fingerprintPrestate serverSettings ∧
      fingerprintPrestate bypassSettings = [0, 3, 3, 0x61, 0, 0, 0] := by
  refine ⟨?_, ?_, ?_⟩ <;> decide

end ExvVpn.SystemProxy
