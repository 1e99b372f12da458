import ExvVpn.Lemmas.SystemProxy
import ExvVpn.SystemProxy.Session
import ExvVpn.Tools.UndoLog

/-! # Accounting for a user's proxy settings

The settings of a user vary in one value only, so that fingerprints tell them apart, the writes of a restore leave either the
old or the new settings, and a step is an entry of an undo log. -/

namespace ExvVpn.SystemProxy

open RustStr UndoLog List Option RawInternetSettings

/-! ## Plans -/

/-- The value that a step changes: the bypass text of a manual proxy, otherwise the PAC address. It depends on the proxy
server alone, which no step changes. -/
def managed (raw : RawInternetSettings) : ValueName :=
  match endpointsFrom raw with
  | .ok (_ :: _) => .proxyOverride
  | _ => .autoConfigUrl

/-- Settings that can be stored and differ from `b` at most in the value that steps change. -/
structure Variant (b x : RawInternetSettings) : Prop where
  storable : ∀ n, (x.get n).Storable
  agrees : ∀ n, n ≠ managed b → x.get n = b.get n

theorem proxyServer_ne_managed (raw : RawInternetSettings) : ValueName.proxyServer ≠ managed raw := by
  unfold managed
  split <;> decide

variable {x : RawInternetSettings}

theorem Variant.managed_eq {b : RawInternetSettings} (h : Variant b x) : managed x = managed b := by
  have hserver : x.proxyServer = b.proxyServer := h.agrees .proxyServer (proxyServer_ne_managed b)
  rw [managed, managed, endpointsFrom, endpointsFrom, hserver]

theorem Variant.trans {b y : RawInternetSettings} (hx : Variant b x) (hy : Variant x y) : Variant b y := by
  refine ⟨hy.storable, fun n hn => ?_⟩
  rw [hy.agrees n (by rwa [hx.managed_eq]), hx.agrees n hn]

theorem Variant.refl {b : RawInternetSettings} (h : ∀ n, (b.get n).Storable) : Variant b b := ⟨h, fun _ _ => rfl⟩

/-- Variants of the same settings are told apart by their fingerprints. -/
theorem Variant.fingerprint_inj {b y : RawInternetSettings} (hx : Variant b x) (hy : Variant b y)
    (h : fingerprintPrestate x = fingerprintPrestate y) : x = y :=
  fingerprintPrestate_inj_of_agree (fun n hn => (hx.agrees n hn).trans (hy.agrees n hn).symm) h

theorem storable_of_capture {sid : Text} {key : SettingsKey} {raw : RawInternetSettings}
    (h : captureForUser sid key = .ok raw) (n : ValueName) : (raw.get n).Storable :=
  storable_of_queryValue ((captureForUser_eq_ok.mp h).2 n)

variable {snapshot : SystemProxySnapshot}

/-- The mode of a snapshot and the value that steps change. -/
theorem managed_of_snapshot {raw : RawInternetSettings} (h : snapshotFromRaw raw = .ok snapshot) :
    (snapshot.mode = .manual ∨ snapshot.mode = .mixed → managed raw = .proxyOverride) ∧
      (snapshot.mode = .automatic → managed raw = .autoConfigUrl) ∧ snapshot.bypassEntries = bypassFrom raw := by
  obtain ⟨endpoints, hendpoints, h⟩ := bind_ok_iff.mp h
  split at h
  · cases h
  cases h
  cases endpoints with
  | nil =>
    refine ⟨fun hmode => ?_, fun _ => by rw [managed, hendpoints], rfl⟩
    revert hmode
    cases (pacUrlFrom raw).isSome || raw.autoDetect.asDword.getD 0 != 0 <;> simp
  | cons e es =>
    refine ⟨fun _ => by rw [managed, hendpoints], fun hmode => ?_, rfl⟩
    revert hmode
    cases (pacUrlFrom raw).isSome || raw.autoDetect.asDword.getD 0 != 0 <;> simp

theorem variant_of_agree {b : RawInternetSettings} (hb : ∀ n, (b.get n).Storable)
    (hagree : ∀ n, n ≠ managed b → x.get n = b.get n) (hx : (x.get (managed b)).Storable) : Variant b x := by
  refine ⟨fun n => ?_, hagree⟩
  by_cases hn : n = managed b
  · rw [hn]
    exact hx
  · rw [hagree n hn]
    exact hb n

variable {desired : List Text}

theorem decideFamily_merge {merged : Text} (h : decideFamily snapshot desired = .ok (.mergeAndWrite merged)) :
    (snapshot.mode = .manual ∨ snapshot.mode = .mixed) ∧
      mergeBypassEntries (join [';'] snapshot.bypassEntries) desired = .ok merged := by
  unfold decideFamily at h
  split at h
  · cases h
  · cases h
  all_goals
    rename_i hmode
    split at h
    · cases h
    · obtain ⟨merged', hmerge, h⟩ := bind_ok_iff.mp h
      cases h
      exact ⟨by simp [hmode], hmerge⟩

theorem decideFamily_pac
    (h : decideFamily snapshot desired = .ok .pacDetectedSkip) : snapshot.mode = .automatic := by
  unfold decideFamily at h
  split at h
  · cases h
  · assumption
  all_goals
    split at h
    · cases h
    · obtain ⟨merged', hmerge, h⟩ := bind_ok_iff.mp h
      cases h

/-- A plan with an effect: its record has the captured settings and the fingerprint of the settings it leads to, and its commit
writes the one value in which they differ. -/
theorem planFromPrestate_effect {sid : Text} {prestate : RawInternetSettings} {pac : Option Nat}
    {plan : SystemProxyApplyPlan} (h : planFromPrestate sid desired prestate pac = .ok plan)
    (heffect : plan.registryEffect = true) (hstorable : ∀ n, (prestate.get n).Storable)
    (hdesired : ∀ d ∈ desired, '\x00' ∉ d) :
    plan.step.prestate = prestate ∧ plan.step.originatingSid = sid ∧
      ∃ written, plan.step.writtenFingerprint = fingerprintPrestate written ∧ Variant prestate written ∧
        ∀ io key, commitSystemProxyApply io key plan = tryStore io key (managed prestate) (written.get (managed prestate)) := by
  replace ⟨snapshot, hsnapshot, h⟩ := bind_ok_iff.mp h
  obtain ⟨hmanual, hautomatic, hbypass⟩ := managed_of_snapshot hsnapshot
  replace ⟨action, haction, h⟩ := bind_ok_iff.mp h
  cases action with
  | skipNoOp =>
    cases h
    cases heffect
  | mergeAndWrite merged =>
    simp only at h
    split at h
    · cases h
      cases heffect
    cases h
    obtain ⟨hmode, hmerge⟩ := decideFamily_merge haction
    have hmanaged := hmanual hmode
    have hnul : '\x00' ∉ merged := by
      refine mergeBypassEntries_nulFree hmerge (nul_notMem_join ?_) hdesired
      rw [hbypass]
      refine bypassFrom_nulFree fun text htext => ?_
      have hstored : RawValue.Storable (.sz text) := htext ▸ hstorable .proxyOverride
      exact nulFree_of_queryValue hstored
    refine ⟨rfl, rfl, { prestate with proxyOverride := .sz merged }, rfl, ?_, fun io key => ?_⟩
    · refine variant_of_agree hstorable (fun n hn => ?_) (by rw [hmanaged]; exact storable_sz hnul)
      rw [hmanaged] at hn
      cases n <;> first | rfl | exact absurd rfl hn
    · rw [hmanaged]
      rfl
  | pacDetectedSkip =>
    have hmanaged := hautomatic (decideFamily_pac haction)
    simp only at h
    split at h
    · rename_i port hurl
      cases h
      refine ⟨rfl, rfl, { prestate with autoConfigUrl := .sz (servedUrl port) }, rfl, ?_, fun io key => ?_⟩
      · refine variant_of_agree hstorable (fun n hn => ?_) (by rw [hmanaged]; exact storable_sz (servedUrl_nulFree port))
        rw [hmanaged] at hn
        cases n <;> first | rfl | exact absurd rfl hn
      · rw [hmanaged]
        rfl
    · cases h
      cases heffect

/-! ## Restores -/

section Restore

variable {sid : Text} {b p : RawInternetSettings}

/-- Writing one value of a variant: the changed value makes the settings that variant, every other value leaves them alone. -/
theorem capture_store_variant {key : SettingsKey} (hp : Variant b p) (hx : Variant b x)
    (h : captureForUser sid key = .ok x) (n : ValueName) :
    captureForUser sid (storeValue key n (p.get n)) = .ok (if n = managed b then p else x) := by
  obtain ⟨hsid, hkey⟩ := captureForUser_eq_ok.mp h
  refine captureForUser_eq_ok.mpr ⟨hsid, fun m => ?_⟩
  by_cases hm : m = n
  · subst hm
    have hvalue : (if m = managed b then p else x).get m = p.get m := by
      split
      · rfl
      · rename_i hn
        rw [hx.agrees m hn, hp.agrees m hn]
    rw [storeValue, Function.update_self, hvalue]
    exact hp.storable m
  · have hvalue : (if n = managed b then p else x).get m = x.get m := by
      split
      · rename_i hn
        rw [hp.agrees m (hn ▸ hm), hx.agrees m (hn ▸ hm)]
      · rfl
    rw [storeValue, Function.update_of_ne hm, hvalue]
    exact hkey m

/-- The writes of a restore leave the old or the restored settings, and when all are made, the restored ones. -/
theorem executeRestoreOps_capture (hp : Variant b p) (fields : List (ValueName × RawValue))
    (hfields : ∀ f ∈ fields, p.get f.1 = f.2) (fault : Option (Nat × Bool)) (key : SettingsKey) (x : RawInternetSettings)
    (hx : Variant b x) (h : captureForUser sid key = .ok x) :
    ∃ y, captureForUser sid (executeRestoreOps fault fields key).key = .ok y ∧ (y = x ∨ y = p) ∧
      ((executeRestoreOps fault fields key).done.isSome → managed b ∈ fields.map Prod.fst → y = p) := by
  induction fields generalizing fault key x with
  | nil => exact ⟨x, by simpa [executeRestoreOps] using h, .inl rfl, by simp⟩
  | cons f fields ih =>
    obtain ⟨name, value⟩ := f
    obtain rfl : p.get name = value := hfields _ mem_cons_self
    have hstore := capture_store_variant hp hx h name
    -- what the operations behind the first one lead to
    have hrest (fault : Option (Nat × Bool)) :
        ∃ y, captureForUser sid (executeRestoreOps fault fields (storeValue key name (p.get name))).key = .ok y ∧
          (y = x ∨ y = p) ∧ ((executeRestoreOps fault fields (storeValue key name (p.get name))).done.isSome →
            managed b = name ∨ managed b ∈ fields.map Prod.fst → y = p) := by
      obtain ⟨y, hy, hcase, hdone⟩ := ih (fun f hf => hfields f (mem_cons_of_mem _ hf)) fault _ _
        (by split <;> assumption) hstore
      by_cases hn : name = managed b
      · rw [if_pos hn, or_self_iff] at hcase
        exact ⟨y, hy, .inr hcase, fun _ _ => hcase⟩
      · rw [if_neg hn] at hcase
        exact ⟨y, hy, hcase, fun hsome hmem => hdone hsome (hmem.resolve_left (Ne.symm hn))⟩
    rcases fault with _ | ⟨_ | n, effect⟩
    · simpa [executeRestoreOps] using hrest none
    · -- the first operation fails, with or without its effect
      cases effect with
      | false => exact ⟨x, by simpa [executeRestoreOps] using h, .inl rfl, by simp [executeRestoreOps]⟩
      | true =>
        refine ⟨_, by simpa [executeRestoreOps] using hstore, ?_, by simp [executeRestoreOps]⟩
        split
        · exact .inr rfl
        · exact .inl rfl
    · simpa [executeRestoreOps] using hrest (some (n, effect))

theorem executeRestoreOps_good (fields : List (ValueName × RawValue)) (key : SettingsKey) :
    (executeRestoreOps none fields key).done.isSome := by
  induction fields generalizing key with
  | nil => rfl
  | cons f fields ih =>
    rw [executeRestoreOps]
    · rw [isSome_map]
      exact ih _
    · intro effect he
      cases he

end Restore

/-! ## Decisions -/

/-- What a decision says of the current settings. -/
theorem decideReplay_spec (prestate written current : Bytes) :
    match decideReplay prestate written current with
    | .alreadyClean => current = prestate
    | .skipForfeit => current ≠ written
    | .restore => current ≠ prestate := by
  unfold decideReplay
  split_ifs <;> simp_all

/-! ## Accounts -/

/-- A step together with the settings it leads to; its fingerprint is theirs. -/
structure Change where
  step : SystemProxyFamilyStep
  written : RawInternetSettings
  fingerprint : step.writtenFingerprint = fingerprintPrestate written

/-- The step as an entry of an undo log. -/
def Change.entry (ch : Change) : Entry RawInternetSettings := ⟨ch.step.prestate, ch.written⟩

/-- The user's key is accounted for by the log, newest step first: it started as `base`, and its settings are those of `base` or
those before or after a step of the log. A user whose settings cannot be read has no steps. -/
def Tracks (sid : Text) (base key : SettingsKey) (log : List Change) : Prop :=
  match captureForUser sid base with
  | .error e => captureForUser sid key = .error e ∧ log = []
  | .ok b =>
    (∀ ch ∈ log, Variant b ch.step.prestate ∧ Variant b ch.written) ∧ Chained b (log.map Change.entry) ∧
      ∃ c, captureForUser sid key = .ok c ∧ Covered b (log.map Change.entry) c

section Tracks

variable {sid : Text} {base key : SettingsKey} {log older : List Change} {ch : Change}

theorem tracks_nil_self (sid : Text) (base : SettingsKey) : Tracks sid base base [] := by
  unfold Tracks
  cases h : captureForUser sid base with
  | error e => exact ⟨rfl, rfl⟩
  | ok b => exact ⟨by simp, trivial, b, rfl, .inl rfl⟩

/-- Without steps the settings are the first ones. -/
theorem Tracks.capture_eq (h : Tracks sid base key []) : captureForUser sid key = captureForUser sid base := by
  unfold Tracks at h
  cases hb : captureForUser sid base with
  | error e =>
    rw [hb] at h
    exact h.1
  | ok b =>
    rw [hb] at h
    obtain ⟨-, -, c, hc, hcovered⟩ := h
    rw [hc, covered_nil.mp hcovered]

/-- A log with steps: the settings are readable and vary from the first ones in the changed value only. -/
theorem Tracks.readable (h : Tracks sid base key log) (hne : log ≠ []) :
    ∃ b c, captureForUser sid base = .ok b ∧ captureForUser sid key = .ok c ∧ Variant b c ∧
      (∀ ch ∈ log, Variant b ch.step.prestate ∧ Variant b ch.written) ∧ Chained b (log.map Change.entry) ∧
      Covered b (log.map Change.entry) c := by
  unfold Tracks at h
  cases hb : captureForUser sid base with
  | error e =>
    rw [hb] at h
    exact absurd h.2 hne
  | ok b =>
    rw [hb] at h
    obtain ⟨hvar, hchain, c, hc, hcovered⟩ := h
    refine ⟨b, c, rfl, hc, ?_, hvar, hchain, hcovered⟩
    refine hcovered.induct (Variant.refl (storable_of_capture hb)) fun e he => ?_
    obtain ⟨ch, hch, rfl⟩ := mem_map.mp he
    exact hvar ch hch

theorem tracks_of_covered {b c : RawInternetSettings} (hb : captureForUser sid base = .ok b)
    (hvar : ∀ ch ∈ log, Variant b ch.step.prestate ∧ Variant b ch.written) (hchain : Chained b (log.map Change.entry))
    (hc : captureForUser sid key = .ok c) (hcovered : Covered b (log.map Change.entry) c) : Tracks sid base key log := by
  unfold Tracks
  rw [hb]
  exact ⟨hvar, hchain, c, hc, hcovered⟩

/-- A key that older steps account for is accounted for by the whole log. -/
theorem Tracks.extend {key' : SettingsKey} (h : Tracks sid base key (log ++ older)) (h' : Tracks sid base key' older) :
    Tracks sid base key' (log ++ older) := by
  unfold Tracks at h h' ⊢
  cases hb : captureForUser sid base with
  | error e =>
    rw [hb] at h h'
    exact ⟨h'.1, h.2⟩
  | ok b =>
    rw [hb] at h h'
    obtain ⟨hvar, hchain, -⟩ := h
    obtain ⟨-, -, c, hc, hcovered⟩ := h'
    refine ⟨hvar, hchain, c, hc, ?_⟩
    rw [map_append]
    exact hcovered.append _

/-- A replayed step whose user's settings are the earlier ones needs no registry operation. -/
theorem replay_clean_ops {step : SystemProxyFamilyStep} (io : RestoreIo)
    (h : captureForUser step.originatingSid key = .ok step.prestate) : (replaySystemProxyStep io key step).ops = 0 := by
  unfold replaySystemProxyStep
  rw [h]
  cases io.captureOk with
  | false => rfl
  | true =>
    simp only
    have hspec := decideReplay_spec (fingerprintPrestate step.prestate) step.writtenFingerprint (fingerprintPrestate step.prestate)
    generalize decideReplay _ _ _ = decision at hspec
    cases decision with
    | alreadyClean | skipForfeit => rfl
    | restore => exact absurd rfl hspec

/-- Recording a step whose earlier settings are the current ones. -/
theorem Tracks.record (h : Tracks sid base key log) (hc : captureForUser sid key = .ok ch.step.prestate)
    (hwritten : Variant ch.step.prestate ch.written) : Tracks sid base key (ch :: log) := by
  unfold Tracks at h ⊢
  cases hb : captureForUser sid base with
  | error e =>
    rw [hb, hc] at h
    cases h.1
  | ok b =>
    rw [hb] at h
    obtain ⟨hvar, hchain, c, hc', hcovered⟩ := h
    obtain rfl : c = ch.step.prestate := Except.ok.inj (hc'.symm.trans hc)
    have hpre : Variant b ch.step.prestate := by
      refine hcovered.induct (Variant.refl (storable_of_capture hb)) fun e he => ?_
      obtain ⟨ch', hch, rfl⟩ := mem_map.mp he
      exact hvar ch' hch
    refine ⟨?_, ⟨hcovered, hchain⟩, ch.step.prestate, hc, .inr ⟨ch.entry, mem_cons_self, .inl rfl⟩⟩
    exact forall_mem_cons.mpr ⟨⟨hpre, hpre.trans hwritten⟩, hvar⟩

variable (h : Tracks sid base key (ch :: older))
include h

/-- What undoing the newest step does to the user's settings: nothing, when they are not the written ones or are already the
earlier ones, or writes of a restore. -/
theorem Tracks.undo :
    ∃ c, captureForUser sid key = .ok c ∧
      (fingerprintPrestate c = ch.step.writtenFingerprint ↔ c = ch.written) ∧
      (fingerprintPrestate c = fingerprintPrestate ch.step.prestate ↔ c = ch.step.prestate) ∧
      (c ≠ ch.written ∨ c = ch.step.prestate → Tracks sid base key older) ∧
      ∀ fault, Tracks sid base (executeRestoreOps fault ch.step.prestate.fields key).key (ch :: older) ∧
        ((executeRestoreOps fault ch.step.prestate.fields key).done.isSome →
          Tracks sid base (executeRestoreOps fault ch.step.prestate.fields key).key older) := by
  obtain ⟨b, c, hb, hc, hcvar, hvar, hchain, hcovered⟩ := h.readable (cons_ne_nil _ _)
  obtain ⟨hpre, hwritten⟩ := hvar ch mem_cons_self
  have hvar' : ∀ ch ∈ older, Variant b ch.step.prestate ∧ Variant b ch.written :=
    fun ch hch => hvar ch (mem_cons_of_mem _ hch)
  refine ⟨c, hc, ?_, ?_, ?_, fun fault => ?_⟩
  · rw [ch.fingerprint]
    exact ⟨hcvar.fingerprint_inj hwritten, fun h => by rw [h]⟩
  · exact ⟨hcvar.fingerprint_inj hpre, fun h => by rw [h]⟩
  · rintro (hne | rfl)
    · exact tracks_of_covered hb hvar' hchain.2 hc (hcovered.older hchain hne)
    · exact tracks_of_covered hb hvar' hchain.2 hc hchain.1
  · obtain ⟨y, hy, hcase, hdone⟩ := executeRestoreOps_capture hpre ch.step.prestate.fields
      (fun f hf => mem_fields.mp hf) fault key c hcvar hc
    constructor
    · refine tracks_of_covered hb hvar hchain hy ?_
      rcases hcase with rfl | rfl
      · exact hcovered
      · exact .inr ⟨ch.entry, mem_cons_self, .inl rfl⟩
    · intro hsome
      obtain rfl := hdone hsome (by cases managed b <;> simp [fields])
      exact tracks_of_covered hb hvar' hchain.2 hy hchain.1

/-- The newest step takes effect. -/
theorem Tracks.commit (hc : captureForUser sid key = .ok ch.step.prestate)
    (hwritten : Variant ch.step.prestate ch.written) (io : WriteIo) :
    Tracks sid base (tryStore io key (managed ch.step.prestate) (ch.written.get (managed ch.step.prestate))).2
      (ch :: older) := by
  obtain ⟨b, c, hb, -, -, hvar, hchain, -⟩ := h.readable (cons_ne_nil _ _)
  have hstore := capture_store_variant hwritten (Variant.refl (storable_of_capture hc)) hc (managed ch.step.prestate)
  rw [if_pos rfl] at hstore
  have heffect := tracks_of_covered hb hvar hchain hstore (.inr ⟨ch.entry, mem_cons_self, .inr rfl⟩)
  cases io with
  | ok => exact heffect
  | failed written =>
    cases written with
    | false => exact h
    | true => exact heffect

variable (hsid : ch.step.originatingSid = sid)
include hsid

/-- Replaying the newest step: unless it fails the older steps account for the key. -/
theorem Tracks.replay (io : RestoreIo) :
    Tracks sid base (replaySystemProxyStep io key ch.step).key (ch :: older) ∧
      ((replaySystemProxyStep io key ch.step).outcome ≠ .hardFailure →
        Tracks sid base (replaySystemProxyStep io key ch.step).key older) := by
  obtain ⟨c, hc, hwritten, hpre, hsame, hrestore⟩ := h.undo
  unfold replaySystemProxyStep
  rw [hsid, hc]
  cases io.captureOk with
  | false => exact ⟨h, fun hno => absurd rfl hno⟩
  | true =>
    simp only
    have hspec := decideReplay_spec (fingerprintPrestate ch.step.prestate) ch.step.writtenFingerprint (fingerprintPrestate c)
    generalize decideReplay _ _ _ = decision at hspec
    cases decision with
    | alreadyClean => exact ⟨h, fun _ => hsame (.inr (hpre.mp hspec))⟩
    | skipForfeit => exact ⟨h, fun _ => hsame (.inl fun hcw => hspec (hwritten.mpr hcw))⟩
    | restore =>
      obtain ⟨hall, holder⟩ := hrestore io.fault
      cases hdone : (executeRestoreOps io.fault ch.step.prestate.fields key).done with
      | none => exact ⟨hall, fun hno => absurd rfl hno⟩
      | some n => exact ⟨hall, fun _ => holder (by rw [hdone]; rfl)⟩

/-- Without a failure of the registry no replayed step fails. -/
theorem Tracks.replay_good :
    (replaySystemProxyStep .good key ch.step).outcome ≠ .hardFailure := by
  obtain ⟨c, hc, -⟩ := h.undo
  unfold replaySystemProxyStep
  rw [hsid, hc]
  simp only [RestoreIo.good]
  cases decideReplay (fingerprintPrestate ch.step.prestate) ch.step.writtenFingerprint (fingerprintPrestate c) with
  | alreadyClean => simp
  | skipForfeit => simp
  | restore =>
    obtain ⟨n, hn⟩ := isSome_iff_exists.mp (executeRestoreOps_good ch.step.prestate.fields key)
    simp [hn]

/-- Undoing the newest step at teardown: unless it fails the older steps account for the key. -/
theorem Tracks.restore (io : RestoreIo) :
    Tracks sid base (restoreSystemProxyStep io key ch.step).2 (ch :: older) ∧
      ((restoreSystemProxyStep io key ch.step).1.isSome →
        Tracks sid base (restoreSystemProxyStep io key ch.step).2 older) := by
  obtain ⟨c, hc, hwritten, -, hsame, hrestore⟩ := h.undo
  unfold restoreSystemProxyStep
  rw [hsid, hc]
  cases io.captureOk with
  | false => exact ⟨h, by simp⟩
  | true =>
    simp only [computeRestore]
    by_cases hw : fingerprintPrestate c = ch.step.writtenFingerprint
    · obtain ⟨hall, holder⟩ := hrestore io.fault
      rw [if_neg (not_not.mpr hw)]
      exact ⟨hall, fun hsome => holder (by simpa using hsome)⟩
    · rw [if_pos hw]
      exact ⟨h, fun _ => hsame (.inl fun hcw => hw (hwritten.mpr hcw))⟩

end Tracks

end ExvVpn.SystemProxy
