import ExvVpn.Config.PrettyJson
import ExvVpn.Tools.Transition
import ExvVpn.Win32Host.ConfigControl

/-!
# Acknowledged configuration writes

Calls that read and replace the configuration file run at a time. As long as each replace finds the configuration that its
call read, and no Connect fails once it has saved its credentials, the file holds what the acknowledged writes make of the
first configuration, one after another. Nothing sees to that: a late replace takes back what was acknowledged in between, and
reading the configuration is such a call.
-/

namespace ExvVpn.Win32Host

open Config Win32Config Transition List Option RustStr ExvConfig ConfigHost

variable {sealing : Sealing} {json : SerdeJson}

/-- The writes applied one after another. -/
def serial (sealing : Sealing) (cfg : ExvConfig) (writes : List ConfigCall) : Option ExvConfig :=
  writes.foldlM (fun cfg call => (call.update sealing cfg).toOption) cfg

/-- The configuration a file holds for the next call, if it can be read. -/
def storedConfig (json : SerdeJson) (file : Option Bytes) : Option ExvConfig := (loadDocument json file).toOption

/-- A file that the reading call and the writing calls take for the same configuration: not an array, no name that comes
twice. -/
def ReadAlike (json : SerdeJson) (file : Option Bytes) : Prop :=
  (startupDocument json file).map (·.1.config) = loadDocument json file

/-- The replace finds the configuration that its call read, and a Connect that has replaced the file is not refused. -/
def Undisturbed (json : SerdeJson) (s : ConfigHost) : ConfigLabel → Prop
  | .replace id true => ∀ call seen document, s.calls id = some (.prepared call seen document) →
      loadDocument json s.file = loadDocument json seen
  | .replaceRefused id => ∀ call seen document, s.calls id = some (.prepared call seen document) → call.goesOn = false
  | _ => True

variable {call : ConfigCall} {seen : Option Bytes} {document : Text}

namespace ConfigSerialAux

/-- A document on which both ways of reading agree is loaded as what it holds. -/
theorem loadDocument_of_reads {text : Text} {c : ExvConfig}
    (h : fromStr json text = some c ∧ (classifyText json text).1.config = c) :
    loadDocument json (some (asBytes text)) = .ok c ∧ ReadAlike json (some (asBytes text)) := by
  have hload : loadDocument json (some (asBytes text)) = .ok c := by
    simp [loadDocument, readDocument, fromUtf8_asBytes, Except.map, ofText, h.1]
  refine ⟨hload, ?_⟩
  simp [ReadAlike, startupDocument, readDocument, fromUtf8_asBytes, hload, Except.map, h.2]

theorem printed_reads (c : ExvConfig) :
    fromStr json (c.toStringPretty json) = some c ∧ (classifyText json (c.toStringPretty json)).1.config = c :=
  classifyText_of_holds (c.fields_nodup json) (c.holds_fields json)

/-- The document holds what the call makes of the configuration it read, and is read alike. -/
def Rewrites (sealing : Sealing) (json : SerdeJson) (call : ConfigCall) (seen : Option Bytes) (document : Text) : Prop :=
  ∃ cfg cfg', loadDocument json seen = .ok cfg ∧ call.update sealing cfg = .ok cfg' ∧
    loadDocument json (some (asBytes document)) = .ok cfg' ∧ ReadAlike json (some (asBytes document))

theorem rewrite_spec
    (h : (match loadDocument json seen with
      | .error e => .error e
      | .ok cfg => (call.update sealing cfg).map fun cfg => cfg.toStringPretty json) = Except.ok document) :
    Rewrites sealing json call seen document := by
  rcases hload : loadDocument json seen with e | cfg
  · rw [hload] at h
    cases h
  rw [hload] at h
  rcases hupdate : call.update sealing cfg with e | cfg'
  · simp only [hupdate, Except.map] at h
    cases h
  · simp only [hupdate, Except.map, Except.ok.injEq] at h
    obtain rfl := h
    exact ⟨cfg, cfg', hload, hupdate, loadDocument_of_reads (printed_reads cfg')⟩

/-- A prepared document is the update of what was read. -/
theorem prepare_spec (halike : ReadAlike json seen) (h : call.prepare sealing json seen = .ok document) :
    Rewrites sealing json call seen document := by
  rcases call with _ | ⟨items, key, nonce⟩ | ⟨username, password, key, nonce⟩
  · rcases hstartup : startupDocument json seen with e | startup
    · simp only [ConfigCall.prepare, hstartup, Except.map] at h
      cases h
    · simp only [ConfigCall.prepare, hstartup, Except.map, Except.ok.injEq] at h
      obtain rfl := h
      have hload : loadDocument json seen = .ok startup.1.config := by
        rw [← halike, hstartup, Except.map]
      refine ⟨_, _, hload, rfl, loadDocument_of_reads ?_⟩
      rcases hread : readDocument seen with e | _ | text
      · rw [startupDocument, hread] at hstartup
        cases hstartup
      · rw [startupDocument, hread] at hstartup
        cases hstartup
        exact printed_reads .default
      · rw [startupDocument, hread] at hstartup
        cases hstartup
        exact classifyText_document text
  · exact rewrite_spec h
  · exact rewrite_spec h

end ConfigSerialAux

open ConfigSerialAux

/-- What holds of the host as long as no replace is disturbed. -/
structure Serial (sealing : Sealing) (json : SerdeJson) (first : Option Bytes) (s : ConfigHost) : Prop where
  alike : ReadAlike json s.file
  prepared : ∀ id call seen document, s.calls id = some (.prepared call seen document) →
    ReadAlike json seen ∧ call.prepare sealing json seen = .ok document
  stored : storedConfig json s.file = (storedConfig json first).bind (serial sealing · s.acknowledged)

namespace ConfigSerialAux

variable {first : Option Bytes} {s : ConfigHost}

/-- A call that goes on or ends changes nothing else. -/
theorem serial_setCall (hs : Serial sealing json first s) (id : Nat) {phase : Option CallPhase}
    (hphase : ∀ call seen document, phase = some (.prepared call seen document) →
      ReadAlike json seen ∧ call.prepare sealing json seen = .ok document) :
    Serial sealing json first (s.setCall id phase) := by
  refine ⟨hs.alike, fun id' call seen document hcall => ?_, hs.stored⟩
  by_cases hid : id' = id
  · subst hid
    simp only [setCall, Function.update_self] at hcall
    exact hphase call seen document hcall
  · simp only [setCall, Function.update_of_ne hid] at hcall
    exact hs.prepared id' call seen document hcall

/-- The end of a call. -/
theorem serial_end (hs : Serial sealing json first s) (id : Nat) : Serial sealing json first (s.setCall id none) := by
  refine serial_setCall hs id fun call seen document h => ?_
  cases h

/-- An undisturbed replace applies its call to the stored configuration. -/
theorem serial_replace (hs : Serial sealing json first s) {id : Nat}
    (hcall : s.calls id = some (.prepared call seen document)) (hfound : loadDocument json s.file = loadDocument json seen) :
    Serial sealing json first
      { s.setCall id none with
        file := some (asBytes document)
        acknowledged := if call.isWrite then s.acknowledged ++ [call] else s.acknowledged } := by
  obtain ⟨halike, hprepare⟩ := hs.prepared id call seen document hcall
  obtain ⟨cfg, cfg', hload, hupdate, hwritten, hwrittenAlike⟩ := prepare_spec halike hprepare
  refine ⟨hwrittenAlike, (serial_end hs id).prepared, ?_⟩
  have hstored : (storedConfig json first).bind (serial sealing · s.acknowledged) = some cfg := by
    rw [← hs.stored, storedConfig, hfound, hload]
    rfl
  have hnew : storedConfig json (some (asBytes document)) = some cfg' := by
    rw [storedConfig, hwritten]
    rfl
  rw [hnew]
  obtain ⟨start, hstart, hserial⟩ := bind_eq_some_iff.mp hstored
  rw [hstart, bind_some]
  by_cases hwrite : call.isWrite = true
  · rw [if_pos hwrite, serial, foldlM_append, show foldlM _ _ _ = some cfg from hserial]
    simp [hupdate]
    rfl
  -- the call that only reads leaves the configuration as it is
  obtain rfl : call = .get := by
    rcases call with _ | _ | _
    · rfl
    · exact absurd rfl hwrite
    · exact absurd rfl hwrite
  cases hupdate
  exact hserial.symm

variable (sealing json s)

/-- What a step can do. -/
inductive Stepped : ConfigLabel → ConfigHost → Prop
  | same (l : ConfigLabel) : Stepped l s
  | started (id : Nat) (call : ConfigCall) : Stepped (.start id call) (s.setCall id (some (.started call)))
  | ended (l : ConfigLabel) (id : Nat) : Stepped l (s.setCall id none)
  | prepared (id : Nat) {call : ConfigCall} {document : Text} (h : call.prepare sealing json s.file = .ok document) :
      Stepped (.read id true) (s.setCall id (some (.prepared call s.file document)))
  | replaced {id : Nat} {call : ConfigCall} {seen : Option Bytes} {document : Text}
      (h : s.calls id = some (.prepared call seen document)) :
      Stepped (.replace id true)
        { s.setCall id none with
          file := some (asBytes document)
          acknowledged := if call.isWrite then s.acknowledged ++ [call] else s.acknowledged }
  | refused {id : Nat} {call : ConfigCall} {seen : Option Bytes} {document : Text}
      (h : s.calls id = some (.prepared call seen document)) (hgoesOn : call.goesOn = true) :
      Stepped (.replaceRefused id) { s.setCall id none with file := some (asBytes document) }

variable {sealing json}

theorem configStep_stepped (l : ConfigLabel) : Stepped sealing json s l (configStep sealing json s l) := by
  cases l with
  | start id call =>
    simp only [configStep]
    split
    · exact .started id call
    · exact .same _
  | read id ok =>
    simp only [configStep]
    split
    · split
      · rename_i hok
        subst hok
        split
        · exact .prepared id ‹_›
        · exact .ended _ id
      · exact .ended _ id
    · exact .same _
  | replace id ok =>
    simp only [configStep]
    split
    · rename_i hcall
      split
      · rename_i hok
        subst hok
        exact .replaced hcall
      · exact .ended _ id
    · exact .same _
  | replaceRefused id =>
    simp only [configStep]
    split
    · split
      · exact .refused ‹_› ‹_›
      · exact .same _
    · exact .same _

variable {s}

/-- One undisturbed step keeps the account. -/
theorem serial_step (l : ConfigLabel) (hs : Serial sealing json first s) (hguard : Undisturbed json s l) :
    Serial sealing json first (configStep sealing json s l) := by
  generalize hstepped : configStep sealing json s l = s'
  cases hstepped ▸ configStep_stepped s l with
  | same => exact hs
  | started id call =>
    refine serial_setCall hs id fun call' seen' document' h => ?_
    cases h
  | ended _ id => exact serial_end hs id
  | prepared id hprepare =>
    refine serial_setCall hs id fun call' seen' document' h => ?_
    cases h
    exact ⟨hs.alike, hprepare⟩
  | replaced hcall => exact serial_replace hs hcall (hguard _ _ _ hcall)
  | refused hcall hgoesOn => cases (hguard _ _ _ hcall).symm.trans hgoesOn

theorem serial_over {file : Option Bytes} (h : ReadAlike json file) : Serial sealing json file (.over file) := by
  refine ⟨h, fun id call seen document hcall => ?_, ?_⟩
  · cases hcall
  · simp only [ConfigHost.over, serial, foldlM_nil]
    rcases storedConfig json file with _ | cfg <;> rfl

end ConfigSerialAux

/-- In every run in which each replace finds the configuration its call read and no Connect is refused after its replace, the
file holds what the acknowledged writes make of the first configuration in some order, and a replace by a call that only reads
changes nothing of it. -/
theorem acknowledged_serial (sealing : Sealing) (json : SerdeJson) (file : Option Bytes) (hfile : ReadAlike json file)
    (labels : List ConfigLabel) (h : Along (configStep sealing json) (Undisturbed json) (.over file) labels) :
    (∃ order, order.Perm (run (configStep sealing json) (.over file) labels).acknowledged ∧
      storedConfig json (run (configStep sealing json) (.over file) labels).file =
        (storedConfig json file).bind (serial sealing · order)) ∧
    ∀ before id after seen document, labels = before ++ .replace id true :: after →
      (run (configStep sealing json) (.over file) before).calls id = some (.prepared .get seen document) →
        storedConfig json (run (configStep sealing json) (.over file) (before ++ [.replace id true])).file =
          storedConfig json (run (configStep sealing json) (.over file) before).file := by
  have hrun : ∀ labels, Along (configStep sealing json) (Undisturbed json) (.over file) labels →
      Serial sealing json file (run (configStep sealing json) (.over file) labels) := fun labels h =>
    invariant_of_along (I := Serial sealing json file) (fun s l hs hguard => serial_step l hs hguard) (serial_over hfile) h
  refine ⟨⟨_, List.Perm.refl _, (hrun labels h).stored⟩, ?_⟩
  rintro before id after seen document rfl hget
  obtain ⟨hbefore, hguard, -⟩ := (along_append _ _ _ _ _).mp h
  have hs := hrun before hbefore
  have hafter := serial_step (.replace id true) hs hguard
  have hacknowledged : (configStep sealing json (run (configStep sealing json) (.over file) before)
      (.replace id true)).acknowledged = (run (configStep sealing json) (.over file) before).acknowledged := by
    simp only [configStep, hget]
    rfl
  rw [run_append, run_cons, run_nil, hafter.stored, hacknowledged, hs.stored]

namespace ConfigSerialAux

/-- A write of one setting. -/
def serverWrite : ConfigCall := .set [("server".toList, "vpn.ecnu.edu.cn".toList)] (.ok none) none

/-- The configuration with that setting. -/
def serverConfig : ExvConfig := { default with server := "vpn.ecnu.edu.cn".toList }

/-- A Connect that saves its credentials. -/
def credentialsWrite : ConfigCall := .connect "a".toList "b".toList (.ok sampleKey) (some sampleNonce)

/-- The configuration with those credentials. -/
def credentialsConfig : ExvConfig := ((credentialsWrite.update carriedKey .default).toOption).getD .default

/-- A call that reads the configuration and a write: both have read the file before either replaces it. -/
def readAndWrite : List ConfigLabel :=
  [.start 0 .get, .start 1 serverWrite, .read 0 true, .read 1 true, .replace 0 true, .replace 1 true]

/-- The same calls, but the one that reads the configuration replaces the file last. -/
def writeInside : List ConfigLabel :=
  [.start 0 .get, .start 1 serverWrite, .read 0 true, .read 1 true, .replace 1 true, .replace 0 true]

/-- A Connect that is refused once its credentials are saved. -/
def refusedConnect : List ConfigLabel := [.start 0 credentialsWrite, .read 0 true, .replaceRefused 0]

theorem readAndWrite_undisturbed : Along (configStep sealing json) (Undisturbed json) (.over none) readAndWrite := by
  refine ⟨trivial, trivial, trivial, trivial, ?_, ?_, trivial⟩
  · intro call seen document hcall
    cases hcall
    rfl
  -- the first replace has written the defaults, which stand for no file
  · intro call seen document hcall
    cases hcall
    exact (loadDocument_of_reads (printed_reads .default)).1

end ConfigSerialAux

/-- A read of the configuration and a write, interleaved, in a directory without a configuration: the write is what is stored. -/
theorem acknowledged_serial_interleaved :
    (run (configStep carriedKey prettyJson) (.over none) readAndWrite).acknowledged = [serverWrite] ∧
      ∃ order, order.Perm [serverWrite] ∧
        storedConfig prettyJson (run (configStep carriedKey prettyJson) (.over none) readAndWrite).file =
          (storedConfig prettyJson none).bind (serial carriedKey · order) :=
  ⟨rfl, (acknowledged_serial carriedKey prettyJson none rfl readAndWrite readAndWrite_undisturbed).1⟩

/-- A read of the configuration takes back a write that was acknowledged in its course, and no order of the acknowledged
writes accounts for what is stored; nor does one for the credentials of a Connect that was refused. -/
theorem read_takes_write_back :
    let lost := run (configStep carriedKey prettyJson) (.over none) writeInside
    let kept := run (configStep carriedKey prettyJson) (.over none) refusedConnect
    lost.acknowledged = [serverWrite] ∧ storedConfig prettyJson lost.file = some .default ∧
      (¬∃ order, order.Perm lost.acknowledged ∧
        storedConfig prettyJson lost.file = (storedConfig prettyJson none).bind (serial carriedKey · order)) ∧
      kept.acknowledged = [] ∧ (storedConfig prettyJson kept.file).map (·.username) = some "a".toList := by
  intro lost kept
  have hstored : storedConfig prettyJson lost.file = some .default :=
    congrArg Except.toOption (@loadDocument_of_reads prettyJson _ _ (printed_reads .default)).1
  refine ⟨rfl, hstored, ?_, rfl, ?_⟩
  · rintro ⟨order, horder, hserial⟩
    obtain rfl := perm_singleton.mp horder
    rw [hstored] at hserial
    have hwritten : (storedConfig prettyJson none).bind (serial carriedKey · [serverWrite]) = some serverConfig := rfl
    rw [hwritten, some.injEq] at hserial
    exact absurd (congrArg server hserial) (by decide)
  · have hfile : kept.file = some (asBytes (credentialsConfig.toStringPretty prettyJson)) := rfl
    rw [hfile, storedConfig, (loadDocument_of_reads (printed_reads credentialsConfig)).1]
    rfl

end ExvVpn.Win32Host
