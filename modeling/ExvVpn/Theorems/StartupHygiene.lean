import ExvVpn.Config.PrettyJson
import ExvVpn.Theorems.ConfigPersistence
import ExvVpn.Win32Config.Hygiene

/-!
# The repair at startup

What `load_for_startup` leaves of a document: its members as they were, with the defaults of the names it lacks, in a file
that the next startup does not change. A file that is not UTF-8 is not repaired, an unknown mode is replaced, and the defaults
are written in the order of the fields, which the next startup changes to that of the names.
-/

namespace ExvVpn.Win32Config

open Syscall Config RustStr ExvConfig List ConfigPersistenceAux

/-- `config.json` can be read and written. -/
def Usable (pid : UInt32) (d : Disk) (script : List Outcome) : Prop :=
  fails script 0 = false ∧ ∀ document, (writeConfigJsonAtomically pid document d script.tail).1 = .ok ()

/-- Values that are read as a text, a boolean, a number or a list of texts are those that are written for it. -/
structure ExactValues (json : JsonValues) : Prop where
  text {v t} : json.readText v = some t → v = json.text t
  bool {v b} : json.readBool v = some b → v = json.bool b
  number {v n} : json.readU32 v = some n → v = json.number n
  texts {v ts} : json.readTexts v = some ts → v = json.texts ts

variable (json : SerdeJson)

/-- A first and a second startup have repaired a file: both give the same configuration, the second leaves the bytes of the
first, and of an object that is a configuration the first has written the members, with the defaults of the names it lacks. -/
structure Repairs (content : Bytes) (first second : Except ConfigError StartupConfig × Disk × List Outcome) : Prop where
  returned : ∃ startup again, first.1 = .ok startup ∧ second.1 = .ok again ∧ again.config = startup.config
  unchanged : second.2.1.files configFile = first.2.1.files configFile
  kept : ∀ text object config, fromUtf8 content = some text → json.fromStr text = some (.object object) →
    ofMembers json object = some config → ∃ document written, first.2.1.files configFile = some (asBytes document) ∧
      json.fromStr document = some (.object written) ∧
      ∀ f, f ∈ written ↔ f ∈ object ∨ f ∈ default.fields json ∧ f.1 ∉ object.map Prod.fst

/-- The mode of the object, if it has one, is a known one. -/
def KnownMode (object : List (Text × json.Value)) : Prop :=
  ∀ v t, ("connection_mode".toList, v) ∈ object → json.readText v = some t → (ConnectionMode.fromStr t).isSome = true

/-- The content is the text of an object that is a configuration with a known mode. -/
def Repairable (content : Bytes) : Prop :=
  ∃ text object config, fromUtf8 content = some text ∧ json.fromStr text = some (.object object) ∧
    ofMembers json object = some config ∧ KnownMode json object

variable {pid : UInt32} {d : Disk} {script : List Outcome} {content : Bytes} {text : Text}

namespace StartupHygieneAux

variable {json} {object : List (Text × json.Value)} {config : ExvConfig}

/-- Completing members a second time changes nothing. -/
theorem hydrateKnownFields_again (h : SortedMap.Sorted object) (config : ExvConfig) :
    hydrateKnownFields json (hydrateKnownFields json object config) config = hydrateKnownFields json object config := by
  have hsorted := hydrateKnownFields_sorted h config
  refine (hydrateKnownFields_sorted hsorted config).eq_of_mem_iff hsorted fun f => ?_
  rw [mem_hydrateKnownFields hsorted config, mem_hydrateKnownFields h config]
  tauto

/-- A field of a configuration that was read is written with the value of its member, or with the default where there is none. -/
theorem member_spec {α : Type} {name : Text} {read : json.Value → Option α} {initial x : α} (write : α → json.Value)
    (hnodup : (object.map Prod.fst).Nodup) (h : readMember object name read initial = some x)
    (hwrite : ∀ v, (name, v) ∈ object → read v = some x → v = write x) (hmem : (name, write initial) ∈ default.fields json) :
    (∀ v, (name, v) ∈ object → v = write x) ∧ (name ∉ object.map Prod.fst → (name, write x) ∈ default.fields json) := by
  refine ⟨fun v hv => hwrite v hv ?_, fun hnot => ?_⟩
  · rw [readMember, occurrences_of_mem hnodup hv] at h
    exact h
  · have hnone : occurrences name object = [] :=
      eq_nil_iff_forall_not_mem.mpr fun v hv => hnot (mem_map.mpr ⟨_, mem_occurrences.mp hv, rfl⟩)
    rw [readMember, hnone] at h
    exact Option.some.inj h ▸ hmem

/-- Every known member is written with the value it had, or with its default. -/
theorem fields_spec (hexact : ExactValues json.toJsonValues) (hnodup : (object.map Prod.fst).Nodup)
    (hread : ofMembers json object = some config) (hmode : KnownMode json object) :
    ∀ f ∈ config.fields json, (∀ v, (f.1, v) ∈ object → v = f.2) ∧
      (f.1 ∉ object.map Prod.fst → f ∈ default.fields json) := by
  simp only [ofMembers, ExvConfig.build, Option.bind_eq_bind, Option.bind_eq_some_iff] at hread
  obtain ⟨server, hserver, username, husername, password, hpassword, remember, hremember, routes, hroutes, userAgent,
    huserAgent, mtu, hmtu, mode, hmode', reconnect, hreconnect, attempts, hattempts, backoff, hbackoff, hconfig⟩ := hread
  cases hconfig
  have hmodeText : ∀ v, ("connection_mode".toList, v) ∈ object → readMode json v = some mode → v = json.text mode.asStr := by
    intro v hv hv'
    obtain ⟨t, ht, hfrom⟩ := Option.map_eq_some_iff.mp hv'
    obtain ⟨known, hknown⟩ := Option.isSome_iff_exists.mp (hmode v t hv ht)
    rw [hknown, Option.getD_some] at hfrom
    subst hfrom
    rw [ConnectionMode.asStr_of_fromStr hknown]
    exact hexact.text ht
  intro f hf
  simp only [ExvConfig.fields, mem_cons, not_mem_nil, or_false] at hf
  rcases hf with rfl | rfl | rfl | rfl | rfl | rfl | rfl | rfl | rfl | rfl | rfl
  · exact member_spec json.text hnodup hserver (fun _ _ => hexact.text) (by simp [ExvConfig.fields])
  · exact member_spec json.text hnodup husername (fun _ _ => hexact.text) (by simp [ExvConfig.fields])
  · exact member_spec json.text hnodup hpassword (fun _ _ => hexact.text) (by simp [ExvConfig.fields])
  · exact member_spec json.bool hnodup hremember (fun _ _ => hexact.bool) (by simp [ExvConfig.fields])
  · exact member_spec json.texts hnodup hroutes (fun _ _ => hexact.texts) (by simp [ExvConfig.fields])
  · exact member_spec json.text hnodup huserAgent (fun _ _ => hexact.text) (by simp [ExvConfig.fields])
  · exact member_spec json.number hnodup hmtu (fun _ _ => hexact.number) (by simp [ExvConfig.fields])
  · exact member_spec (fun mode => json.text mode.asStr) hnodup hmode' hmodeText (by simp [ExvConfig.fields])
  · exact member_spec json.bool hnodup hreconnect (fun _ _ => hexact.bool) (by simp [ExvConfig.fields])
  · exact member_spec json.number hnodup hattempts (fun _ _ => hexact.number) (by simp [ExvConfig.fields])
  · exact member_spec json.bool hnodup hbackoff (fun _ _ => hexact.bool) (by simp [ExvConfig.fields])

/-- So the completed members are those of the object and the defaults of the names it lacks. -/
theorem mem_completed (hexact : ExactValues json.toJsonValues) (hsorted : SortedMap.Sorted object)
    (hread : ofMembers json object = some config) (hmode : KnownMode json object) (f : Text × json.Value) :
    f ∈ hydrateKnownFields json object config ↔
      f ∈ object ∨ f ∈ default.fields json ∧ f.1 ∉ object.map Prod.fst := by
  have hspec := fields_spec hexact hsorted.nodup hread hmode
  have hnames : (default.fields json).map Prod.fst = (config.fields json).map Prod.fst := rfl
  rw [mem_hydrateKnownFields hsorted config]
  constructor
  · rintro (hf | ⟨hf, -⟩)
    · by_cases hname : f.1 ∈ object.map Prod.fst
      · obtain ⟨member, hmember, hname⟩ := mem_map.mp hname
        have hvalue := (hspec f hf).1 member.2 (hname ▸ hmember)
        exact .inl (Prod.ext hname hvalue ▸ hmember)
      · exact .inr ⟨(hspec f hf).2 hname, hname⟩
    · exact .inl hf
  · rintro (hf | ⟨hf, hnot⟩)
    · by_cases hname : f.1 ∈ (config.fields json).map Prod.fst
      · obtain ⟨field, hfield, hname⟩ := mem_map.mp hname
        have hvalue := (hspec field hfield).1 f.2 (hname ▸ hf)
        exact .inl (Prod.ext hname hvalue.symm ▸ hfield)
      · exact .inr ⟨hf, hname⟩
    · obtain ⟨field, hfield, hname⟩ := mem_map.mp (hnames ▸ mem_map_of_mem hf)
      have hdefault := (hspec field hfield).2 (hname ▸ hnot)
      exact .inl (inj_on_of_nodup_map (default.fields_nodup json) hdefault hf hname ▸ hfield)

variable (json) in
/-- The defaults are not written in the order of their names, and the next startup changes that. -/
theorem bootstrap_rewritten : (classifyText json (bootstrapDefault json).2).2 ≠ (bootstrapDefault json).2 := by
  obtain ⟨printed, object, hobject, halike, hperm⟩ := json.fromStr_pretty (default.fields_nodup json)
  have hread : ofMembers json object = some default := by
    rw [← ofMembers_perm json hperm, ← ofMembers_congr json halike]
    exact (holds_fields json default).ofMembers
  have hsorted := hydrateKnownFields_sorted (json.fromStr_sorted hobject) default
  have hwritten : (classifyText json (bootstrapDefault json).2).2 = json.toStringPretty (hydrateKnownFields json object default) := by
    simp only [classifyText, bootstrapDefault, ExvConfig.toStringPretty, hobject, hread]
  rw [hwritten]
  intro hsame
  obtain ⟨m, hm, hmAlike⟩ := json.members_pretty hsorted.nodup
  obtain ⟨m', hm', hmAlike'⟩ := json.members_pretty (default.fields_nodup json)
  rw [hsame] at hm
  obtain rfl : m = m' := by simpa using hm.symm.trans hm'
  have hnames : ((default.fields json).map Prod.fst).Pairwise (· < ·) := by
    rw [hmAlike'.names, ← hmAlike.names]
    exact pairwise_map.mpr hsorted
  exact absurd hnames (by simp only [ExvConfig.fields, map_cons, map_nil]; decide +kernel)

end StartupHygieneAux

open StartupHygieneAux

theorem loadForStartup_of_usable (h : Usable pid d script) (hfile : d.files configFile = some content)
    (hutf8 : fromUtf8 content = some text) :
    ∃ after, loadForStartup json pid d script = (.ok (classifyText json text).1, after) ∧
      after.1.files configFile = some (asBytes (classifyText json text).2) := by
  have hok := h.2 (classifyText json text).2
  have hwritten := (writeConfigJsonAtomically_ends pid (classifyText json text).2 script.tail).1 () hok
  have hrun : loadForStartup json pid d script =
      (writeConfigJsonAtomically pid (classifyText json text).2 >>= fun _ => pure (classifyText json text).1) d script.tail := by
    rw [loadForStartup, bind_run]
    simp only [attempt, readToString_run, h.1, hfile, hutf8, Option.elim, Bool.false_eq_true, if_false]
    rfl
  rw [hrun, bind_run]
  generalize writeConfigJsonAtomically pid (classifyText json text).2 d script.tail = r at hok hwritten
  obtain ⟨r, after⟩ := r
  cases hok
  exact ⟨after, rfl, hwritten⟩

/-- A file that is not UTF-8 fails the startup. -/
theorem loadForStartup_of_not_utf8 (h : fails script 0 = false) (hfile : d.files configFile = some content)
    (hutf8 : fromUtf8 content = none) : (loadForStartup json pid d script).1 = .error (.io .invalidData) := by
  rw [loadForStartup, bind_run]
  simp only [attempt, readToString_run, h, hfile, hutf8, Option.elim, Bool.false_eq_true, if_false]
  rfl

/-- Of a file that can be read and written two startups make what they should exactly when its content is the text of an object
that is a configuration, without a mode that is not known. -/
theorem startup_repair (hexact : ExactValues json.toJsonValues)
    (hround : ∀ m : List (Text × json.Value), SortedMap.Sorted m → json.fromStr (json.toStringPretty m) = some (.object m))
    (h : Usable pid d script) (hfile : d.files configFile = some content) {pid' : UInt32} {script' : List Outcome}
    (h' : Usable pid' (loadForStartup json pid d script).2.1 script') :
    Repairs json content (loadForStartup json pid d script)
      (loadForStartup json pid' (loadForStartup json pid d script).2.1 script') ↔ Repairable json content := by
  rcases hutf8 : fromUtf8 content with _ | text
  · refine iff_of_false (fun hrepairs => ?_) ?_
    · obtain ⟨startup, -, hfirst, -⟩ := hrepairs.returned
      cases (loadForStartup_of_not_utf8 json h.1 hfile hutf8).symm.trans hfirst
    · rintro ⟨text, -, -, htext, -⟩
      cases hutf8.symm.trans htext
  obtain ⟨after, hrun, hwritten⟩ := loadForStartup_of_usable json h hfile hutf8
  rw [hrun] at h' ⊢
  obtain ⟨later, hagain, hrewritten⟩ := loadForStartup_of_usable json h' hwritten (fromUtf8_asBytes _)
  rw [hagain]
  rcases classifyText_cases json text with ⟨object, config, hparse, hread, hclassified⟩ | ⟨hclassified, hnot⟩
  · have hsorted := json.fromStr_sorted hparse
    rw [hclassified] at hwritten hrewritten ⊢
    have hsecond : classifyText json (json.toStringPretty (hydrateKnownFields json object config)) =
        (⟨config, false⟩, json.toStringPretty (hydrateKnownFields json object config)) := by
      rw [classifyText, hround _ (hydrateKnownFields_sorted hsorted config)]
      simp only [(holds_hydrateKnownFields hsorted config).ofMembers, hydrateKnownFields_again hsorted]
    rw [hsecond] at hrewritten ⊢
    constructor
    · intro hrepairs
      refine ⟨text, object, config, hutf8, hparse, hread, fun v t hv ht => ?_⟩
      obtain ⟨document, written, hdocument, hobject, hmem⟩ := hrepairs.kept text object config hutf8 hparse hread
      obtain rfl : document = json.toStringPretty (hydrateKnownFields json object config) :=
        asBytes_inj (Option.some.inj (hdocument.symm.trans hwritten))
      have hdone := hydrateKnownFields_sorted hsorted config
      cases (hround _ hdone).symm.trans hobject
      -- the member is written with the mode that was read, so its text is that of a mode
      have hmode := holds_hydrateKnownFields hsorted config "connection_mode".toList
        (json.text config.connectionMode.asStr) (by simp [ExvConfig.fields])
      have hvalue := occurrences_of_mem hdone.nodup ((hmem _).mpr (.inl hv))
      obtain rfl : v = json.text config.connectionMode.asStr := (cons.inj (hvalue.symm.trans hmode)).1
      rw [json.readText_text, Option.some.injEq] at ht
      simp [← ht]
    · rintro ⟨text', object', config', htext, hparse', hread', hmode⟩
      cases hutf8.symm.trans htext
      cases hparse.symm.trans hparse'
      cases hread.symm.trans hread'
      refine ⟨⟨_, _, rfl, rfl, rfl⟩, hrewritten.trans hwritten.symm, fun text' object' config' htext hparse' hread' => ?_⟩
      cases hutf8.symm.trans htext
      cases hparse.symm.trans hparse'
      exact ⟨_, _, hwritten, hround _ (hydrateKnownFields_sorted hsorted config), mem_completed hexact hsorted hread hmode⟩
  · refine iff_of_false (fun hrepairs => ?_) ?_
    · have hsame := hrewritten.symm.trans (hrepairs.unchanged.trans hwritten)
      rw [hclassified] at hsame
      exact bootstrap_rewritten json (asBytes_inj (Option.some.inj hsame))
    · rintro ⟨text', object, config, htext, hparse, hread, -⟩
      cases hutf8.symm.trans htext
      cases (hnot object hparse).symm.trans hread

/-- A directory with this configuration file. -/
def startupDisk (content : Bytes) : Disk := Disk.empty.put configFile content

/-- The values of flat documents are what they are read as. -/
theorem flatValues_exact : ExactValues flatValues where
  text {v t} h := by cases v <;> cases h; rfl
  bool {v t} h := by cases v <;> cases h; rfl
  number {v t} h := by cases v <;> cases h; rfl
  texts {v t} h := by cases v <;> cases h; rfl

/-- Sorted members come back from a text as they were. -/
theorem prettyJson_round (m : List (Text × FlatValue)) (h : SortedMap.Sorted m) :
    prettyJson.fromStr (prettyJson.toStringPretty m) = some (.object m) := by
  change (PrettyJson.parse (PrettyJson.toStringPretty m)).map PrettyJson.mapped = _
  rw [PrettyJson.parse_toStringPretty h.nodup, Option.map_some, PrettyJson.mapped, SortedMap.extend_nil_of_sorted h]
  rfl

/-- A document of a later version: a server, a theme that is not known, and nothing else. -/
def laterDocument : List (Text × FlatValue) :=
  [("server".toList, .text "vpn.ecnu.edu.cn".toList), ("theme".toList, .text "dark".toList)]

/-- Two startups repair that document. -/
theorem startup_repair_document :
    let first := loadForStartup prettyJson 7 (startupDisk (asBytes (prettyJson.toStringPretty laterDocument))) []
    Repairs prettyJson (asBytes (prettyJson.toStringPretty laterDocument)) first (loadForStartup prettyJson 8 first.2.1 []) := by
  intro first
  have hsorted : SortedMap.Sorted laterDocument := by
    unfold SortedMap.Sorted
    decide
  refine (startup_repair prettyJson flatValues_exact prettyJson_round ⟨rfl, fun _ => rfl⟩ rfl ⟨rfl, fun _ => rfl⟩).mpr ?_
  refine ⟨_, laterDocument, { ExvConfig.default with server := "vpn.ecnu.edu.cn".toList }, fromUtf8_asBytes _,
    prettyJson_round laterDocument hsorted, by decide +kernel, ?_⟩
  intro v t hv
  exact absurd (show "connection_mode".toList ∈ laterDocument.map Prod.fst from mem_map_of_mem hv) (by decide)

/-- A byte that is not UTF-8 fails the startup; a mode of a later version does not survive it; and the defaults that are written
for an empty file are written anew by the next startup. -/
theorem startup_loses :
    (loadForStartup prettyJson 7 (startupDisk [255, 123, 125]) []).1 = .error (.io .invalidData) ∧
      (classifyText prettyJson (prettyJson.toStringPretty [("connection_mode".toList, .text "turbo".toList)])).1.config =
        .default ∧
      (classifyText prettyJson []).2 = (bootstrapDefault prettyJson).2 ∧
      (classifyText prettyJson (bootstrapDefault prettyJson).2).2 ≠ (bootstrapDefault prettyJson).2 :=
  ⟨by decide +kernel, by decide +kernel, by decide +kernel, bootstrap_rewritten prettyJson⟩

end ExvVpn.Win32Config
