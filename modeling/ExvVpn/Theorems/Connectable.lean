import ExvVpn.DarwinConfig.Credential
import ExvVpn.Theorems.AccountPassword

/-!
# Connecting with what the settings hold

The settings and the connect envelope check the same fields each in its own way. Whatever the settings hold, few checks of the
envelope are left: a server that is not four numbers, a password of a bounded length without control characters, a bounded
number of networks, and an MTU from 576 to 1500.
-/

namespace ExvVpn.DarwinConfig

open RustStr Syscall Config Transition List Option DarwinIpc DarwinStoredConfig DarwinConfig.AccountPasswordAux UiConfig

/-- A host name as both checks take it. -/
def ServerName (value : Text) : Prop :=
  (∀ c ∈ value, c.toNat < 128) ∧ (asBytes value).length ≤ maxServerLen ∧
    ∀ label ∈ split '.' value, validDnsLabel label = true

/-- The fields of a configuration as the settings leave them. -/
structure DarwinStoredConfig.Valid (c : DarwinStoredConfig) : Prop where
  server : c.server = [] ∨ ServerName c.server
  username : c.username = [] ∨ plainText c.username = true
  userAgent : plainText c.userAgent = true

/-- The fields of an update that set one of these. -/
structure ConfigUpdate.Valid (update : ConfigUpdate) : Prop where
  server : ∀ value, update.server = some value → value = [] ∨ ServerName value
  username : ∀ value, update.username = some value → value = [] ∨ plainText value = true
  userAgent : ∀ value, update.userAgent = some value → plainText value = true

/-- What the envelope still asks of a configuration of the settings and a password. -/
structure Connectable (c : DarwinStoredConfig) (password : Text) : Prop where
  server : isDecimalIpv4Literal c.server = false
  password : (asBytes password).length ≤ maxPasswordLen ∧ password.any isControl = false
  routes : (normalizedConnectRoutes c.routes).length ≤ maxRouteCount
  mtu : 576 ≤ c.mtu.toNat ∧ c.mtu.toNat ≤ 1500

variable {update : ConfigUpdate} {c : DarwinStoredConfig}

namespace ConnectableAux

theorem validDnsLabel_toLower {label : Text} (h : validLabel label = true) :
    DarwinIpc.validDnsLabel (toAsciiLowercase label) = true := by
  simp only [validLabel, Bool.and_eq_true, decide_eq_true_eq, bne_iff_ne, ne_eq, List.all_eq_true, Bool.or_eq_true,
    beq_iff_eq] at h
  obtain ⟨⟨⟨⟨hlow, hhigh⟩, hhead⟩, hlast⟩, hall⟩ := h
  have hne : label ≠ [] := by
    rintro rfl
    exact absurd hlow (by decide)
  have hascii : ∀ c ∈ label, c.toNat < 128 := by
    intro c hc
    rcases hall c hc with halnum | rfl
    · rw [isAlphanum_iff] at halnum
      omega
    · decide
  have hlen : (asBytes (toAsciiLowercase label)).length ≤ 63 := by
    rw [byteLen, length_asBytes hascii] at hhigh
    rw [length_asBytes (toAsciiLowercase_ascii hascii), toAsciiLowercase, List.length_map]
    exact hhigh
  -- A character that is allowed and is not a hyphen is a letter or a digit, and stays one in lower case.
  have hends : ∀ c, c ∈ label → c ≠ '-' → c.toLower.isAlphanum = true := by
    intro c hc hhyphen
    exact isAlphanum_toLower ((hall c hc).resolve_right hhyphen)
  have hfirst := List.head?_eq_some_head hne
  have hfinal := List.getLast?_eq_some_getLast hne
  rw [hfirst] at hhead
  rw [hfinal] at hlast
  have hfirstAlnum := hends _ (List.head_mem hne) fun heq => hhead (congrArg some heq)
  have hfinalAlnum := hends _ (List.getLast_mem hne) fun heq => hlast (congrArg some heq)
  have hchars : (toAsciiLowercase label).all (fun c => c.isAlphanum || c == '-') = true := by
    rw [List.all_eq_true]
    intro c hc
    obtain ⟨upper, hupper, rfl⟩ := List.mem_map.mp hc
    rcases hall upper hupper with halnum | rfl
    · rw [isAlphanum_toLower halnum, Bool.true_or]
    · decide
  rw [DarwinIpc.validDnsLabel, hchars, decide_eq_true hlen]
  simp [toAsciiLowercase, hfirst, hfinal, hfirstAlnum, hfinalAlnum, hne]

/-- A server the settings normalized is a host name for the envelope. -/
theorem normalizeServer_name {value server : Text} (h : normalizeServer value = .ok server) : server = [] ∨ ServerName server := by
  unfold normalizeServer at h
  split_ifs at h with hempty hrefused hlabels
  · cases h
    exact .inl rfl
  cases h
  right
  simp only [Bool.or_eq_true, Bool.not_eq_true', not_or, Bool.not_eq_false, List.all_eq_true,
    decide_eq_true_eq] at hrefused hlabels
  obtain ⟨⟨hascii, hlen⟩, -⟩ := hrefused
  refine ⟨toAsciiLowercase_ascii hascii, ?_, ?_⟩
  · rw [byteLen, length_asBytes hascii] at hlen
    rw [length_asBytes (toAsciiLowercase_ascii hascii), toAsciiLowercase, List.length_map]
    exact Nat.le_of_not_lt hlen
  · intro label hlabel
    rw [toAsciiLowercase, split_map (fun c => toLower_eq_iff (by decide))] at hlabel
    obtain ⟨upper, hupper, rfl⟩ := List.mem_map.mp hlabel
    exact validDnsLabel_toLower (hlabels upper hupper)

theorem validateUsername_plain {value name : Text} (h : validateUsername value = .ok name) : name = [] ∨ plainText name = true := by
  unfold validateUsername at h
  split_ifs at h with hempty hplain
  · cases h
    exact .inl rfl
  · cases h
    exact .inr hplain

theorem setItem_valid {update' : ConfigUpdate} {item : Text × Text} (h : update.setItem item = .ok update')
    (hvalid : update.Valid) : update'.Valid := by
  obtain ⟨key, -, hset⟩ := setItem_setBy h
  cases hset with
  | server hserver => exact { hvalid with server := fun value hvalue => by cases hvalue; exact normalizeServer_name hserver }
  | username husername =>
    exact { hvalid with username := fun value hvalue => by cases hvalue; exact validateUsername_plain husername }
  | userAgent huserAgent =>
    refine { hvalid with userAgent := fun value hvalue => ?_ }
    cases hvalue
    unfold validateUserAgent at huserAgent
    split_ifs at huserAgent with hplain
    cases huserAgent
    exact hplain
  | _ => exact { hvalid with }

theorem validate_valid {items : List (Text × Text)} (h : ConfigUpdate.validate items = .ok update) : update.Valid := by
  have hstart : ConfigUpdate.Valid {} :=
    ⟨fun _ hvalue => (by cases hvalue), fun _ hvalue => (by cases hvalue), fun _ hvalue => (by cases hvalue)⟩
  exact invariant_of_foldlM (fun _ _ _ => setItem_valid) (validate_foldlM h).2 hstart

theorem default_valid : default.Valid := by
  have hascii : default.server.all (fun c => c.toNat < 128) = true := by decide +kernel
  refine ⟨.inr ⟨fun c hc => of_decide_eq_true (all_eq_true.mp hascii c hc), ?_, ?_⟩, .inl rfl, ?_⟩ <;> decide +kernel

theorem getD_valid {P : Text → Prop} {set : Option Text} {old : Text} (hset : ∀ value, set = some value → P value) (hold : P old) :
    P (set.getD old) := by
  cases set with
  | none => exact hold
  | some value => exact hset value rfl

theorem applyFields_valid (hupdate : update.Valid) (hc : c.Valid) : (update.applyFields c).Valid := by
  have hserver := getD_valid hupdate.server hc.server
  have huserAgent := getD_valid (P := fun value => plainText value = true) hupdate.userAgent hc.userAgent
  unfold ConfigUpdate.applyFields
  rcases hvalue : update.username with _ | username
  · exact ⟨hserver, hc.username, huserAgent⟩
  · exact ⟨hserver, hupdate.username username hvalue, huserAgent⟩

theorem applyUiCredentialsAndSave_valid {sealing : Sealing} {json : SerdeJson} {pid : UInt32} {random : Key}
    {nonce : Option Nonce} {c' : DarwinStoredConfig} {username : Text} {password : Option Text} {d : Disk}
    {script : List Outcome} (hc : c.Valid)
    (h : (applyUiCredentialsAndSave sealing json pid random nonce c username password d script).1 = .ok c') : c'.Valid := by
  unfold applyUiCredentialsAndSave at h
  rcases hvalidate : validateUsername username with e | name
  · rw [hvalidate] at h
    cases h
  rw [hvalidate] at h
  have hname := validateUsername_plain hvalidate
  rcases password with _ | plaintext
  · obtain ⟨candidate, _, _, hcandidate, h⟩ := bind_eq_ok h
    cases hcandidate
    obtain ⟨_, _, _, -, h⟩ := bind_eq_ok h
    cases h
    exact ⟨hc.server, hname, hc.userAgent⟩
  · obtain ⟨sealed, _, _, hsealed, h⟩ := bind_eq_ok h
    obtain ⟨candidate, _, _, hcandidate, h⟩ := bind_eq_ok h
    cases hcandidate
    obtain ⟨_, _, _, -, h⟩ := bind_eq_ok h
    cases h
    have hfields := sealPassword_eq_ok (congrArg Prod.fst hsealed)
    rw [hfields]
    exact ⟨hc.server, hname, hc.userAgent⟩

/-- The settings keep their fields valid, whatever is asked of them. -/
theorem valid_step {sealing : Sealing} {json : SerdeJson} (pid : UInt32) (s : UiConfig) (update : Update × List Outcome)
    (hs : s.Sound sealing json ∧ s.inner.Valid) :
    (s.step sealing json pid update).Sound sealing json ∧ (s.step sealing json pid update).inner.Valid := by
  refine ⟨sound_step pid s update hs.1, ?_⟩
  obtain ⟨update, script⟩ := update
  unfold step
  rcases hrun : update.prog sealing json pid s.inner s.disk script with ⟨e | inner, disk, rest⟩
  · exact hs.2
  have hresult : (update.prog sealing json pid s.inner s.disk script).1 = .ok inner := by rw [hrun]
  cases update with
  | items changes random nonce =>
    obtain ⟨update, hvalidate, hfields⟩ := applyAndSave_eq_ok hresult
    have hvalid := applyFields_valid (validate_valid hvalidate) hs.2
    rw [hfields]
    exact ⟨hvalid.server, hvalid.username, hvalid.userAgent⟩
  | credentials username password random nonce => exact applyUiCredentialsAndSave_valid hs.2 hresult
  | restart =>
    rw [hs.1.stored script inner hresult]
    exact hs.2

theorem validateServer_of_name {server : Text} (h : ServerName server) (hne : server ≠ []) :
    validateServer server = .ok () ↔ isDecimalIpv4Literal server = false := by
  obtain ⟨hascii, hlen, hlabels⟩ := h
  have hall : (server.all fun c => decide (c.toNat < 128)) = true :=
    all_eq_true.mpr fun c hc => decide_eq_true (hascii c hc)
  have hnames : (split '.' server).all validDnsLabel = true := all_eq_true.mpr hlabels
  rw [validateServer, hall, hnames, decide_eq_false (Nat.not_lt.mpr hlen)]
  simp [hne]

theorem validateText_of_plain {value : Text} (h : plainText value = true) {maxLen : Nat} (hmax : 256 ≤ maxLen)
    (error : DarwinIpc.ConnectEnvelopeError) : validateText maxLen error value = .ok () := by
  simp only [plainText, Bool.and_eq_true, decide_eq_true_eq, Bool.not_eq_true'] at h
  obtain ⟨⟨hlow, hhigh⟩, hcontrol⟩ := h
  have hne : value ≠ [] := by
    rintro rfl
    exact absurd hlow (by decide)
  rw [byteLen] at hhigh
  rw [validateText, hcontrol, decide_eq_false (Nat.not_lt.mpr (Nat.le_trans hhigh hmax))]
  simp [hne]

theorem validateMtu_some {mtu : UInt32} (h : mtu.toNat < 2 ^ 16) :
    validateMtu (mtuOverride mtu) = .ok () ↔ 576 ≤ mtu.toNat ∧ mtu.toNat ≤ 1500 := by
  have hvalue : (UInt16.ofNat mtu.toNat).toNat = mtu.toNat := UInt16.toNat_ofNat_of_lt' h
  rw [mtuOverride, if_pos h, validateMtu, any_some, hvalue]
  simp

/-- With a valid configuration the envelope is built exactly when what it still asks is given. -/
theorem buildConnectEnvelope_iff (sha256 : Bytes → Bytes) (hc : c.Valid) (hserver : c.server ≠ [])
    (husername : c.username ≠ []) {password : Text} (hpassword : password ≠ []) (hmtu : c.mtu.toNat < 2 ^ 16) :
    (∃ envelope, buildConnectEnvelope sha256 c password = .ok envelope) ↔ Connectable c password := by
  have hname := validateServer_of_name (hc.server.resolve_left hserver) hserver
  have huser := validateText_of_plain (hc.username.resolve_left husername) (Nat.le_refl 256) .invalidUsername
  have hagent := validateText_of_plain hc.userAgent (Nat.le_refl 256) .invalidUserAgent
  have hpass : validatePassword password = .ok () ↔
      (asBytes password).length ≤ maxPasswordLen ∧ password.any isControl = false := by
    simp [validatePassword, validateText, hpassword]
  have hroutes := validateRoutes_normalized c.routes
  have hvalue := validateMtu_some hmtu
  constructor
  · rintro ⟨envelope, hbuilt⟩
    obtain ⟨⟨hs, -, hp, hr, hm, -⟩, -⟩ := new_eq_ok.mp hbuilt
    exact ⟨hname.mp hs, hpass.mp hp, hroutes.mp hr, hvalue.mp hm⟩
  · intro h
    refine ⟨_, new_eq_ok.mpr ⟨⟨?_, huser, ?_, ?_, ?_, hagent⟩, rfl⟩⟩
    · exact hname.mpr h.server
    · exact hpass.mpr h.password
    · exact hroutes.mpr h.routes
    · exact hvalue.mpr h.mtu

end ConnectableAux

open ConnectableAux

/-- Whatever was saved from the default configuration on, with a server, a user name and a password the envelope is built
exactly when what it still asks is given, and it carries what the settings hold. -/
theorem settings_connect (sha256 : Bytes → Bytes) (sealing : Sealing) (json : SerdeJson) (pid : UInt32) {s : UiConfig}
    (hdefault : s.inner = .default) (hstored : ∀ script c, (loadFromDir json s.disk script).1 = .ok c → c = s.inner)
    (updates : List (Update × List Outcome)) (password : Text) :
    let c := (run (step sealing json pid) s updates).inner
    c.server ≠ [] → c.username ≠ [] → password ≠ [] →
      (c.mtu.toNat < 2 ^ 16 →
        ((∃ envelope, buildConnectEnvelope sha256 c password = .ok envelope) ↔ Connectable c password)) ∧
      ∀ envelope, buildConnectEnvelope sha256 c password = .ok envelope →
        envelope.server = c.server ∧ envelope.username = c.username ∧ envelope.password = password ∧
          envelope.userAgent = c.userAgent ∧
          (c.mtu.toNat < 2 ^ 16 → envelope.mtuOverride.map UInt16.toNat = some c.mtu.toNat) := by
  intro c hserver husername hpassword
  have hstart : s.Sound sealing json ∧ s.inner.Valid := by
    rw [hdefault] at hstored
    refine ⟨⟨.inl (by rw [hdefault]; rfl), by rwa [hdefault]⟩, by rw [hdefault]; exact default_valid⟩
  have hvalid : c.Valid :=
    (invariant_of_run (I := fun s : UiConfig => s.Sound sealing json ∧ s.inner.Valid) (valid_step pid) hstart updates).2
  refine ⟨fun hmtu => buildConnectEnvelope_iff sha256 hvalid hserver husername hpassword hmtu, fun envelope hbuilt => ?_⟩
  obtain ⟨-, rfl⟩ := new_eq_ok.mp hbuilt
  refine ⟨rfl, rfl, rfl, rfl, fun hmtu => ?_⟩
  rw [mtuOverride, if_pos hmtu, map_some, UInt16.toNat_ofNat_of_lt' hmtu]

namespace ConnectableAux

/-- A new user saves an account, its password and more. -/
def saved (more : List (Text × Text)) : UiConfig :=
  run (step carriedKey prettyJson 7) ⟨.default, Disk.empty, []⟩
    [(.items ([("username".toList, "alice".toList), ("password".toList, "s3cret".toList),
      ("remember_password".toList, "true".toList)] ++ more) sampleKey (some sampleNonce), [])]

theorem loadFromDir_empty (json : SerdeJson) (script : List Outcome) (c : DarwinStoredConfig)
    (h : (loadFromDir json Disk.empty script).1 = .ok c) : c = .default := by
  rw [loadFromDir_run] at h
  split at h
  · cases h
  · exact (Except.ok.inj h).symm

end ConnectableAux

/-- With the defaults and an account the envelope is built. -/
theorem settings_connect_default :
    (saved []).inner.server = "vpn-cn.ecnu.edu.cn".toList ∧ (saved []).inner.username = "alice".toList ∧
      ∃ envelope, buildConnectEnvelope (fun _ => replicate 32 0) (saved []).inner "s3cret".toList = .ok envelope ∧
        envelope.server = (saved []).inner.server ∧ envelope.mtuOverride.map UInt16.toNat = some 1290 := by
  have h := settings_connect (fun _ => replicate 32 0) carriedKey prettyJson 7 (s := ⟨.default, Disk.empty, []⟩) rfl
    (loadFromDir_empty prettyJson) [(.items ([("username".toList, "alice".toList), ("password".toList, "s3cret".toList),
      ("remember_password".toList, "true".toList)] ++ []) sampleKey (some sampleNonce), [])] "s3cret".toList
    (by decide +kernel) (by decide +kernel) (by decide)
  obtain ⟨envelope, hbuilt⟩ := (h.1 (by decide +kernel)).mpr
    ⟨by decide +kernel, by decide +kernel, by decide +kernel, by decide +kernel⟩
  obtain ⟨hserver, -, -, -, hmtu⟩ := h.2 envelope hbuilt
  exact ⟨by decide +kernel, by decide +kernel, envelope, hbuilt, hserver, hmtu (by decide +kernel)⟩

/-- An MTU of 100 is accepted and saved with the account, and no envelope is built with it. -/
theorem small_mtu_not_connected :
    (saved [("mtu".toList, "100".toList)]).history.length = 1 ∧
      (loadSavedPassword carriedKey (saved [("mtu".toList, "100".toList)]).inner
        (saved [("mtu".toList, "100".toList)]).disk []).1 = .ok "s3cret".toList ∧
      (saved [("mtu".toList, "100".toList)]).inner.server ≠ [] ∧ (saved [("mtu".toList, "100".toList)]).inner.username ≠ [] ∧
      buildConnectEnvelope (fun _ => replicate 32 0) (saved [("mtu".toList, "100".toList)]).inner "s3cret".toList =
        .error .invalidMtu := by
  refine ⟨?_, ?_, ?_, ?_, ?_⟩ <;> decide +kernel

end ExvVpn.DarwinConfig
