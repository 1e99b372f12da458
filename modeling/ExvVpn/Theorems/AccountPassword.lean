import ExvVpn.Lemmas.DarwinUpdate
import ExvVpn.Theorems.ConfigPersistence
import ExvVpn.Theorems.ConfigSerial

/-!
# The password of an account

On both hosts, what can be loaded as the password of the stored account is the last one saved for it since it is the stored
one. An update seals a new password, keeps the ciphertext or drops it, and drops it whenever the account changes; a ciphertext
opens only with the key it was sealed with, whatever becomes of the key file.
-/

namespace ExvVpn.Config

/-- The accepted updates, the latest first: the user name an update left and the password it saved, if it saved one. -/
abbrev History := List (Text × Option Text)

/-- The last password that was saved for a user name, with no other user name since. -/
def lastSaved (username : Text) : History → Option Text
  | [] => none
  | (left, saved) :: before => if left = username then saved.or (lastSaved username before) else none

/-- The password that an update saves: the one it brings, if it is to be remembered and there is something to it. -/
def savedPassword (items : List (Text × Text)) (rememberPassword : Bool) : Option Text :=
  if rememberPassword then (lastItem "password".toList items).filter fun password => !password.isEmpty else none

/-- A ciphertext that is no password or that of the last password saved for its account. -/
def Provenance (sealing : Sealing) (username password : Text) (history : History) : Prop :=
  password = [] ∨ ∃ plaintext key nonce, encryptPassword sealing plaintext key nonce = .ok password ∧
    lastSaved username history = some plaintext

/-- What an accepted update does to the account and its ciphertext, with the password it saves. -/
inductive PasswordChange (sealing : Sealing) (username password username' password' : Text) (saved : Option Text) : Prop
  | cleared (hpassword : password' = [])
  | kept (husername : username' = username) (hpassword : password' = password) (hsaved : saved = none)
  | renewed {plaintext : Text} {key : Key} {nonce : Option Nonce}
      (hpassword : encryptPassword sealing plaintext key nonce = .ok password') (hsaved : saved = some plaintext)

variable {sealing : Sealing} {username password username' password' : Text} {saved : Option Text} {history : History}

/-- Every such change keeps the ciphertext that of the last password saved for its account. -/
theorem PasswordChange.provenance (h : PasswordChange sealing username password username' password' saved)
    (hbefore : Provenance sealing username password history) :
    Provenance sealing username' password' ((username', saved) :: history) := by
  cases h with
  | cleared hpassword => exact .inl hpassword
  | kept husername hpassword hsaved =>
    subst husername hpassword hsaved
    rcases hbefore with hnone | ⟨plaintext, key, nonce, hseal, hlast⟩
    · exact .inl hnone
    · refine .inr ⟨plaintext, key, nonce, hseal, ?_⟩
      rw [lastSaved, if_pos rfl, Option.none_or, hlast]
  | renewed hpassword hsaved =>
    subst hsaved
    refine .inr ⟨_, _, _, hpassword, ?_⟩
    rw [lastSaved, if_pos rfl, Option.some_or]

/-- What such a ciphertext opens to is the last password saved for its account. -/
theorem Provenance.opens (h : Provenance sealing username password history) (hreject : sealing.RejectsWrongKey)
    (hpassword : password ≠ []) {key : Key} {plaintext : Text} (hopen : decryptPassword sealing password key = .ok plaintext) :
    lastSaved username history = some plaintext := by
  rcases h with hnone | ⟨sealed, sealedKey, nonce, hseal, hlast⟩
  · exact absurd hnone hpassword
  by_cases hkey : key = sealedKey
  · subst hkey
    rw [decryptPassword_encryptPassword sealing hseal] at hopen
    cases hopen
    exact hlast
  · rw [decryptPassword_wrongKey sealing hseal hreject hkey] at hopen
    cases hopen

end ExvVpn.Config

namespace ExvVpn.DarwinConfig

open Syscall Config DarwinStoredConfig RustStr

variable {sealing : Sealing} {json : SerdeJson}

variable {d : Disk} {c : DarwinStoredConfig}

namespace AccountPasswordAux

variable (pid : UInt32)

/-- The file is replaced or left alone. -/
theorem atomicWrite_ends (filename : Text) (contents : Bytes) {name : Text} (hname : name.head? ≠ some '.') :
    Ends False (atomicWrite pid filename contents) d
      (fun _ d' => d'.files name = if name = filename then some contents else d.files name)
      fun d' => d'.files name = d.files name := by
  refine createDirAll_reads.bind id rfl fun _ _ => ?_
  refine nextTemporary_ends.bind id (fun sequence d₁ hnext => ?_) fun _ h => by rw [h]
  have hne := @temporaryName_ne filename name hname pid sequence
  refine (writeFile_ends contents hne).bind id (fun _ d₂ hwrite => ?_) fun _ h => by rw [h, hnext]
  rw [hnext] at hwrite
  -- The temporary file is complete when the rename comes.
  refine (rename_ends (temporaryName filename pid sequence) filename hne).attempt_bind fun r d₃ hok herr => ?_
  rcases r with e | _
  · obtain rfl := herr e rfl
    refine (removeFile_ends hne).attempt_bind fun removed d₄ hok herr => Ends.stop ?_ nofun
    rcases removed with e | _
    · exact (herr e rfl).trans hwrite.1
    · exact (hok _ rfl).trans hwrite.1
  · refine Ends.pure ?_
    rw [hok _ rfl, hwrite.1, hwrite.2]

/-- `config.json` is as it was. -/
abbrev Unchanged (d d' : Disk) : Prop := d'.files configFile = d.files configFile

theorem configFile_head : configFile.head? ≠ some '.' := by decide

theorem loadKey_reads : Reads False loadKey d fun _ => True := by
  refine Reads.of_run (fun script => ?_) fun _ _ _ => trivial
  rw [loadKey, bind_run]
  simp only [attempt, readFile_run]
  split
  · rfl
  rcases d.files keyFile with _ | bytes
  · rfl
  · dsimp only [Option.elim]
    split <;> rfl

/-- A key is found or made without touching `config.json`. -/
theorem ensureKey_ends (random : Key) : Ends False (ensureKey pid random) d (fun _ => Unchanged d) (Unchanged d) := by
  have hrandom : Reads False (generateKey random) d fun _ => True :=
    Ends.call (fun _ _ => ⟨rfl, trivial⟩) nofun (fun _ => rfl) nofun
  have hnew : Ends False (do let key ← generateKey random; saveKey pid key; pure key) d
      (fun _ => Unchanged d) (Unchanged d) := by
    refine hrandom.bind id rfl fun key _ => ?_
    refine (atomicWrite_ends pid keyFile key.val configFile_head).mapError.bind id (fun _ d' h => Ends.pure ?_) fun _ => id
    exact h.trans (if_neg (by decide))
  refine Reads.bind loadKey_reads.attempt id rfl fun r _ => ?_
  rcases r with e | _ | key
  · exact hnew
  · exact hnew
  · exact Ends.pure rfl

/-- A sealed password is a ciphertext of the password that was to be sealed, and nothing else of the candidate changes. -/
theorem sealPassword_ends (random : Key) (nonce : Option Nonce) (candidate : DarwinStoredConfig) (plaintext : Text) :
    Ends False (sealPassword sealing pid random nonce candidate plaintext) d
      (fun c d' => Unchanged d d' ∧ ∃ key password,
        encryptPassword sealing plaintext key nonce = .ok password ∧ c = { candidate with password })
      (Unchanged d) := by
  refine (ensureKey_ends pid random).bind id (fun key d' hd => ?_) fun _ => id
  unfold setPasswordEncrypted
  rcases hseal : encryptPassword sealing plaintext key nonce with e | password
  · exact Ends.stop hd nofun
  · exact Ends.pure ⟨hd, key, password, hseal, rfl⟩

/-- What one configuration made of another did to the account and its ciphertext. -/
abbrev Change (sealing : Sealing) (c c' : DarwinStoredConfig) (saved : Option Text) : Prop :=
  PasswordChange sealing c.username c.password c'.username c'.password saved

theorem withUsername_change (c : DarwinStoredConfig) (username : Text) : Change sealing c (c.withUsername username) none := by
  by_cases hname : c.username = username
  · exact .kept hname.symm (if_neg fun h => h hname) rfl
  · exact .cleared (if_pos hname)

theorem applyFields_change (update : ConfigUpdate) (c : DarwinStoredConfig) :
    Change sealing c (update.applyFields c) none := by
  unfold ConfigUpdate.applyFields
  rcases update.username with _ | username
  · exact .kept rfl rfl rfl
  · exact withUsername_change { c with server := update.server.getD c.server } username

/-- What an update makes of the account and its ciphertext. -/
theorem apply_ends (random : Key) (nonce : Option Nonce) (update : ConfigUpdate) (c : DarwinStoredConfig) :
    Ends False (update.apply sealing pid random nonce c) d
      (fun c' d' => Unchanged d d' ∧ Change sealing c c'
        (if c'.rememberPassword then update.password.filter fun password => !password.isEmpty else none))
      (Unchanged d) := by
  unfold ConfigUpdate.apply
  by_cases hremember : (update.applyFields c).rememberPassword = false
  · rw [if_pos hremember]
    exact Ends.pure ⟨rfl, .cleared rfl⟩
  rw [if_neg hremember]
  rw [Bool.not_eq_false] at hremember
  generalize update.password.filter (fun password => !password.isEmpty) = new
  rcases new with _ | plaintext
  · refine Ends.pure ⟨rfl, ?_⟩
    rw [if_pos hremember]
    exact applyFields_change update c
  · refine (sealPassword_ends pid random nonce _ plaintext).weaken id (fun c' d' h => ⟨h.1, ?_⟩) fun _ => id
    obtain ⟨-, key, password, hseal, rfl⟩ := h
    exact .renewed hseal (if_pos hremember)

end AccountPasswordAux

open AccountPasswordAux

/-- What is asked of the macOS configuration: an update of items or of the credentials, with what the random generator gives it,
or a new start from the directory. -/
inductive Update
  | items (changes : List (Text × Text)) (random : Key) (nonce : Option Nonce)
  | credentials (username : Text) (password : Option Text) (random : Key) (nonce : Option Nonce)
  | restart

variable (sealing json) (pid : UInt32)

def Update.prog (inner : DarwinStoredConfig) : Update → Prog Disk DarwinConfigError DarwinStoredConfig
  | .items changes random nonce => applyAndSave sealing json pid random nonce inner changes
  | .credentials username password random nonce => applyUiCredentialsAndSave sealing json pid random nonce inner username password
  | .restart => loadFromDir json

/-- What an update adds to the history when it is accepted. -/
def Update.entry (inner : DarwinStoredConfig) : Update → List (Text × Option Text)
  | .items changes _ _ => [(inner.username, savedPassword changes inner.rememberPassword)]
  | .credentials _ password _ _ => [(inner.username, password)]
  | .restart => []

/-- The record in memory, the directory, and the updates that were accepted. -/
structure UiConfig where
  inner : DarwinStoredConfig
  disk : Disk
  history : History

/-- One update, with the script of its system calls. -/
def UiConfig.step (s : UiConfig) (update : Update × List Outcome) : UiConfig :=
  match update.1.prog sealing json pid s.inner s.disk update.2 with
  | (.ok inner, disk, _) => ⟨inner, disk, update.1.entry inner ++ s.history⟩
  | (.error _, disk, _) => { s with disk }

/-- The ciphertext is that of the last password saved for the account, and the directory holds the record in memory. -/
structure UiConfig.Sound (s : UiConfig) : Prop where
  provenance : Provenance sealing s.inner.username s.inner.password s.history
  stored : ∀ script c, (loadFromDir json s.disk script).1 = .ok c → c = s.inner

namespace AccountPasswordAux

/-- What `load_from_dir` makes of a file that can be read. -/
def document (file : Option Bytes) : Except DarwinConfigError DarwinStoredConfig :=
  match file with
  | none => .ok .default
  | some bytes => match fromUtf8 bytes with
    | some text => .ok (ofText json text)
    | none => .error .storage

variable {sealing json}

/-- Loading takes one call and changes nothing. -/
theorem loadFromDir_run (d : Disk) (script : List Outcome) :
    loadFromDir json d script =
      (if fails script 0 then .error .storage else document json (d.files configFile), d, script.tail) := by
  rw [loadFromDir, bind_run]
  simp only [attempt, readToString_run, document]
  by_cases hfails : fails script 0 = true
  · simp [hfails, stop_run]
  · rcases d.files configFile with _ | bytes
    · simp [hfails]
    · rcases hutf8 : fromUtf8 bytes with _ | text <;> simp [hfails, hutf8]

/-- A directory whose file is the same holds the same record. -/
theorem stored_congr {d' : Disk} (hfile : d'.files configFile = d.files configFile)
    (h : ∀ script c', (loadFromDir json d script).1 = .ok c' → c' = c) (script : List Outcome) (c' : DarwinStoredConfig)
    (hload : (loadFromDir json d' script).1 = .ok c') : c' = c := by
  apply h script c'
  rw [loadFromDir_run] at hload ⊢
  rwa [hfile] at hload

variable {s : UiConfig}

/-- A record that was made of the one in memory, and then saved, takes its place. -/
theorem saved_sound (hs : s.Sound sealing json) (hd : d.files configFile = s.disk.files configFile)
    (saved : DarwinStoredConfig → Option Text) (hchange : Change sealing s.inner c (saved c)) :
    Ends False (do saveToDirAtomically json pid c; pure c) d
      (fun c' d' => (⟨c', d', (c'.username, saved c') :: s.history⟩ : UiConfig).Sound sealing json)
      fun d' => ({ s with disk := d' } : UiConfig).Sound sealing json := by
  refine (atomicWrite_ends pid configFile _ configFile_head).mapError.bind id (fun _ d' h => Ends.pure ?_) fun d' h => ?_
  · refine ⟨hchange.provenance hs.provenance, fun script c' hload => ?_⟩
    rw [loadFromDir_run, h, if_pos rfl] at hload
    simp only [document, fromUtf8_asBytes, c.ofText_toStringPretty] at hload
    split at hload
    · cases hload
    · cases hload
      rfl
  · exact ⟨hs.provenance, stored_congr (h.trans hd) hs.stored⟩

/-- How an update ends, whatever of its calls fails. -/
theorem prog_ends (hs : s.Sound sealing json) (update : Update) : Ends False (update.prog sealing json pid s.inner) s.disk
      (fun c d => (⟨c, d, update.entry c ++ s.history⟩ : UiConfig).Sound sealing json)
      fun d => ({ s with disk := d } : UiConfig).Sound sealing json := by
  have hkept : ∀ d' : Disk, d'.files configFile = s.disk.files configFile →
      ({ s with disk := d' } : UiConfig).Sound sealing json := fun d' h => ⟨hs.provenance, stored_congr h hs.stored⟩
  cases update with
  | items changes random nonce =>
    simp only [Update.prog, Update.entry, applyAndSave]
    rcases hvalidate : ConfigUpdate.validate changes with e | update
    · exact Ends.stop (hkept _ rfl) nofun
    · refine (apply_ends pid random nonce update s.inner).bind id (fun c d h => ?_) hkept
      rw [validate_password hvalidate] at h
      exact saved_sound pid hs h.1 (fun c => savedPassword changes c.rememberPassword) h.2
  | credentials username password random nonce =>
    simp only [Update.prog, Update.entry, applyUiCredentialsAndSave]
    rcases validateUsername username with e | username
    · exact Ends.stop (hkept _ rfl) nofun
    rcases password with _ | plaintext
    · exact saved_sound pid hs rfl (fun _ => none) (withUsername_change s.inner username)
    · refine (sealPassword_ends pid random nonce (s.inner.withUsername username) plaintext).bind id (fun sealed d h => ?_) hkept
      obtain ⟨hd, key, password, hseal, rfl⟩ := h
      exact saved_sound pid hs hd (fun _ => some plaintext) (.renewed hseal rfl)
  | restart =>
    have hread : Reads False (loadFromDir json) s.disk (· = s.inner) :=
      Reads.of_run (fun script => by rw [loadFromDir_run]) hs.stored
    refine hread.weaken id (fun c d h => ?_) fun d h => h ▸ hs
    obtain ⟨rfl, rfl⟩ := h
    exact hs

theorem sound_step (s : UiConfig) (update : Update × List Outcome) (hs : s.Sound sealing json) :
    (s.step sealing json pid update).Sound sealing json := by
  obtain ⟨hok, herr, -⟩ := prog_ends pid hs update.1 update.2
  unfold UiConfig.step
  generalize update.1.prog sealing json pid s.inner s.disk update.2 = result at hok herr
  rcases result with ⟨e | inner, disk, rest⟩
  · exact herr e rfl
  · exact hok inner rfl

/-- What is loaded is what the ciphertext opens to under some key. -/
theorem loadSavedPassword_opens {inner : DarwinStoredConfig} {script : List Outcome} {password : Text}
    (h : (loadSavedPassword sealing inner d script).1 = .ok password) (hne : password ≠ []) :
    inner.password ≠ [] ∧ ∃ key, Config.decryptPassword sealing inner.password key = .ok password := by
  unfold loadSavedPassword at h
  by_cases hnone : inner.rememberPassword = false ∨ inner.password = []
  · rw [if_pos hnone] at h
    cases h
    exact absurd rfl hne
  rw [if_neg hnone] at h
  rw [not_or] at hnone
  obtain ⟨found, d', rest, -, h⟩ := bind_eq_ok h
  rcases found with _ | key
  · cases h
  simp only [DarwinStoredConfig.decryptPassword, if_neg hnone.2] at h
  rcases hopen : Config.decryptPassword sealing inner.password key with e | plaintext
  · rw [hopen] at h
    cases h
  · rw [hopen] at h
    cases h
    exact ⟨hnone.2, key, hopen⟩

end AccountPasswordAux

end ExvVpn.DarwinConfig

namespace ExvVpn.Win32Host

open Syscall Config Win32Config Win32Config.ConfigPersistenceAux ConfigSerialAux ConfigKey Reads Ends

variable (sealing : Sealing) (json : SerdeJson) (pid : UInt32)

/-- The directory of the Windows configuration and the updates that were accepted. -/
structure HostConfig where
  disk : Disk
  history : History

/-- The configuration that the directory holds. -/
def HostConfig.stored (s : HostConfig) : Option ExvConfig := storedConfig json (s.disk.files configFile)

/-- One `config_set`, by its items, what the random generator gives it and the script of its system calls. -/
def HostConfig.step (s : HostConfig) (update : List (Text × Text) × Option Nonce × List Outcome) : HostConfig :=
  match configSetCall sealing json pid update.1 update.2.1 s.disk update.2.2 with
  | (.ok (), disk, _) =>
    match storedConfig json (disk.files configFile) with
    | some cfg => ⟨disk, (cfg.username, savedPassword update.1 cfg.rememberPassword) :: s.history⟩
    | none => { s with disk }
  | (.error _, disk, _) => { s with disk }

/-- The ciphertext in the directory is that of the last password saved for the account. -/
def HostConfig.Sound (s : HostConfig) : Prop :=
  ∀ cfg, s.stored json = some cfg → Provenance sealing cfg.username cfg.password s.history

variable {sealing json} {state : ExvConfig × Option Text} {items : List (Text × Text)} {cfg : ExvConfig}

namespace AccountPasswordAux

theorem ofName_password {name : Text} : ofName name = some .password ↔ name = "password".toList := by
  constructor
  · intro h
    obtain ⟨before, after, hlist, -⟩ := List.lookup_eq_some_iff.mp h
    have hmem : (name, password) ∈ before ++ (name, password) :: after := by simp
    rw [← hlist] at hmem
    simpa using hmem
  · rintro rfl
    rfl

/-- An item leaves the ciphertext alone, and a password is only noted. -/
theorem setItem_password {state' : ExvConfig × Option Text} {item : Text × Text} (h : setItem state item = .ok state') :
    state'.1.password = state.1.password ∧ state'.2 = if item.1 = "password".toList then some item.2 else state.2 := by
  have hother : ∀ {α : Type} {value : Except ConfigStatus α} {set : α → ExvConfig},
      (value >>= fun a => pure (set a, state.2)) = .ok state' → (∀ a, (set a).password = state.1.password) →
        state'.1.password = state.1.password ∧ state'.2 = state.2 := by
    intro α value set hset hkeeps
    rcases value with e | a
    · cases hset
    · cases hset
      exact ⟨hkeeps a, rfl⟩
  by_cases hname : item.1 = "password".toList
  · simp only [setItem, ofName_password.mpr hname] at h
    cases h
    exact ⟨rfl, (if_pos hname).symm⟩
  rw [if_neg hname]
  have hkey : ofName item.1 ≠ some .password := fun hkey => hname (ofName_password.mp hkey)
  dsimp only [setItem] at h
  split at h
  case h_11 heq => exact absurd heq hkey
  case h_12 => cases h
  all_goals first
    | exact hother h fun _ => rfl
    | cases h
      exact ⟨rfl, rfl⟩

theorem foldlM_setItem_ciphertext {state' : ExvConfig × Option Text}
    (h : items.foldlM setItem state = .ok state') : state'.1.password = state.1.password := by
  refine Transition.invariant_of_foldlM (I := fun s => s.1.password = state.1.password) (fun s item t hitem hs => ?_) h rfl
  exact (setItem_password hitem).1.trans hs

theorem foldlM_setItem_password
    (h : items.foldlM setItem (cfg, none) = .ok state) : state.2 = lastItem "password".toList items := by
  have hlast := @foldlM_lastItem _ _ _ _ Prod.snd "password".toList (fun value => .ok (some value))
    (fun _ _ _ hitem hname => by rw [(setItem_password hitem).2, if_pos hname])
    (fun _ _ _ hitem hname => (setItem_password hitem).2.trans (if_neg hname)) _ _ _ h
  generalize lastItem "password".toList items = last at hlast
  rcases last with _ | value
  · exact hlast
  · exact (Except.ok.inj hlast).symm

/-- What `config_set` makes of the account and its ciphertext. -/
theorem settlePassword_change {previous set : ExvConfig} {password : Option Text} {key : Except ConfigError (Option Key)}
    {nonce : Option Nonce} (hkeeps : set.password = previous.password)
    (h : settlePassword sealing previous.username set password key nonce = .ok cfg) :
    PasswordChange sealing previous.username previous.password cfg.username cfg.password
      (if cfg.rememberPassword then password.filter fun value => !value.isEmpty else none) := by
  unfold settlePassword at h
  by_cases hremember : set.rememberPassword = false
  · rw [if_pos (by split <;> exact hremember)] at h
    cases h
    exact .cleared rfl
  rw [if_neg (by split <;> exact hremember)] at h
  generalize hpassword : password.filter (fun value => !value.isEmpty) = new at h ⊢
  rcases new with _ | plaintext
  · cases h
    rw [ite_self]
    by_cases hname : set.username = previous.username
    · rw [if_neg fun hc => hc.1 hname]
      exact .kept hname hkeeps rfl
    · have hempty : password.getD [] = [] := by
        rcases password with _ | _ | ⟨c, rest⟩ <;> first | rfl | cases hpassword
      rw [if_pos ⟨hname, hempty⟩]
      exact .cleared rfl
  · have hplaintext : plaintext.isEmpty = false := by simpa using (Option.filter_eq_some_iff.mp hpassword).2
    rcases key with e | _ | key
    · cases h
    · cases h
    simp only [ExvConfig.setPasswordEncrypted] at h
    rcases hseal : encryptPassword sealing plaintext key nonce with e | ciphertext
    · rw [hseal] at h
      cases h
    rw [hseal] at h
    cases h
    refine .renewed hseal (if_pos ?_)
    rw [hplaintext]
    rfl

variable {d : Disk}

/-- What is loaded is the configuration the directory holds, and loading changes nothing. -/
theorem loadFromDir_reads :
    Reads False (loadFromDir json) d fun cfg => storedConfig json (d.files configFile) = some cfg := by
  refine of_run (fun script => by rw [loadFromDir_run]) fun script cfg h => ?_
  rw [loadFromDir_run] at h
  split at h
  · cases h
  rcases hfile : d.files configFile with _ | bytes
  · rw [hfile] at h
    cases h
    rfl
  rw [hfile, fileConfig, Option.elim] at h
  rcases hutf8 : RustStr.fromUtf8 bytes with _ | text
  · rw [hutf8] at h
    cases h
  rw [hutf8] at h
  cases h
  simp only [storedConfig, loadDocument, readDocument, hutf8]
  rfl

/-- How a `config_set` ends: with a configuration that is made of the stored one. -/
def ConfigWasSet (sealing : Sealing) (json : SerdeJson) (items : List (Text × Text)) (old : Option Bytes) (d : Disk) : Prop :=
  ∃ previous cfg : ExvConfig, storedConfig json old = some previous ∧
    PasswordChange sealing previous.username previous.password cfg.username cfg.password
      (savedPassword items cfg.rememberPassword) ∧
    d.files configFile = some (RustStr.asBytes (cfg.toStringPretty json))

/-- A failed call leaves the file. -/
theorem configSetCall_ends (items : List (Text × Text)) (nonce : Option Nonce) :
    Ends False (configSetCall sealing json pid items nonce) d
      (fun _ d' => ConfigWasSet sealing json items (d.files configFile) d')
      fun d' => d'.files configFile = d.files configFile := by
  refine Reads.bind (Ends.mapError loadFromDir_reads) id rfl fun previous hstored => ?_
  rcases hitems : items.foldlM setItem (previous, none) with e | ⟨set, password⟩
  · exact Ends.stop rfl nofun
  have hkeeps := foldlM_setItem_ciphertext hitems
  obtain rfl : password = _ := foldlM_setItem_password hitems
  have hkey : Reads False loadKey d fun _ => True := Reads.of_run (loadKey_state d) fun _ _ _ => trivial
  have hloaded {Q : Unit → Disk → Prop} {E : Disk → Prop} {f : Except ConfigError (Option Key) → Prog Disk ConfigStatus Unit}
      (needs : Bool) (he : E d) (hf : ∀ key, Ends False (f key) d Q E) :
      Ends False (if needs = true then attempt loadKey >>= f else pure (.ok none) >>= f) d Q E := by
    split
    · exact Reads.bind hkey.attempt id he fun key _ => hf key
    · exact hf _
  refine hloaded _ rfl fun key => ?_
  beta_reduce
  rcases hsettle : settlePassword sealing previous.username set (lastItem "password".toList items) key nonce with e | cfg
  · exact Ends.stop rfl nofun
  · exact (writeConfigJsonAtomically_ends pid (cfg.toStringPretty json)).mapError.weaken id
      (fun _ _ hwritten => ⟨previous, cfg, hstored, settlePassword_change hkeeps hsettle, hwritten⟩) fun _ => id

theorem sound_step (s : HostConfig) (update : List (Text × Text) × Option Nonce × List Outcome)
    (hs : s.Sound sealing json) : (s.step sealing json pid update).Sound sealing json := by
  obtain ⟨items, nonce, script⟩ := update
  obtain ⟨hok, herr, -⟩ := @configSetCall_ends sealing json pid s.disk items nonce script
  simp only [HostConfig.step]
  generalize configSetCall sealing json pid items nonce s.disk script = result at hok herr
  rcases result with ⟨e | _, disk, rest⟩
  · intro cfg hstored
    apply hs cfg
    rwa [HostConfig.stored, ← herr e rfl]
  obtain ⟨previous, cfg, hprevious, hchange, hfile⟩ := hok () rfl
  have hprinted : storedConfig json (disk.files configFile) = some cfg := by
    rw [hfile, storedConfig, (loadDocument_of_reads (printed_reads cfg)).1]
    rfl
  simp only [hprinted]
  intro cfg' hstored
  obtain rfl : cfg = cfg' := Option.some.inj (hprinted.symm.trans hstored)
  exact hchange.provenance (hs previous hprevious)

/-- What is loaded is what the stored ciphertext opens to under some key. -/
theorem loadCredentials_opens {script : List Outcome} {password : Text}
    (h : (loadCredentials sealing json d script).1 = .ok (cfg, password)) :
    storedConfig json (d.files configFile) = some cfg ∧ cfg.password ≠ [] ∧
      ∃ key, Config.decryptPassword sealing cfg.password key = .ok password := by
  obtain ⟨loaded, d', rest, hload, h⟩ := bind_eq_ok h
  have hstored := (Ends.mapError loadFromDir_reads script).1 loaded (congrArg Prod.fst hload)
  obtain ⟨found, d'', rest', -, h⟩ := bind_eq_ok h
  rcases found with e | _ | key
  · cases h
  · cases h
  simp only [ExvConfig.decryptPassword] at h
  by_cases hnone : loaded.password = []
  · simp only [hnone, if_true] at h
    cases h
  simp only [hnone, if_false] at h
  rcases hopen : Config.decryptPassword sealing loaded.password key with e | plaintext
  · rw [hopen] at h
    cases h
  rw [hopen] at h
  simp only [Except.mapError] at h
  split at h
  · cases h
  · cases h
    exact ⟨hstored.2, hnone, key, hopen⟩

end AccountPasswordAux

end ExvVpn.Win32Host

namespace ExvVpn

open Config Transition DarwinConfig.UiConfig DarwinConfig.AccountPasswordAux Win32Host.AccountPasswordAux DarwinConfig

/-- On both hosts, whatever was updated and whatever calls failed, a password that can be loaded is the last one that was
saved for the stored account with no other account since. -/
theorem password_stays_with_account (sealing : Sealing) (hreject : sealing.RejectsWrongKey) (json : SerdeJson) (pid : UInt32) :
    (∀ s : DarwinConfig.UiConfig, s.Sound sealing json → ∀ updates script password,
      let s' := run (step sealing json pid) s updates
      (loadSavedPassword sealing s'.inner s'.disk script).1 = .ok password → password ≠ [] →
        lastSaved s'.inner.username s'.history = some password) ∧
    (∀ s : Win32Host.HostConfig, s.Sound sealing json → ∀ updates script cfg password,
      let s' := run (Win32Host.HostConfig.step sealing json pid) s updates
      (Win32Host.loadCredentials sealing json s'.disk script).1 = .ok (cfg, password) →
        s'.stored json = some cfg ∧ lastSaved cfg.username s'.history = some password) := by
  constructor
  · intro s hs updates script password s' hload hne
    have hsound : s'.Sound sealing json :=
      invariant_of_run (I := DarwinConfig.UiConfig.Sound sealing json) (sound_step pid) hs updates
    obtain ⟨hpassword, key, hopen⟩ := loadSavedPassword_opens hload hne
    exact hsound.provenance.opens hreject hpassword hopen
  · intro s hs updates script cfg password s' hload
    have hsound : s'.Sound sealing json :=
      invariant_of_run (I := Win32Host.HostConfig.Sound sealing json) (sound_step pid) hs updates
    obtain ⟨hstored, hpassword, key, hopen⟩ := loadCredentials_opens hload
    exact ⟨hstored, (hsound cfg hstored).opens hreject hpassword hopen⟩

namespace AccountPasswordAux

open Win32Config Win32Config.ConfigPersistenceAux Win32Host

/-- The macOS configuration of a new user. -/
def newUser : DarwinConfig.UiConfig := ⟨.default, Disk.empty, []⟩

/-- The Windows configuration of a new user, with a key. -/
def newHost : HostConfig := ⟨keyDisk, []⟩

/-- Credentials are saved, and then another account is set without a password and the first one again with one. -/
def accounts : List (DarwinConfig.Update × List Syscall.Outcome) :=
  [(.credentials "alice".toList (some "first".toList) sampleKey (some sampleNonce), []),
    (.items [("username".toList, "bob".toList)] sampleKey (some sampleNonce), []),
    (.items [("username".toList, "alice".toList), ("password".toList, "second".toList)] sampleKey (some sampleNonce), [])]

/-- Credentials that are saved on Windows. -/
def hostUpdate : List (Text × Text) × Option Nonce × List Syscall.Outcome :=
  ([("username".toList, "alice".toList), ("remember_password".toList, "true".toList), ("password".toList, "first".toList)],
    some sampleNonce, [])

def hostConfig : ExvConfig :=
  ((configSet carriedKey hostUpdate.1 (.ok (some storedKey)) hostUpdate.2.1 .default).toOption).getD .default

/-- The credentials are saved under the key that is there. -/
theorem hostUpdate_saved (json : SerdeJson) :
    ∃ d, configSetCall carriedKey json 7 hostUpdate.1 hostUpdate.2.1 keyDisk [] = (.ok (), d, []) ∧
      d.files configFile = some (RustStr.asBytes (hostConfig.toStringPretty json)) ∧ d.files keyFile = some storedKey.val :=
  ⟨_, rfl, rfl, rfl⟩

/-- The credentials are loaded again. -/
theorem hostUpdate_loads (json : SerdeJson) :
    (loadCredentials carriedKey json (run (HostConfig.step carriedKey json 7) newHost [hostUpdate]).disk []).1 =
      .ok (hostConfig, "first".toList) := by
  obtain ⟨d, hcall, hfile, hkey⟩ := hostUpdate_saved json
  have hstep : (run (HostConfig.step carriedKey json 7) newHost [hostUpdate]).disk = d := by
    rw [run_cons, run_nil]
    simp only [HostConfig.step, newHost, show hostUpdate.2.2 = [] from rfl, hcall]
    split <;> rfl
  have hload : Win32Config.loadFromDir json d [] = (.ok hostConfig, d, []) := by
    rw [Win32Config.ConfigPersistenceAux.loadFromDir_run, hfile, fileConfig_printed]
    rfl
  have hopen : Win32Config.loadKey d [] = (.ok (some storedKey), d, []) := by
    rw [Win32Config.loadKey, Syscall.bind_run]
    simp [Syscall.attempt, readFile_run, hkey, storedKey.property]
  have hread : hostConfig.decryptPassword carriedKey storedKey = .ok "first".toList := by decide +kernel
  generalize hostConfig = cfg at hload hread ⊢
  rw [hstep, loadCredentials]
  simp [Syscall.bind_run, Syscall.mapError, Syscall.attempt, Except.mapError, hload, hopen, hread]

theorem newUser_sound : newUser.Sound carriedKey prettyJson := by
  refine ⟨.inl rfl, fun script c hload => ?_⟩
  rw [DarwinConfig.AccountPasswordAux.loadFromDir_run] at hload
  split at hload
  · cases hload
  · exact (Except.ok.inj hload).symm

theorem newHost_sound : newHost.Sound carriedKey prettyJson := by
  intro cfg hstored
  cases hstored
  exact .inl rfl

end AccountPasswordAux

open AccountPasswordAux Win32Host

/-- On macOS a password that was saved again after another account is the one that is loaded, and on Windows the one that was
saved. -/
theorem password_stays_with_account_again :
    let user := run (step carriedKey prettyJson 7) newUser accounts
    let host := run (HostConfig.step carriedKey prettyJson 7) newHost [hostUpdate]
    (loadSavedPassword carriedKey user.inner user.disk []).1 = .ok "second".toList ∧
      lastSaved user.inner.username user.history = some "second".toList ∧
      (loadCredentials carriedKey prettyJson host.disk []).1 = .ok (hostConfig, "first".toList) ∧
      lastSaved hostConfig.username host.history = some "first".toList := by
  intro user
  have h := password_stays_with_account carriedKey carriedKey_rejectsWrongKey prettyJson 7
  have huser : (loadSavedPassword carriedKey user.inner user.disk []).1 = .ok "second".toList := rfl
  have hhost := hostUpdate_loads prettyJson
  exact ⟨huser, h.1 newUser newUser_sound accounts [] _ huser (by decide), hhost,
    (h.2 newHost newHost_sound [hostUpdate] [] _ _ hhost).2⟩

end ExvVpn
