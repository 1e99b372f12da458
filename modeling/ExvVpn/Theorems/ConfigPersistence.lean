import ExvVpn.Win32Config.Config

/-!
# What a failed save leaves of the Windows configuration

A save that is cut short leaves `config.json` as the old or as the new document, and a saved configuration reads back as it
was. The key file has no such protection: a key that cannot be read at the moment is overwritten.
-/

namespace ExvVpn.Win32Config

open Syscall Config RustStr ExvConfig

variable {d : Disk} {script : List Outcome} {c : ExvConfig}

namespace ConfigPersistenceAux

variable {d : Disk}

/-- Making a temporary file leaves `config.json` alone, and its name is another one. -/
theorem createTemporaryConfigFile_ends (pid : UInt32) (tries : Nat) :
    Ends False (createTemporaryConfigFile pid tries) d
      (fun temporary d' => d'.files configFile = d.files configFile ∧ configFile ≠ temporary)
      fun d' => d'.files configFile = d.files configFile := by
  induction tries generalizing d with
  | zero => exact Ends.stop rfl nofun
  | succ tries ih =>
    refine nextTemporary_ends.bind id (fun id d₁ hnext => ?_) fun _ h => by rw [h]
    have hne : configFile ≠ temporaryName configFile pid id := temporaryName_ne (by decide) pid id
    refine (createNew_ends hne).attempt_bind fun r d₂ hok herr => ?_
    rw [hnext] at hok herr
    rcases r with e | _
    · have hsame := herr e rfl
      cases e with
      | alreadyExists => exact ih.weaken (fun h => h) (fun _ _ h => ⟨h.1.trans hsame, h.2⟩) fun _ h => h.trans hsame
      | _ => exact Ends.stop hsame nofun
    · exact Ends.pure ⟨hok _ rfl, hne⟩

/-- Filling the temporary file and renaming it: the rename is the only step that touches `config.json`, and it comes when the
temporary file is complete. -/
theorem fill_ends (text : Text) {temporary : Text} (hne : configFile ≠ temporary) :
    Ends False (do io (writeAll temporary (asBytes text)); io syncAll; io (rename temporary configFile)) d
      (fun _ d' => d'.files configFile = some (asBytes text)) fun d' => d'.files configFile = d.files configFile := by
  refine (writeAll_ends _ hne).mapError.bind id (fun _ d₁ hwrite => ?_) fun _ => id
  refine Ends.bind syncAll_reads.mapError id (fun _ d₂ hsync => ?_) fun _ h => h ▸ hwrite.1
  obtain ⟨rfl, -⟩ := hsync
  refine (rename_ends temporary configFile hne).mapError.weaken id (fun _ _ h => ?_) fun _ h => h ▸ hwrite.1
  rw [h, if_pos rfl, hwrite.2]

/-- A write leaves the new document, or the old one when it fails. -/
theorem writeConfigJsonAtomically_ends (pid : UInt32) (text : Text) :
    Ends False (writeConfigJsonAtomically pid text) d
      (fun _ d' => d'.files configFile = some (asBytes text)) fun d' => d'.files configFile = d.files configFile := by
  refine Ends.bind createDirAll_reads.mapError id (fun _ d₁ hdir => ?_) fun _ h => by rw [h]
  obtain ⟨rfl, -⟩ := hdir
  refine (createTemporaryConfigFile_ends pid 32).bind id (fun temporary d₂ htemporary => ?_) fun _ => id
  refine (fill_ends text htemporary.2).attempt_bind fun r d₃ hfilled hfailed => ?_
  rcases r with e | _
  · have hsame := (hfailed e rfl).trans htemporary.1
    refine (removeFile_ends htemporary.2).attempt_bind fun removed d₄ hok herr => Ends.stop ?_ nofun
    rcases removed with e | _
    · exact (herr e rfl).trans hsame
    · exact (hok _ rfl).trans hsame
  · exact Ends.pure (hfilled _ rfl)

/-- What a load makes of the file. -/
def fileConfig (json : SerdeJson) (file : Option Bytes) : Except ConfigError ExvConfig :=
  file.elim (.ok .default) fun bytes =>
    (fromUtf8 bytes).elim (.error (.io .invalidData)) fun text => .ok (ofText json text)

/-- Loading takes one call and changes nothing. -/
theorem loadFromDir_run (json : SerdeJson) (d : Disk) (script : List Outcome) :
    loadFromDir json d script =
      (if fails script 0 then .error (.io .other) else fileConfig json (d.files configFile), d, script.tail) := by
  rw [loadFromDir, bind_run]
  simp only [attempt, readToString_run, fileConfig]
  by_cases hfails : fails script 0 = true
  · simp [hfails, stop_run]
  · rcases d.files configFile with _ | bytes
    · simp [hfails]
    · rcases hutf8 : fromUtf8 bytes with _ | text <;> simp [hfails, hutf8]

theorem fileConfig_printed (json : SerdeJson) (c : ExvConfig) :
    fileConfig json (some (asBytes (c.toStringPretty json))) = .ok c := by
  simp [fileConfig, fromUtf8_asBytes, ofText, c.fromStr_toStringPretty]

end ConfigPersistenceAux

open ConfigPersistenceAux

variable (key random : Key) (d : Disk) (script : List Outcome)

/-- The key file can be read and holds a key. -/
def Readable : Prop :=
  fails script 0 = false ∧ ∃ bytes, d.files keyFile = some bytes ∧ bytes.length = keyLen

/-- A new key reaches the key file: it is generated, the directory is there and the file is opened for writing. -/
def Opened : Prop := fails script 1 = false ∧ fails script 2 = false ∧ fails script 3 = false

namespace ConfigPersistenceAux

/-- Loading the key takes one call and changes nothing. -/
theorem loadKey_state : (loadKey d script).2 = (d, script.tail) := by
  rw [loadKey, bind_run]
  simp only [attempt, readFile_run]
  split
  · rfl
  rcases d.files keyFile with _ | bytes
  · rfl
  · dsimp only [Option.elim]
    split <;> rfl

/-- A key is loaded exactly from a key file that can be read and holds one. -/
theorem loadKey_eq_some : (∃ key, (loadKey d script).1 = .ok (some key)) ↔ Readable d script := by
  rw [loadKey, bind_run]
  simp only [attempt, readFile_run, Readable]
  by_cases hfails : fails script 0 = true
  · simp [hfails]
  · rcases d.files keyFile with _ | bytes
    · simp [hfails]
    · by_cases hlen : bytes.length = keyLen <;> simp [hfails, hlen]

/-- Saving a key replaces the file once it is opened, whatever is then written of the key. -/
theorem saveKey_replaced : (saveKey key d script).2.1.replaced keyFile =
      if fails script 0 = false ∧ fails script 1 = false then d.replaced keyFile + 1 else d.replaced keyFile := by
  simp only [saveKey, io, writeFile, createFile, writeAll, createDirAll, bind_run, mapError, call_run]
  by_cases hdir : fails script 0 = true
  · simp [hdir, Except.mapError]
  by_cases hopen : fails script 1 = true
  · simp [hdir, hopen, Except.mapError]
  · by_cases hwrite : fails script 2 = true
    · simp [hdir, hopen, hwrite, Except.mapError, Disk.replace, Disk.put]
    · simp [hdir, hopen, hwrite, Except.mapError, Disk.replace, Disk.put]

/-- Making a new key replaces the file once the key is generated and the file is opened. -/
theorem newKey_replaced :
    ((do let key ← generateKey random; saveKey key; pure key : Prog Disk ConfigError Key) d script.tail).2.1.replaced keyFile ≠
      d.replaced keyFile ↔ Opened script := by
  rw [bind_run, generateKey, call_run]
  by_cases hrandom : fails script 1 = true
  · simp [hrandom, Opened]
  simp only [fails_tail, hrandom, if_false, Bool.false_eq_true, bind_pure_snd, saveKey_replaced, Opened]
  by_cases hopened : fails script 2 = false ∧ fails script 3 = false
  · rw [if_pos hopened]
    exact iff_of_true (Nat.succ_ne_self _) ⟨trivial, hopened⟩
  · rw [if_neg hopened]
    exact iff_of_false (fun h => h rfl) (fun h => hopened h.2)

/-- The key file is replaced exactly when no key was loaded from it and a new one reaches it. -/
theorem ensureKey_replaced :
    (ensureKey random d script).2.1.replaced keyFile ≠ d.replaced keyFile ↔ ¬Readable d script ∧ Opened script := by
  have hstate := loadKey_state d script
  have hkey := loadKey_eq_some d script
  have hnew := newKey_replaced random d script
  rw [ensureKey, bind_run]
  simp only [attempt]
  rcases hload : loadKey d script with ⟨r, rest⟩
  rw [hload] at hstate hkey
  obtain rfl : rest = (d, script.tail) := hstate
  -- Only a loaded key ends here; a missing file, a failed read and a wrong length all go on to a new key.
  rcases r with e | _ | key
  · have hunreadable : ¬Readable d script := fun h => by simpa using hkey.mpr h
    exact hnew.trans (and_iff_right hunreadable).symm
  · have hunreadable : ¬Readable d script := fun h => by simpa using hkey.mpr h
    exact hnew.trans (and_iff_right hunreadable).symm
  · have hreadable : Readable d script := hkey.mp ⟨key, rfl⟩
    exact iff_of_false (fun h => h rfl) (fun h => h.1 hreadable)

end ConfigPersistenceAux

/-- What a configuration directory is trusted with, whatever of the calls on it fails: a write leaves a complete document, a
saved configuration is loaded as it was saved and its password opens, and a key file is replaced only when it was read and is
no key. -/
structure Persists (json : SerdeJson) (sealing : Sealing) (pid : UInt32) (random : Key) (d : Disk) (script : List Outcome) :
    Prop where
  complete : ∀ text, ((writeConfigJsonAtomically pid text d script).2.1.files configFile = d.files configFile ∨
    (writeConfigJsonAtomically pid text d script).2.1.files configFile = some (asBytes text))
  reloads : ∀ c, (saveToDir json pid c d script).1 = .ok () → ∀ script', fails script' 0 = false →
    (loadFromDir json (saveToDir json pid c d script).2.1 script').1 = .ok c
  opens : ∀ (c : ExvConfig) plaintext key nonce c', c.setPasswordEncrypted sealing plaintext key nonce = .ok c' →
    (saveToDir json pid c' d script).1 = .ok () → ∀ script' loaded,
      (loadFromDir json (saveToDir json pid c' d script).2.1 script').1 = .ok loaded →
        loaded.decryptPassword sealing key = .ok plaintext
  keyKept : ∀ old, d.files keyFile = some old → (ensureKey random d script).2.1.replaced keyFile ≠ d.replaced keyFile →
    fails script 0 = false ∧ old.length ≠ keyLen

namespace ConfigPersistenceAux

/-- A save that went through left the printed configuration, and it is what a load gives. -/
theorem loadFromDir_saved {json : SerdeJson} {pid : UInt32} {c : ExvConfig} {d : Disk} {script : List Outcome}
    (h : (saveToDir json pid c d script).1 = .ok ()) (script' : List Outcome) :
    (loadFromDir json (saveToDir json pid c d script).2.1 script').1 =
      if fails script' 0 then .error (.io .other) else .ok c := by
  have hfile := (writeConfigJsonAtomically_ends pid (c.toStringPretty json) script).1 () h
  rw [loadFromDir_run, saveToDir, hfile, fileConfig_printed]

end ConfigPersistenceAux

/-- The directory keeps what it is trusted with unless a key file that is there cannot be read and a new key is then written
in its place. -/
theorem persists_iff (json : SerdeJson) (sealing : Sealing) (pid : UInt32) (random : Key) (d : Disk) (script : List Outcome) :
    Persists json sealing pid random d script ↔ ¬((d.files keyFile).isSome ∧ fails script 0 = true ∧ Opened script) := by
  constructor
  · rintro h ⟨hthere, hread, hopened⟩
    obtain ⟨old, hold⟩ := Option.isSome_iff_exists.mp hthere
    have hreplaced := (ensureKey_replaced random d script).mpr ⟨fun hr => by simp [hr.1] at hread, hopened⟩
    have hkept := (h.keyKept old hold hreplaced).1
    rw [hread] at hkept
    cases hkept
  · intro h
    refine ⟨fun text => ?_, fun c hsave script' hread => ?_, fun c plaintext key nonce c' hset hsave script' loaded hload => ?_,
      fun old hold hreplaced => ?_⟩
    · have hwritten := @writeConfigJsonAtomically_ends d pid text script
      rcases hr : (writeConfigJsonAtomically pid text d script).1 with e | _
      · exact .inl (hwritten.2.1 e hr)
      · exact .inr (hwritten.1 () hr)
    · rw [loadFromDir_saved hsave, hread]
      rfl
    · rw [loadFromDir_saved hsave] at hload
      split at hload
      · cases hload
      · cases hload
        unfold ExvConfig.setPasswordEncrypted at hset
        split at hset
        · cases hset
        rename_i hseal
        cases hset
        rw [ExvConfig.decryptPassword, if_neg (encryptPassword_ne_nil sealing hseal),
          decryptPassword_encryptPassword sealing hseal]
        rfl
    · obtain ⟨hunreadable, hopened⟩ := (ensureKey_replaced random d script).mp hreplaced
      have hread : fails script 0 = false := by
        by_contra hfails
        exact h ⟨by rw [hold]; rfl, by simpa using hfails, hopened⟩
      exact ⟨hread, fun hlen => hunreadable ⟨hread, old, hold, hlen⟩⟩

namespace ConfigPersistenceAux

/-- The key a directory holds. -/
def storedKey : Key := ⟨List.replicate 32 1, rfl⟩

/-- The key the random generator gives. -/
def randomKey : Key := ⟨List.replicate 32 2, rfl⟩

/-- A directory with a key file. -/
def keyDisk : Disk where
  files := fun name => if name = keyFile then some storedKey.val else none
  nextTemporaryId := 0
  replaced := fun _ => 0

end ConfigPersistenceAux

/-- One failed read of a sound key file, and another key stands in its place. -/
theorem unread_key_overwritten :
    keyDisk.files keyFile = some storedKey.val ∧ storedKey.val.length = keyLen ∧
      (ensureKey randomKey keyDisk [.failed 0]).1 = .ok randomKey ∧
      (ensureKey randomKey keyDisk [.failed 0]).2.1.files keyFile = some randomKey.val ∧
      (ensureKey randomKey keyDisk [.failed 0]).2.1.replaced keyFile ≠ keyDisk.replaced keyFile := by
  refine ⟨rfl, rfl, rfl, ?_, ?_⟩ <;> decide

end ExvVpn.Win32Config
