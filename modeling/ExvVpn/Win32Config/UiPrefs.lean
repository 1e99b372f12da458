import ExvVpn.Basic
import ExvVpn.Tools.Writes

/-!
# The preferences of the Windows frontend

`ui_prefs.rs`. The file is kept as a raw object, so that unknown keys survive, and read through a typed view that falls back to the
defaults as a whole: one known key of another type hides the values of all others. A file stands for what `serde_json` reads of it.
-/

namespace ExvVpn.UiPrefs

open List Writes Option

inductive PrefKey
  | closePreference
  | minimizeToTrayOnConnect
  | launchAtLogin
  | silentStartup
  | connectionStateNotifications
  | autoConnectOnLaunch
  | showLatency
deriving DecidableEq

inductive PrefValue
  | null
  | bool (b : Bool)
  | string (t : Text)
  /-- A number, an array or an object. -/
  | other (printed : Text)
deriving DecidableEq

def closePreferenceValues : List Text := ["smart".toList, "tray".toList, "quit".toList]

namespace PrefKey

def all : List PrefKey :=
  [closePreference, minimizeToTrayOnConnect, launchAtLogin, silentStartup, connectionStateNotifications, autoConnectOnLaunch,
    showLatency]

def name : PrefKey → Text
  | closePreference => "close_preference".toList
  | minimizeToTrayOnConnect => "minimize_to_tray_on_connect".toList
  | launchAtLogin => "launch_at_login".toList
  | silentStartup => "silent_startup".toList
  | connectionStateNotifications => "connection_state_notifications".toList
  | autoConnectOnLaunch => "auto_connect_on_launch".toList
  | showLatency => "show_latency".toList

variable (key : PrefKey)

/-- The value is of the type of the field. -/
def accepts : PrefValue → Bool
  | .string _ => key = closePreference
  | .bool _ => key ≠ closePreference
  | _ => false

def valid (value : PrefValue) : Bool := key ≠ closePreference || closePreferenceValues.any fun t => value = .string t

def default : PrefValue := if key = closePreference then .string "smart".toList else .bool false

end PrefKey

/-- A field that is not set is left out when the preferences are written. -/
structure UiPreferences where
  field : PrefKey → Option PrefValue
  typed : ∀ key value, field key = some value → key.accepts value = true

def UiPreferences.effective (prefs : UiPreferences) (key : PrefKey) : PrefValue :=
  ((prefs.field key).filter key.valid).getD key.default

/-- `serde_json::Map`. -/
abbrev RawMap := Text → Option PrefValue

/-- What a file reads as. -/
inductive Content
  | object (map : RawMap)
  | malformed

/-- The preferences, and the `action` of the file of the earlier version. -/
structure PrefsDir where
  file : Option Content
  legacy : Option Text

/-- How the calls of `store_atomic` end: nothing reached the file, it was replaced by a rename or a copy, or a copy failed and left
something else. -/
inductive StoreIo
  | unwritten
  | replaced
  | torn (left : Option Content)

def storeAtomic (dir : PrefsDir) (map : RawMap) : StoreIo → Bool × PrefsDir
  | .unwritten => (false, dir)
  | .replaced => (true, { dir with file := some (.object map) })
  | .torn left => (false, { dir with file := left })

def loadRawObject : Option Content → RawMap
  | some (.object map) => map
  | _ => fun _ => none

/-- The known keys are missing, null or of their types. -/
def deserializes (map : RawMap) : Bool :=
  PrefKey.all.all fun key => (map key.name).all fun value => value = .null || key.accepts value

/-- `null` and a missing key are `None`; one field that cannot be read makes all of them `None`. -/
def typedView (map : RawMap) : UiPreferences where
  field key := if deserializes map then (map key.name).filter key.accepts else none
  typed key value h := by
    split at h
    · exact (filter_eq_some_iff.mp h).2
    · cases h

def importLegacyClosePreference (dir : PrefsDir) (map : RawMap) : Option RawMap :=
  if dir.file.isSome then none
  else (dir.legacy.filter closePreferenceValues.contains).map fun action =>
    Function.update map PrefKey.closePreference.name (some (.string action))

/-- `UiPrefsStore::get`. -/
def get (io : StoreIo) (dir : PrefsDir) : (PrefKey → PrefValue) × PrefsDir :=
  match importLegacyClosePreference dir (loadRawObject dir.file) with
  | some map => ((typedView map).effective, (storeAtomic dir map io).2)
  | none => ((typedView (loadRawObject dir.file)).effective, dir)

/-- The keys that a patch is serialized to. -/
def UiPreferences.entries (patch : UiPreferences) : List (Text × Option PrefValue) :=
  PrefKey.all.filterMap fun key => (patch.field key).map fun value => (key.name, some value)

/-- `UiPrefsStore::set`. -/
def set (io : StoreIo) (dir : PrefsDir) (patch : UiPreferences) : Option (PrefKey → PrefValue) × PrefsDir :=
  let map := apply (loadRawObject dir.file) patch.entries
  match storeAtomic dir map io with
  | (true, dir) => (some (typedView map).effective, dir)
  | (false, dir) => (none, dir)

end ExvVpn.UiPrefs
