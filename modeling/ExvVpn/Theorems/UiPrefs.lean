import ExvVpn.Win32Config.UiPrefs

/-!
# Patches of the preferences

What a patch of the preferences does to the file and to what is read from it, and when it is seen.
-/

namespace ExvVpn.UiPrefs

open List Writes Option

namespace UiPrefsAux

variable {map : RawMap} (patch : UiPreferences)

end UiPrefsAux

open UiPrefsAux

end ExvVpn.UiPrefs
