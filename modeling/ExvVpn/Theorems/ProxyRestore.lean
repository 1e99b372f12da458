import ExvVpn.Lemmas.SystemProxy

/-!
# What a restore gives back

A capture turns the bytes of a value into a text or a number, a restore turns these back. The bytes are the same for values of
every other type, for numbers of four bytes, and for texts that are well-formed UTF-16 with one NUL, at their end.
-/

namespace ExvVpn.SystemProxy

open RustStr Option LittleEndian RegData

/-- Data that a capture and a restore give back as they are. -/
def RegData.Exact (d : RegData) : Prop :=
  if d.type = regSz then
    ∃ units, d.data = ofUnits (units ++ [0]) ∧ 0 ∉ units ∧ (fromUtf16 units).isSome
  else if d.type = regDword then d.data.length = 4
  else True

namespace ProxyRestoreAux

/-! ## One value -/

/-- Data of the two known types are not captured as data of another type. -/
theorem storable_other_iff {type : UInt32} {data : Bytes} :
    RawValue.Storable (.other type data) ↔ type ≠ regSz ∧ type ≠ regDword := by
  constructor
  · intro h
    simp only [RawValue.Storable, storedValue, queryValue] at h
    constructor
    · intro hsz
      split at h <;> cases h
    · intro hdword
      have hne : regDword ≠ regSz := by decide
      simp only [hdword, if_neg hne, if_true] at h
      split at h
      · cases h
      · split at h <;> cases h
  · rintro ⟨hsz, hdword⟩
    exact storable_other hsz hdword data

/-- A text is stored as the data of a text that are exact. -/
theorem exact_sz_iff {data : Bytes} :
    RegData.Exact ⟨regSz, data⟩ ↔ ∃ text, '\x00' ∉ text ∧ storedValue (.sz text) = some ⟨regSz, data⟩ := by
  simp only [RegData.Exact, if_true, storedValue, some.injEq, mk.injEq, true_and]
  constructor
  · rintro ⟨units, hdata, hzero, hdecoded⟩
    obtain ⟨text, htext⟩ := isSome_iff_exists.mp hdecoded
    exact ⟨text, nul_notMem_fromUtf16 htext hzero, by rw [fromUtf16_eq_some.mp htext, hdata]⟩
  · rintro ⟨text, hnul, hdata⟩
    exact ⟨encodeUtf16 text, hdata.symm, zero_notMem_encodeUtf16 hnul, by simp [fromUtf16_encodeUtf16]⟩

/-- A number is stored as four bytes, and any four bytes are a number. -/
theorem exact_dword_iff {data : Bytes} :
    RegData.Exact ⟨regDword, data⟩ ↔ ∃ value, storedValue (.dword value) = some ⟨regDword, data⟩ := by
  have hne : regDword ≠ regSz := by decide
  simp only [RegData.Exact, if_neg hne, if_true, storedValue, some.injEq, mk.injEq, true_and]
  constructor
  · intro hlength
    have hlt := ofBytes_lt data
    have hbytes := toBytes_ofBytes data
    rw [hlength] at hlt hbytes
    refine ⟨UInt32.ofNat (ofBytes data), ?_⟩
    rw [UInt32.toNat_ofNat_of_lt' hlt, hbytes]
  · rintro ⟨value, hdata⟩
    rw [← hdata, toBytes_length]

/-- What is stored is captured and stored again as it is exactly if it is exact. -/
theorem query_stored_iff (d : Option RegData) :
    (∃ value, queryValue d = .ok value ∧ storedValue value = d) ↔ ∀ data, d = some data → data.Exact := by
  constructor
  · intro ⟨value, hquery, hstored⟩ data hdata
    have hstorable : value.Storable := by rw [RawValue.Storable, hstored, hquery]
    obtain ⟨type, bytes⟩ := data
    rw [hdata] at hstored
    cases value with
    | absent => cases hstored
    | dword number =>
      obtain rfl : regDword = type := congrArg RegData.type (some.inj hstored)
      exact exact_dword_iff.mpr ⟨number, hstored⟩
    | sz text =>
      obtain rfl : regSz = type := congrArg RegData.type (some.inj hstored)
      exact exact_sz_iff.mpr ⟨text, nulFree_of_queryValue hstorable, hstored⟩
    | other type' bytes' =>
      obtain rfl : type' = type := congrArg RegData.type (some.inj hstored)
      obtain ⟨hsz, hdword⟩ := storable_other_iff.mp hstorable
      simp [RegData.Exact, hsz, hdword]
  · intro hexact
    -- a storable value that is stored as the data is what is captured from them
    suffices ∃ value : RawValue, value.Storable ∧ storedValue value = d by
      obtain ⟨value, hstorable, hstored⟩ := this
      exact ⟨value, hstored ▸ hstorable, hstored⟩
    rcases d with - | ⟨type, bytes⟩
    · exact ⟨.absent, rfl, rfl⟩
    have hdata := hexact _ rfl
    by_cases hsz : type = regSz
    · subst hsz
      obtain ⟨text, hnul, hstored⟩ := exact_sz_iff.mp hdata
      exact ⟨.sz text, storable_sz hnul, hstored⟩
    by_cases hdword : type = regDword
    · subst hdword
      obtain ⟨number, hstored⟩ := exact_dword_iff.mp hdata
      exact ⟨.dword number, storable_dword number, hstored⟩
    exact ⟨.other type bytes, storable_other hsz hdword bytes, rfl⟩

/-! ## The five values -/

/-- A restore that meets no failure stores every value. -/
theorem restored_eq (raw : RawInternetSettings) (later : SettingsKey) :
    (executeRestoreOps none raw.fields later).key = fun name => storedValue (raw.get name) := by
  have hkey (fields : List (ValueName × RawValue)) (key : SettingsKey) :
      (executeRestoreOps none fields key).key = fields.foldl (fun key field => storeValue key field.1 field.2) key := by
    induction fields generalizing key with
    | nil => rfl
    | cons field fields ih => exact ih _
  rw [hkey]
  funext name
  cases name <;> simp [RawInternetSettings.fields, RawInternetSettings.get, storeValue, Function.update]

end ProxyRestoreAux

open ProxyRestoreAux

/-! ## Every key -/

/-- The settings of a user are captured and then restored, over whatever the key holds by then, with the type and the bytes of
each value as they were, exactly if the data of each value are exact. Of settings that are captured, each value is restored
as it was exactly if its own data are. -/
theorem restore_byte_exact_iff (key : SettingsKey) :
    ((∃ raw, queryValues key = .ok raw ∧ ∀ later, (executeRestoreOps none raw.fields later).key = key) ↔
      ∀ name data, key name = some data → data.Exact) ∧
    ∀ raw, queryValues key = .ok raw → ∀ later name,
      ((executeRestoreOps none raw.fields later).key name = key name ↔ ∀ data, key name = some data → data.Exact) := by
  constructor
  · constructor
    · intro ⟨raw, hraw, hrestored⟩ name
      have hkey := congrFun (hrestored key) name
      rw [restored_eq] at hkey
      exact (query_stored_iff (key name)).mp ⟨raw.get name, queryValues_eq_ok.mp hraw name, hkey⟩
    · intro hexact
      choose value hquery hstored using fun name => (query_stored_iff (key name)).mpr (hexact name)
      refine ⟨⟨value .proxyEnable, value .proxyServer, value .proxyOverride, value .autoConfigUrl, value .autoDetect⟩, ?_, ?_⟩
      · rw [queryValues_eq_ok]
        intro name
        cases name <;> exact hquery _
      · intro later
        rw [restored_eq]
        funext name
        cases name <;> exact hstored _
  · intro raw hraw later name
    have hquery := queryValues_eq_ok.mp hraw name
    rw [restored_eq, ← query_stored_iff]
    constructor
    · intro hstored
      exact ⟨raw.get name, hquery, hstored⟩
    · intro ⟨value, hvalue, hstored⟩
      obtain rfl : value = raw.get name := Except.ok.inj (hvalue.symm.trans hquery)
      exact hstored

namespace ProxyRestoreAux

def userSid : Text := "S-1-5".toList

/-- A manual proxy with a bypass text that has a NUL in the middle and none at its end, a PAC address that is half of a
surrogate pair, and an empty number. -/
def unusualKey : SettingsKey
  | .proxyEnable => some ⟨regDword, [1, 0, 0, 0]⟩
  | .proxyServer => some ⟨regSz, [0x68, 0, 0x3A, 0, 0x31, 0, 0, 0]⟩
  | .proxyOverride => some ⟨regSz, [0x61, 0, 0, 0, 0x62, 0]⟩
  | .autoConfigUrl => some ⟨regSz, [0x00, 0xD8]⟩
  | .autoDetect => some ⟨regDword, []⟩

/-- The bypass entry of the campus is written and taken back again. -/
def undone : Except NativeError (Option SystemProxyRestoreOutcome × SettingsKey) := do
  let prestate ← captureForUser userSid unusualKey
  let plan ← planFromPrestate userSid ["10.*".toList] prestate none
  return restoreSystemProxyStep .good (commitSystemProxyApply .ok unusualKey plan).2 plan.step

end ProxyRestoreAux

/-- All five values are reported as written back, and three of them have other bytes than before. -/
theorem restored_other_bytes :
    undone.map (fun r => (r.1, r.2 .proxyOverride, r.2 .autoConfigUrl, r.2 .autoDetect)) =
      .ok (some (.restored 5 0), some ⟨regSz, [0x61, 0, 0, 0]⟩, some ⟨regSz, [0, 0]⟩, some ⟨regDword, [0, 0, 0, 0]⟩) := by
  decide +kernel

end ExvVpn.SystemProxy
