import ExvVpn.SystemProxy.FamilyExec
import ExvVpn.Tools.Ipv4

/-! # Facts about the system proxy family -/

namespace ExvVpn.SystemProxy

open RustStr List Function Option LittleEndian SystemProxyFamilyStep WildcardEntry RawInternetSettings ValueName

/-! ## Reading back what is written -/

/-- The registry gives the value back as it was written. -/
def RawValue.Storable (v : RawValue) : Prop := queryValue (storedValue v) = .ok v

theorem storable_dword (value : UInt32) : RawValue.Storable (.dword value) := by
  have hlen : (toBytes 4 value.toNat).length = 4 := toBytes_length 4 _
  have hne : (toBytes 4 value.toNat).isEmpty = false := by
    rw [isEmpty_eq_false_iff_exists_mem]
    exact exists_mem_of_length_pos (by omega)
  have hvalue : ofBytes ((toBytes 4 value.toNat).take 4) = value.toNat := by
    rw [take_of_length_le (by omega), ofBytes_toBytes_of_lt value.toNat_lt]
  simp only [RawValue.Storable, storedValue, queryValue, hne, hlen, hvalue, regSz, regDword]
  simp

variable {text : Text}

/-- A text is storable when it has no NUL. -/
theorem storable_sz (h : '\x00' ∉ text) : RawValue.Storable (.sz text) := by
  have hz := zero_notMem_encodeUtf16 h
  have hunits : ((toUnits (ofUnits (encodeUtf16 text ++ [0]))).takeWhile (· ≠ 0)) =
      encodeUtf16 text := by
    rw [toUnits_ofUnits, takeWhile_append_of_pos]
    · simp
    · intro u hu
      simp only [decide_eq_true_eq]
      rintro rfl
      exact hz hu
  have hne : (ofUnits (encodeUtf16 text ++ [0])).isEmpty = false := by
    rw [isEmpty_eq_false_iff_exists_mem]
    refine exists_mem_of_length_pos ?_
    rw [ofUnits_length, length_append, length_singleton]
    omega
  simp only [RawValue.Storable, storedValue, queryValue, hne, hunits, fromUtf16_encodeUtf16]
  simp

/-- Data of another type are stored as they are. -/
theorem storable_other {type : UInt32} (hsz : type ≠ regSz) (hdword : type ≠ regDword) (data : Bytes) :
    RawValue.Storable (.other type data) := by
  cases data <;> simp [RawValue.Storable, storedValue, queryValue, hsz, hdword]

/-- A text that the registry gives has no NUL: it is cut at the first one. -/
theorem nulFree_of_queryValue {d : Option RegData} (h : queryValue d = .ok (.sz text)) : '\x00' ∉ text := by
  rcases d with - | ⟨type, data⟩
  · cases h
  simp only [queryValue] at h
  by_cases hsz : type = regSz
  · split at h
    · cases h
      exact not_mem_nil
    · cases h
      have hz : (0 : UInt16) ∉ (toUnits data).takeWhile (· ≠ 0) := by
        intro hmem
        simpa using all_eq_true.mp all_takeWhile _ hmem
      cases htext : fromUtf16 ((toUnits data).takeWhile (· ≠ 0)) with
      | none => exact not_mem_nil
      | some text => exact nul_notMem_fromUtf16 htext hz
  · split at h
    · split at h <;> cases h
    · split at h
      · split at h <;> cases h
      · cases h

variable {v : RawValue}

/-- What the registry gives is storable. -/
theorem storable_of_queryValue {d : Option RegData} (h : queryValue d = .ok v) : v.Storable := by
  cases v with
  | absent => rfl
  | dword value => exact storable_dword value
  | sz text => exact storable_sz (nulFree_of_queryValue h)
  | other type data =>
    rcases d with - | ⟨type', data'⟩
    · cases h
    simp only [queryValue] at h
    by_cases hsz : type' = regSz
    · simp only [hsz, if_true] at h
      split at h <;> cases h
    by_cases hdword : type' = regDword
    · split at h
      · cases h
      · split at h <;> cases h
    split at h <;> cases h <;> exact storable_other hsz hdword _

variable {key : SettingsKey} {raw : RawInternetSettings}

theorem queryValues_eq_ok : queryValues key = .ok raw ↔ ∀ n, queryValue (key n) = .ok (raw.get n) := by
  constructor
  · intro h n
    obtain ⟨v1, h1, h⟩ := bind_ok_iff.mp h
    obtain ⟨v2, h2, h⟩ := bind_ok_iff.mp h
    obtain ⟨v3, h3, h⟩ := bind_ok_iff.mp h
    obtain ⟨v4, h4, h⟩ := bind_ok_iff.mp h
    obtain ⟨v5, h5, h⟩ := bind_ok_iff.mp h
    cases h
    cases n <;> assumption
  · intro h
    have h1 := h .proxyEnable
    have h2 := h .proxyServer
    have h3 := h .proxyOverride
    have h4 := h .autoConfigUrl
    have h5 := h .autoDetect
    simp only [queryValues, h1, h2, h3, h4, h5]
    rfl

theorem captureForUser_eq_ok {sid : Text} :
    captureForUser sid key = .ok raw ↔ isWellShapedSid sid = true ∧ ∀ n, queryValue (key n) = .ok (raw.get n) := by
  unfold captureForUser
  cases isWellShapedSid sid with
  | false => simp
  | true => simp [queryValues_eq_ok]

/-! ## Fingerprints -/

/-- The mark of a value tells its kind, and the content of one value its content. -/
theorem fingerprintValue_injective : Function.Injective fingerprintValue := by
  intro v w h
  cases v <;> cases w <;> simp only [fingerprintValue, cons.injEq, cons_append] at h <;> try (cases h.1; done)
  · rfl
  · rw [UInt32.toNat_inj.mp (toBytes_inj (UInt32.toNat_lt _) (UInt32.toNat_lt _) h.2)]
  · rw [encodeUtf16_injective (ofUnits_injective h.2)]
  · obtain ⟨htype, hdata⟩ := append_inj h.2 (by simp)
    rw [UInt32.toNat_inj.mp (toBytes_inj (UInt32.toNat_lt _) (UInt32.toNat_lt _) htype), hdata]

/-- The names in the order of the fields. -/
def ValueName.all : List ValueName := [.proxyEnable, .proxyServer, .proxyOverride, .autoConfigUrl, .autoDetect]

theorem fields_eq_map (raw : RawInternetSettings) : raw.fields = all.map fun n => (n, raw.get n) := rfl

/-- Settings that differ in one value at most are told apart by their fingerprints. -/
theorem fingerprintPrestate_inj_of_agree {x y : RawInternetSettings} {m : ValueName}
    (hagree : ∀ n, n ≠ m → x.get n = y.get n) (h : fingerprintPrestate x = fingerprintPrestate y) : x = y := by
  have hmem : m ∈ ValueName.all := by cases m <;> decide
  obtain ⟨before, after, hall⟩ := append_of_mem hmem
  have hnodup : (before ++ m :: after).Nodup := hall ▸ (by decide : ValueName.all.Nodup)
  have hparts : ∀ names : List ValueName, m ∉ names →
      (names.map fun n => (n, x.get n)) = names.map fun n => (n, y.get n) := by
    intro names hnot
    refine map_congr_left fun n hn => ?_
    rw [hagree n (fun hnm => hnot (hnm ▸ hn))]
  have hbefore : m ∉ before := by
    intro hm
    exact (nodup_append.mp hnodup).2.2 m hm m mem_cons_self rfl
  have hafter : m ∉ after := (nodup_cons.mp (nodup_append.mp hnodup).2.1).1
  rw [fingerprintPrestate, fingerprintPrestate, fields_eq_map, fields_eq_map, hall, map_append, map_append,
    map_cons, map_cons, hparts before hbefore, hparts after hafter] at h
  simp only [flatMap_append, flatMap_cons, append_cancel_left_eq, append_cancel_right_eq] at h
  have hm := fingerprintValue_injective h
  refine RawInternetSettings.ext_get fun n => ?_
  by_cases hn : n = m
  · rw [hn, hm]
  · exact hagree n hn

/-! ## Payloads -/

section Payload

open ByteReader

theorem pushLenBytes_length (bytes : Bytes) : (pushLenBytes bytes).length = 4 + bytes.length := by
  simp [pushLenBytes]

/-- The lengths in the payload of a value are those of its parts. -/
def RawValue.Fits : RawValue → Prop
  | .other _ data => data.length ≤ u32Max
  | .sz text => (ofUnits (encodeUtf16 text)).length ≤ u32Max
  | _ => True

/-- The lengths in the payload of a step are those of its parts. -/
@[mk_iff]
structure SystemProxyFamilyStep.Fits (step : SystemProxyFamilyStep) : Prop where
  sid : (asBytes step.originatingSid).length ≤ u32Max
  count : step.desiredEntries.length ≤ u32Max
  entries : ∀ entry ∈ step.desiredEntries, (asBytes entry).length ≤ u32Max
  prestate : ∀ field ∈ step.prestate.fields, field.2.Fits
  fingerprint : step.writtenFingerprint.length ≤ u32Max

theorem lt_iff_le_u32Max {n : Nat} : n < 256 ^ 4 ↔ n ≤ u32Max := Nat.lt_succ_iff

theorem inverts_readU32 : Inverts readU32 (toBytes 4) (· ≤ u32Max) := by
  intro input n rest
  simp only [readU32, inverts_u32, lt_iff_le_u32Max]

@[simp] theorem inverts_readLenBytes : Inverts readLenBytes pushLenBytes (·.length ≤ u32Max) := by
  intro input bytes rest
  simp only [readLenBytes, inverts_lenBytes, lt_iff_le_u32Max]
  refine and_congr_right fun h => ?_
  rw [pushLenBytes, Nat.min_eq_left h]

@[simp] theorem decodeText_eq_ok {message : String} {bytes : Bytes} {text : Text} :
    decodeText message bytes = .ok text ↔ bytes = asBytes text := by
  rw [← fromUtf8_eq_some, decodeText]
  cases fromUtf8 bytes <;> simp

@[simp] theorem inverts_text (message : String) :
    Inverts (readText message) (fun text => pushLenBytes (asBytes text)) fun text => (asBytes text).length ≤ u32Max := by
  intro input text rest
  simp [readText]

theorem readEntries_eq (n : Nat) : readEntries n = many (readText "豁免条目非 UTF-8") n := by
  induction n with
  | zero => rfl
  | succ n ih =>
    rw [readEntries, ih]
    rfl

theorem inverts_entries (n : Nat) :
    Inverts (readEntries n) (·.flatMap fun entry => pushLenBytes (asBytes entry))
      fun entries => entries.length = n ∧ ∀ entry ∈ entries, (asBytes entry).length ≤ u32Max :=
  readEntries_eq n ▸ inverts_many (inverts_text _) n

theorem decodeSz_eq_ok {units : Bytes} {v : RawValue} :
    decodeSz units = .ok v ↔ ∃ text, v = .sz text ∧ units = ofUnits (encodeUtf16 text) := by
  unfold decodeSz
  split
  · rename_i hodd
    refine iff_of_false nofun ?_
    rintro ⟨text, -, rfl⟩
    simp at hodd
  rename_i heven
  have htext : ∀ text, units = ofUnits (encodeUtf16 text) ↔
      fromUtf16 (toUnits units) = some text := by
    intro text
    rw [fromUtf16_eq_some]
    constructor
    · intro h
      rw [h, toUnits_ofUnits]
    · intro h
      rw [h, ofUnits_toUnits (not_not.mp heven)]
  simp only [htext]
  cases fromUtf16 (toUnits units) <;> simp [eq_comm]

/-- A number that is read is a word. -/
theorem readU32_eq_ok {input rest : Bytes} {n : Nat} :
    readU32 input = .ok (n, rest) ↔ ∃ w : UInt32, n = w.toNat ∧ input = toBytes 4 w.toNat ++ rest := by
  simp only [readU32, inverts_u32]
  constructor
  · rintro ⟨hlt, rfl⟩
    exact ⟨UInt32.ofNat n, (UInt32.toNat_ofNat_of_lt' hlt).symm, by rw [UInt32.toNat_ofNat_of_lt' hlt]⟩
  · rintro ⟨w, rfl, rfl⟩
    exact ⟨w.toNat_lt, rfl⟩

theorem readTagged_eq_ok {tag : UInt8} {mid rest : Bytes} {v : RawValue} :
    readTagged tag mid = .ok (v, rest) ↔ v.Fits ∧ tag :: mid = pushRawValue v ++ rest := by
  unfold readTagged
  split_ifs with h0 h1 h2 h3
  · cases v <;> simp [h0, pushRawValue, RawValue.Fits]
  · cases v <;> simp [h1, readU32_eq_ok, pushRawValue, RawValue.Fits]
  · cases v <;> simp [h2, readU32_eq_ok, pushRawValue, RawValue.Fits,
      and_assoc]
  · cases v <;> simp [h3, decodeSz_eq_ok, pushRawValue, RawValue.Fits]
  · refine iff_of_false nofun ?_
    cases v <;> simp [*, pushRawValue]

@[simp] theorem inverts_rawValue : Inverts readRawValue pushRawValue RawValue.Fits := by
  intro input v rest
  have hne : pushRawValue v ≠ [] := by cases v <;> simp [pushRawValue]
  cases input <;> simp [readRawValue, readU8, readTagged_eq_ok, hne]

theorem inverts_version : Inverts readVersion (fun _ => [payloadVersion]) fun _ => True := by
  intro input _ rest
  cases input <;> simp [readVersion, readU8]

theorem inverts_pacDetected : Inverts readPacDetected (fun pac => [if pac then 1 else 0]) fun _ => True := by
  intro input pac rest
  rcases input with - | ⟨byte, input⟩
  · simp [readPacDetected, readU8]
  have hbyte : byte ≤ 1 ↔ byte = 0 ∨ byte = 1 := by
    rw [← UInt8.toNat_inj, ← UInt8.toNat_inj]
    exact Nat.le_one_iff_eq_zero_or_eq_one
  cases pac <;> simp [readPacDetected, readU8, hbyte] <;> grind

theorem inverts_prestate : Inverts readPrestate (fun raw => raw.fields.flatMap fun field => pushRawValue field.2)
    fun raw => ∀ field ∈ raw.fields, field.2.Fits := by
  intro input raw rest
  obtain ⟨enable, server, override, url, detect⟩ := raw
  simp [readPrestate, fields, and_comm, and_left_comm]

/-- A step is read from its payload, and from nothing else. -/
theorem inverts_step : Inverts readStep toPayload SystemProxyFamilyStep.Fits := by
  intro input step rest
  obtain ⟨prestate, entries, sid, pac, fingerprint⟩ := step
  simp only [readStep, run_bind_eq_ok, inverts_version, inverts_text, inverts_pacDetected, inverts_readU32, inverts_entries,
    inverts_prestate, inverts_readLenBytes, pure_eq_ok, fits_iff, toPayload]
  by_cases hcount : entries.length ≤ u32Max
  · simp [hcount, and_assoc, -Bool.exists_bool]
    tauto
  · simp [hcount]

theorem fromPayload_eq_ok {bytes : Bytes} {step : SystemProxyFamilyStep} :
    fromPayload bytes = .ok step ↔ step.Fits ∧ bytes = step.toPayload := by
  have hstep := inverts_step bytes step []
  rw [append_nil] at hstep
  rw [← hstep, fromPayload]
  rcases readStep bytes with e | ⟨found, - | ⟨b, rest⟩⟩
  · exact iff_of_false nofun nofun
  · show Except.ok found = .ok step ↔ _
    simp
  · exact iff_of_false nofun nofun

theorem entries_length_le (entries : List Text) :
    entries.length ≤ (entries.flatMap fun entry => pushLenBytes (asBytes entry)).length := by
  induction entries with
  | nil => exact le_rfl
  | cons entry entries ih =>
    simp only [flatMap_cons, length_append, pushLenBytes_length, length_cons]
    omega

theorem length_le_flatMap {α : Type} {write : α → Bytes} {xs : List α} {x : α} (h : x ∈ xs) :
    (write x).length ≤ (xs.flatMap write).length :=
  (sublist_flatten_of_mem (mem_map_of_mem h)).length_le

theorem fits_of_pushRawValue {v : RawValue} (h : (pushRawValue v).length ≤ u32Max) : v.Fits := by
  cases v with
  | absent | dword => trivial
  | other type data =>
    simp only [pushRawValue, length_append, length_cons, pushLenBytes_length] at h
    exact Nat.le_trans (by omega) h
  | sz text =>
    simp only [pushRawValue, length_cons, pushLenBytes_length] at h
    exact Nat.le_trans (by omega) h

/-- The lengths in a payload are right if its own is below their bound. -/
theorem fits_of_length {step : SystemProxyFamilyStep} (h : step.toPayload.length ≤ u32Max) : step.Fits := by
  simp only [toPayload, length_append, pushLenBytes_length] at h
  have hentries := entries_length_le step.desiredEntries
  refine ⟨by omega, by omega, fun entry hentry => ?_, fun field hfield => ?_, by omega⟩
  · have hle := @length_le_flatMap _ (fun entry => pushLenBytes (asBytes entry)) _ _ hentry
    rw [pushLenBytes_length] at hle
    omega
  · have hle := @length_le_flatMap _ (fun field => pushRawValue field.2) _ _ hfield
    exact fits_of_pushRawValue (by omega)

end Payload

/-! ## Texts without NUL -/

theorem nul_notMem_trim (h : '\x00' ∉ text) : '\x00' ∉ trim text := fun hm => h (mem_of_mem_trim hm)

theorem nul_notMem_split {sep : Char} (h : '\x00' ∉ text) : ∀ p ∈ split sep text, '\x00' ∉ p :=
  fun _ hp hm => h (mem_of_mem_split hp hm)

theorem nul_notMem_join {parts : List Text} (h : ∀ p ∈ parts, '\x00' ∉ p) : '\x00' ∉ join [';'] parts := by
  intro hm
  rcases mem_join.mp hm with ⟨p, hp, hm⟩ | ⟨-, hm⟩
  · exact h p hp hm
  · exact absurd hm (by decide)

theorem push_nulFree {m : Merge} {key entry : Text} (hm : ∀ e ∈ m.merged, '\x00' ∉ e) (he : '\x00' ∉ entry) :
    ∀ e ∈ (m.push key entry).merged, '\x00' ∉ e := by
  unfold Merge.push
  split
  · exact hm
  exact forall_mem_append.mpr ⟨hm, forall_mem_singleton.mpr he⟩

theorem mergeOriginal_nulFree {m m' : Merge} {parts : List Text} (h : mergeOriginal m parts = .ok m')
    (hm : ∀ e ∈ m.merged, '\x00' ∉ e) (hparts : ∀ p ∈ parts, '\x00' ∉ p) : ∀ e ∈ m'.merged, '\x00' ∉ e := by
  induction parts generalizing m with
  | nil =>
    cases h
    exact hm
  | cons part parts ih =>
    have hrest : ∀ p ∈ parts, '\x00' ∉ p := fun p hp => hparts p (mem_cons_of_mem _ hp)
    unfold mergeOriginal at h
    split at h
    · exact ih h hm hrest
    · split at h
      · cases h
      · exact ih h (push_nulFree hm (nul_notMem_trim (hparts part mem_cons_self))) hrest

theorem mergeDesired_nulFree {m m' : Merge} {entries : List Text} (h : mergeDesired m entries = .ok m')
    (hm : ∀ e ∈ m.merged, '\x00' ∉ e) (hentries : ∀ p ∈ entries, '\x00' ∉ p) : ∀ e ∈ m'.merged, '\x00' ∉ e := by
  induction entries generalizing m with
  | nil =>
    cases h
    exact hm
  | cons entry entries ih =>
    obtain ⟨key, -, h⟩ := bind_ok_iff.mp h
    exact ih h (push_nulFree hm (hentries entry mem_cons_self)) fun p hp => hentries p (mem_cons_of_mem _ hp)

/-- Merging texts without NUL gives a text without NUL. -/
theorem mergeBypassEntries_nulFree {original merged : Text} {desired : List Text}
    (h : mergeBypassEntries original desired = .ok merged) (horiginal : '\x00' ∉ original)
    (hdesired : ∀ d ∈ desired, '\x00' ∉ d) : '\x00' ∉ merged := by
  obtain ⟨m₁, h₁, h⟩ := bind_ok_iff.mp h
  obtain ⟨m₂, h₂, h⟩ := bind_ok_iff.mp h
  have hm₁ := mergeOriginal_nulFree h₁ (by simp) (nul_notMem_split (nul_notMem_trim horiginal))
  have hm₂ := mergeDesired_nulFree h₂ hm₁ hdesired
  split at h
  · cases h
  · cases h
    exact nul_notMem_join hm₂

theorem bypassFrom_nulFree (h : ∀ text, raw.proxyOverride = .sz text → '\x00' ∉ text) :
    ∀ e ∈ bypassFrom raw, '\x00' ∉ e := by
  intro e he
  unfold bypassFrom at he
  cases hv : raw.proxyOverride with
  | sz text =>
    simp only [hv, RawValue.asSz, mem_filter, List.mem_map] at he
    obtain ⟨⟨p, hp, rfl⟩, -⟩ := he
    exact nul_notMem_trim (nul_notMem_split (h text hv) p hp)
  | _ => simp [hv, RawValue.asSz] at he

theorem servedUrl_nulFree (port : Nat) : '\x00' ∉ servedUrl port := by
  have hhost : '\x00' ∉ "http://127.0.0.1:".toList := by decide +kernel
  have hpath : '\x00' ∉ "/proxy.pac".toList := by decide +kernel
  intro h
  rcases mem_append.mp h with h | h
  · rcases mem_append.mp h with h | h
    · exact hhost h
    · exact notMem_decimal rfl h
  · exact hpath h

/-- A part is read as an octet only if it is the text of one. -/
theorem parseOctet_eq_some {part : Text} {n : Nat} (h : parseOctet part = some n) :
    ∃ octet : UInt8, n = octet.toNat ∧ Ipv4.parseOctet part = some octet := by
  simp only [parseOctet, ite_none_left_eq_some] at h
  obtain ⟨hdigits, hzero, h⟩ := h
  cases part with
  | nil => simp at hdigits
  | cons c digits =>
    simp only [isEmpty_cons, Bool.false_or, Bool.or_eq_true, not_or, Bool.not_eq_true', Bool.not_eq_false,
      List.all_eq_true] at hdigits
    have hlead : digits = [] ∨ c ≠ '0' := by
      by_contra hnot
      rw [not_or, not_not] at hnot
      exact hzero (by simp [hnot.2, length_pos_iff.mpr hnot.1])
    unfold parseUnsigned at h
    split at h
    · rename_i hplus
      rw [(cons.inj hplus).1] at hdigits
      exact absurd (hdigits.2 '+' mem_cons_self) (by decide)
    · obtain ⟨-, rfl, hle⟩ := parseDigits_eq_some.mp h
      refine ⟨UInt8.ofNat (digitsValue (c :: digits)), ?_, ?_⟩
      · rw [UInt8.toNat_ofNat_of_lt' (Nat.lt_succ_of_le hle)]
      · simp [Ipv4.parseOctet, h, Ipv4.decimal_digitsValue hdigits.2 hlead]

theorem parseIpv4Octets_eq_some {text : Text} {a b c d : Nat} (h : parseIpv4Octets text = some (a, b, c, d)) :
    ∃ x : Ipv4.Addr, Ipv4.Addr.parse text = some x ∧ (a, b, c, d) = (x.a.toNat, x.b.toNat, x.c.toNat, x.d.toNat) := by
  unfold parseIpv4Octets at h
  split at h
  · rename_i hsplit
    simp only [bind_eq_bind, bind_eq_some_iff, Option.pure_def, some.injEq, Prod.mk.injEq] at h
    obtain ⟨_, ha, _, hb, _, hc, _, hd, rfl, rfl, rfl, rfl⟩ := h
    obtain ⟨a, rfl, ha'⟩ := parseOctet_eq_some ha
    obtain ⟨b, rfl, hb'⟩ := parseOctet_eq_some hb
    obtain ⟨c, rfl, hc'⟩ := parseOctet_eq_some hc
    obtain ⟨d, rfl, hd'⟩ := parseOctet_eq_some hd
    exact ⟨⟨a, b, c, d⟩, by simp [Ipv4.Addr.parse, hsplit, ha', hb', hc', hd'], rfl⟩
  · cases h

/-- The bypass entry of a route has no NUL. -/
theorem cidrToWildcardOpt_nulFree {cidr : Text} {entry : WildcardEntry} (h : cidrToWildcardOpt cidr = some entry) :
    '\x00' ∉ entry.asStr := by
  obtain ⟨⟨addrPart, lengthPart⟩, hsplit, h⟩ := bind_eq_some_iff.mp h
  obtain ⟨length, hlength, h⟩ := bind_eq_some_iff.mp h
  split at h
  · cases h
  obtain ⟨⟨a, b, c, d⟩, haddr, h⟩ := bind_eq_some_iff.mp h
  have hexact : '\x00' ∉ cidr := by
    obtain ⟨x, hx, -⟩ := parseIpv4Octets_eq_some haddr
    rw [splitOnce_eq_some hsplit, Ipv4.parse_eq_some.mp hx]
    simp only [mem_append, mem_cons, not_or]
    refine ⟨Ipv4.notMem_format rfl (by decide) x, by decide, fun hm => ?_⟩
    rcases mem_of_parseUnsigned hlength hm with hc | hc <;> exact absurd hc (by decide)
  have hdot : '\x00' ∉ ".".toList := by decide +kernel
  have hstar : '\x00' ∉ ".*".toList := by decide +kernel
  simp only at h
  split at h
  · cases h
    exact hexact
  split at h
  · cases h
    simp only [asStr, mem_append, not_or]
    exact ⟨notMem_decimal rfl, hstar⟩
  split at h
  · cases h
    simp only [asStr, mem_append, not_or]
    exact ⟨⟨⟨notMem_decimal rfl, hdot⟩, notMem_decimal rfl⟩, hstar⟩
  split at h
  · cases h
    simp only [asStr, mem_append, not_or]
    exact ⟨⟨⟨⟨⟨notMem_decimal rfl, hdot⟩, notMem_decimal rfl⟩, hdot⟩, notMem_decimal rfl⟩, hstar⟩
  · cases h
    exact hexact

end ExvVpn.SystemProxy
