import ExvVpn.DarwinConfig.Config

/-!
# What a validated update holds

Every item of an update sets the one field of its key to a value that passed the check of the field.
-/

namespace ExvVpn.Config

open List

/-- The last value that comes with a name. -/
def lastItem (name : Text) : List (Text × Text) → Option Text
  | [] => none
  | (key, value) :: rest => (lastItem name rest).or (if key = name then some value else none)

/-- What the last item of a name leaves, for a loop whose steps note what is read from the value of that name. -/
theorem foldlM_lastItem {σ ε β : Type} {f : σ → Text × Text → Except ε σ} {note : σ → β} {name : Text}
    {read : Text → Except ε β} (hread : ∀ s item s', f s item = .ok s' → item.1 = name → read item.2 = .ok (note s'))
    (hother : ∀ s item s', f s item = .ok s' → item.1 ≠ name → note s' = note s)
    {items : List (Text × Text)} {s s' : σ} (h : items.foldlM f s = .ok s') :
    match lastItem name items with
    | some value => read value = .ok (note s')
    | none => note s' = note s := by
  induction items generalizing s with
  | nil =>
    cases h
    rfl
  | cons item items ih =>
    rw [foldlM_cons] at h
    rcases hitem : f s item with e | next
    · rw [hitem] at h
      cases h
    rw [hitem] at h
    have hrest := ih h
    rw [lastItem]
    generalize lastItem name items = last at hrest
    rcases last with _ | last
    · by_cases hname : item.1 = name
      · rw [if_pos hname, hrest]
        exact hread s item next hitem hname
      · rw [if_neg hname, hrest]
        exact hother s item next hitem hname
    · exact hrest

/-- A name that comes once has the value it comes with. -/
theorem lastItem_of_mem {name value : Text} {items : List (Text × Text)} (hnodup : (items.map Prod.fst).Nodup)
    (hmem : (name, value) ∈ items) : lastItem name items = some value := by
  induction items with
  | nil => exact absurd hmem not_mem_nil
  | cons item items ih =>
    obtain ⟨hnew, hrest⟩ := nodup_cons.mp hnodup
    rw [lastItem]
    rcases mem_cons.mp hmem with rfl | hmem
    · have hnone : lastItem name items = none := by
        clear ih hmem hnodup hrest
        induction items with
        | nil => rfl
        | cons other items ih =>
          simp only [map_cons, mem_cons, not_or] at hnew
          rw [lastItem, ih hnew.2, Option.none_or, if_neg (Ne.symm hnew.1)]
      rw [hnone, Option.none_or, if_pos rfl]
    · rw [ih hrest hmem, Option.some_or]

end ExvVpn.Config

namespace ExvVpn.DarwinConfig

open Config ConfigUpdate List ConfigKey

def ConfigKey.name : ConfigKey → Text
  | .server => "server".toList
  | .username => "username".toList
  | .password => "password".toList
  | .rememberPassword => "remember_password".toList
  | .routes => "routes".toList
  | .userAgent => "user_agent".toList
  | .mtu => "mtu".toList
  | .autoReconnect => "auto_reconnect".toList
  | .autoReconnectMaxAttempts => "auto_reconnect_max_attempts".toList
  | .autoReconnectBackoff => "auto_reconnect_backoff".toList

theorem ConfigKey.ofName_eq_some {name : Text} {key : ConfigKey} : ofName name = some key ↔ name = key.name := by
  constructor
  · intro h
    obtain ⟨before, after, hlist, -⟩ := lookup_eq_some_iff.mp h
    have hmem : (name, key) ∈ before ++ (name, key) :: after := by simp
    rw [← hlist] at hmem
    simp only [mem_cons, Prod.mk.injEq, not_mem_nil, or_false] at hmem
    rcases hmem with ⟨rfl, rfl⟩ | ⟨rfl, rfl⟩ | ⟨rfl, rfl⟩ | ⟨rfl, rfl⟩ | ⟨rfl, rfl⟩ | ⟨rfl, rfl⟩ | ⟨rfl, rfl⟩ | ⟨rfl, rfl⟩ |
      ⟨rfl, rfl⟩ | ⟨rfl, rfl⟩ <;> rfl
  · rintro rfl
    cases key <;> decide +kernel

variable (update : ConfigUpdate) (value : Text)

/-- What one item makes of an update, by its key. -/
inductive SetBy : ConfigKey → ConfigUpdate → Prop
  | server {server : Text} (h : normalizeServer value = .ok server) : SetBy .server { update with server := some server }
  | username {username : Text} (h : validateUsername value = .ok username) :
      SetBy .username { update with username := some username }
  | password : SetBy .password { update with password := some value }
  | rememberPassword {rememberPassword : Bool} : SetBy .rememberPassword { update with rememberPassword := some rememberPassword }
  | routes {routes : List Text} (h : parseRoutes value = .ok routes) : SetBy .routes { update with routes := some routes }
  | userAgent {userAgent : Text} (h : validateUserAgent value = .ok userAgent) :
      SetBy .userAgent { update with userAgent := some userAgent }
  | mtu {mtu : UInt32} (h : parseMtu value = .ok mtu) : SetBy .mtu { update with mtu := some mtu }
  | autoReconnect {autoReconnect : Bool} : SetBy .autoReconnect { update with autoReconnect := some autoReconnect }
  | autoReconnectMaxAttempts {attempts : UInt32} :
      SetBy .autoReconnectMaxAttempts { update with autoReconnectMaxAttempts := some attempts }
  | autoReconnectBackoff {autoReconnectBackoff : Bool} :
      SetBy .autoReconnectBackoff { update with autoReconnectBackoff := some autoReconnectBackoff }

theorem map_eq_ok {ε α β : Type} {value : Except ε α} {f : α → β} {b : β} (h : value.map f = .ok b) :
    ∃ a, value = .ok a ∧ f a = b := by
  rcases value with e | a
  · cases h
  · exact ⟨a, rfl, Except.ok.inj h⟩

variable {update}

theorem setItem_setBy {update' : ConfigUpdate} {item : Text × Text} (h : update.setItem item = .ok update') :
    ∃ key, item.1 = name key ∧ SetBy update item.2 key update' := by
  rcases hkey : ofName item.1 with _ | key
  · rw [setItem, hkey] at h
    cases h
  refine ⟨key, ofName_eq_some.mp hkey, ?_⟩
  rw [setItem, hkey] at h
  cases key with
  | password =>
    cases h
    exact .password
  | server =>
    obtain ⟨server, hserver, rfl⟩ := map_eq_ok h
    exact .server hserver
  | username =>
    obtain ⟨username, husername, rfl⟩ := map_eq_ok h
    exact .username husername
  | rememberPassword =>
    obtain ⟨rememberPassword, -, rfl⟩ := map_eq_ok h
    exact .rememberPassword
  | routes =>
    obtain ⟨routes, hroutes, rfl⟩ := map_eq_ok h
    exact .routes hroutes
  | userAgent =>
    obtain ⟨userAgent, huserAgent, rfl⟩ := map_eq_ok h
    exact .userAgent huserAgent
  | mtu =>
    obtain ⟨mtu, hmtu, rfl⟩ := map_eq_ok h
    exact .mtu hmtu
  | autoReconnect =>
    obtain ⟨autoReconnect, -, rfl⟩ := map_eq_ok h
    exact .autoReconnect
  | autoReconnectMaxAttempts =>
    obtain ⟨attempts, -, rfl⟩ := map_eq_ok h
    exact .autoReconnectMaxAttempts
  | autoReconnectBackoff =>
    obtain ⟨autoReconnectBackoff, -, rfl⟩ := map_eq_ok h
    exact .autoReconnectBackoff

variable {items : List (Text × Text)}

theorem validateKeys_nodup {before : List Text} (h : validateKeys before items = .ok ()) :
    (items.map Prod.fst).Nodup ∧ ∀ item ∈ items, item.1 ∉ before := by
  induction items generalizing before with
  | nil => exact ⟨nodup_nil, fun _ hnil => absurd hnil not_mem_nil⟩
  | cons item items ih =>
    rw [validateKeys] at h
    split_ifs at h with hknown hbefore
    obtain ⟨hnodup, hrest⟩ := ih h
    refine ⟨nodup_cons.mpr ⟨fun hmem => ?_, hnodup⟩, fun item hitem => ?_⟩
    · obtain ⟨other, hother, hkey⟩ := mem_map.mp hmem
      exact hrest other hother (by simp [hkey])
    · rcases mem_cons.mp hitem with rfl | hitem
      · exact hbefore
      · exact fun hmem => hrest item hitem (mem_append_left _ hmem)

section

variable (h : validate items = .ok update)
include h

theorem validate_foldlM : (items.map Prod.fst).Nodup ∧ items.foldlM setItem {} = .ok update := by
  unfold validate at h
  split at h
  · cases h
  · rename_i hkeys
    exact ⟨(validateKeys_nodup hkeys).1, h⟩

/-- The password of a validated update is the one of its items. -/
theorem validate_password : update.password = lastItem "password".toList items := by
  have hlast := @foldlM_lastItem _ _ _ _ password "password".toList (fun value => .ok (some value)) ?_ ?_ _ _ _
    (validate_foldlM h).2
  · generalize lastItem "password".toList items = last at hlast
    rcases last with _ | value
    · exact hlast
    · exact (Except.ok.inj hlast).symm
  · intro s item s' hitem hname
    obtain ⟨key, hkey, hset⟩ := setItem_setBy hitem
    cases hset with
    | password => rfl
    | _ => exact absurd (hkey.symm.trans hname) (by decide)
  · intro s item s' hitem hname
    obtain ⟨key, hkey, hset⟩ := setItem_setBy hitem
    cases hset with
    | password => exact absurd hkey hname
    | _ => rfl

/-- The routes of a validated update are those of its routes value. -/
theorem validate_routes
    {value : Text} (hvalue : ("routes".toList, value) ∈ items) :
    ∃ routes, parseRoutes value = .ok routes ∧ update.routes = some routes := by
  obtain ⟨hnodup, hfold⟩ := validate_foldlM h
  have hlast := @foldlM_lastItem _ _ _ _ routes "routes".toList (fun value => (parseRoutes value).map some) ?_ ?_
    _ _ _ hfold
  · rw [lastItem_of_mem hnodup hvalue] at hlast
    obtain ⟨routes, hroutes, hupdate⟩ := map_eq_ok hlast
    exact ⟨routes, hroutes, hupdate.symm⟩
  · intro s item s' hitem hname
    obtain ⟨key, hkey, hset⟩ := setItem_setBy hitem
    cases hset with
    | routes hroutes =>
      rw [hroutes]
      rfl
    | _ => exact absurd (hkey.symm.trans hname) (by decide)
  · intro s item s' hitem hname
    obtain ⟨key, hkey, hset⟩ := setItem_setBy hitem
    cases hset with
    | routes => exact absurd hkey hname
    | _ => rfl

end

/-! ## What an accepted update leaves -/

variable {d : Disk} {script : List Outcome}

section

open Syscall

variable {sealing : Sealing} {json : SerdeJson} {pid : UInt32} {random : Key} {nonce : Option Nonce}

theorem sealPassword_eq_ok {candidate c : DarwinStoredConfig} {plaintext : Text}
    (h : (sealPassword sealing pid random nonce candidate plaintext d script).1 = .ok c) :
    c = { candidate with password := c.password } := by
  obtain ⟨key, d', rest, -, h⟩ := bind_eq_ok h
  rcases hsealed : candidate.setPasswordEncrypted sealing plaintext key nonce with e | sealed
  · rw [hsealed] at h
    cases h
  rw [hsealed] at h
  cases h
  unfold DarwinStoredConfig.setPasswordEncrypted at hsealed
  split at hsealed
  · cases hsealed
  · cases hsealed
    rfl

/-- An accepted update leaves the fields it sets and those of the configuration it was made on, but for the password. -/
theorem applyAndSave_eq_ok {c c' : DarwinStoredConfig}
    (h : (applyAndSave sealing json pid random nonce c items d script).1 = .ok c') :
    ∃ update, validate items = .ok update ∧ c' = { update.applyFields c with password := c'.password } := by
  unfold applyAndSave at h
  rcases hvalidate : validate items with e | update
  · rw [hvalidate] at h
    cases h
  rw [hvalidate] at h
  refine ⟨update, rfl, ?_⟩
  obtain ⟨candidate, d', rest, happly, h⟩ := bind_eq_ok h
  obtain ⟨_, d'', rest', -, h⟩ := bind_eq_ok h
  cases h
  have happly := congrArg Prod.fst happly
  unfold apply at happly
  by_cases hremember : (update.applyFields c).rememberPassword = false
  · rw [if_pos hremember] at happly
    cases happly
    rfl
  rw [if_neg hremember] at happly
  generalize update.password.filter (fun password => !password.isEmpty) = new at happly
  rcases new with _ | plaintext
  · cases happly
    rfl
  · exact sealPassword_eq_ok happly

end

end ExvVpn.DarwinConfig
