import ExvVpn.Win32Config.Config

/-!
# The repair of the document at startup

`config_hygiene.rs`: a document that is a configuration is completed with the known fields and keeps the unknown ones,
anything else is replaced by the defaults, and the result is written back each time.
-/

namespace ExvVpn.Win32Config

open Syscall Config ExvConfig

structure StartupConfig where
  config : ExvConfig
  requiresQuickStart : Bool
deriving DecidableEq

variable (json : SerdeJson)

def hydrateKnownFields (original : List (Text × json.Value)) (config : ExvConfig) : List (Text × json.Value) :=
  SortedMap.extend original (config.fields json)

/-- What `bootstrap_default` returns and writes. -/
def bootstrapDefault : StartupConfig × Text := (⟨.default, true⟩, default.toStringPretty json)

/-- What `load_for_startup` returns and writes for a text. -/
def classifyText (text : Text) : StartupConfig × Text :=
  match json.fromStr text with
  | some (.object object) =>
    match ofMembers json object with
    | some config => (⟨config, false⟩, json.toStringPretty (hydrateKnownFields json object config))
    | none => bootstrapDefault json
  | _ => bootstrapDefault json

def loadForStartup (pid : UInt32) : Prog Disk ConfigError StartupConfig := do
  let startup ← attempt (readToString configFile)
  let (config, document) ←
    match startup with
    | .ok text => pure (classifyText json text)
    | .error .notFound => pure (bootstrapDefault json)
    | .error e => stop (.io e)
  writeConfigJsonAtomically pid document
  pure config

variable {json}

/-- A document whose members hold a configuration reads as that configuration on both ways of reading it. -/
theorem classifyText_of_holds {c : ExvConfig} {m : List (Text × json.Value)} (hnodup : (m.map Prod.fst).Nodup)
    (h : c.Holds json m) :
    fromStr json (json.toStringPretty m) = some c ∧
      (classifyText json (json.toStringPretty m)).1.config = c := by
  obtain ⟨typed, htyped, htypedAlike⟩ := json.members_pretty hnodup
  obtain ⟨printed, object, hobject, hobjectAlike, hperm⟩ := json.fromStr_pretty hnodup
  have hread : ofMembers json object = some c := by
    rw [← ofMembers_perm json hperm, ← ofMembers_congr json hobjectAlike, h.ofMembers]
  constructor
  · rw [fromStr, htyped, Option.bind_some, ofDocument, ← ofMembers_congr json htypedAlike,
      h.ofMembers]
  · simp [classifyText, hobject, hread]

section

variable {original : List (Text × json.Value)} (h : SortedMap.Sorted original) (config : ExvConfig)
include h

/-- The completed members are the known ones and those of other names. -/
theorem mem_hydrateKnownFields (f : Text × json.Value) :
    f ∈ hydrateKnownFields json original config ↔
      f ∈ config.fields json ∨ f ∈ original ∧ f.1 ∉ (config.fields json).map Prod.fst :=
  SortedMap.mem_extend h (config.fields_nodup json) f

theorem hydrateKnownFields_sorted : SortedMap.Sorted (hydrateKnownFields json original config) :=
  SortedMap.sorted_extend h _

/-- The completed members hold the configuration. -/
theorem holds_hydrateKnownFields : config.Holds json (hydrateKnownFields json original config) := fun _ _ hv =>
  occurrences_of_mem (hydrateKnownFields_sorted h config).nodup ((mem_hydrateKnownFields h config _).mpr (.inl hv))

end

variable (json) in
/-- A text is an object that is a configuration, or it is replaced by the defaults. -/
theorem classifyText_cases (text : Text) :
    (∃ object config, json.fromStr text = some (.object object) ∧ ofMembers json object = some config ∧
      classifyText json text = (⟨config, false⟩, json.toStringPretty (hydrateKnownFields json object config))) ∨
    classifyText json text = bootstrapDefault json ∧
      ∀ object, json.fromStr text = some (.object object) → ofMembers json object = none := by
  unfold classifyText
  split
  · rename_i object hparse
    split
    · rename_i config hread
      exact .inl ⟨object, config, hparse, hread, rfl⟩
    · rename_i hread
      refine .inr ⟨rfl, fun other hother => ?_⟩
      cases hparse.symm.trans hother
      exact hread
  · rename_i hother
    exact .inr ⟨rfl, fun object hparse => absurd hparse (hother object)⟩

/-- What a startup writes back reads as what it returned, on both ways of reading it. -/
theorem classifyText_document (text : Text) :
    fromStr json (classifyText json text).2 = some (classifyText json text).1.config ∧
      (classifyText json (classifyText json text).2).1.config = (classifyText json text).1.config := by
  rcases classifyText_cases json text with ⟨object, config, hparse, -, hclassified⟩ | ⟨hclassified, -⟩ <;> rw [hclassified]
  · have hsorted := json.fromStr_sorted hparse
    exact classifyText_of_holds (hydrateKnownFields_sorted hsorted config).nodup (holds_hydrateKnownFields hsorted config)
  · exact classifyText_of_holds (default.fields_nodup json) (default.holds_fields json)

end ExvVpn.Win32Config
