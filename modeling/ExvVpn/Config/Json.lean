import Mathlib.Data.Char
import Mathlib.Data.List.Forall2
import Mathlib.Data.List.Lex
import ExvVpn.Basic
import ExvVpn.Tools.SortedMap

/-!
# JSON documents as serde reads and writes them

The parts of `serde_json` that the configuration files rest on. Its parser and printer are parameters: assumed is that the
members of a printed object read back the same. A `Map` keeps its members in the order of their names. A structure with
`#[serde(default)]` takes each field from the member of that name, or from the element at its place in an array.
-/

namespace ExvVpn.Config

open List

/-- A document as its outermost value: an object's members in their order, an array's elements, or something else. -/
inductive Document (V : Type)
  | object (members : List (Text × V))
  | array (items : List V)
  | other

/-- The values of `serde_json` by the types the configuration fields have: how each is written and how each is read. -/
structure JsonValues where
  Value : Type
  text : Text → Value
  bool : Bool → Value
  number : UInt32 → Value
  texts : List Text → Value
  readText : Value → Option Text
  readBool : Value → Option Bool
  readU32 : Value → Option UInt32
  readTexts : Value → Option (List Text)
  readText_text (t : Text) : readText (text t) = some t
  readBool_bool (b : Bool) : readBool (bool b) = some b
  readU32_number (n : UInt32) : readU32 (number n) = some n
  readTexts_texts (ts : List Text) : readTexts (texts ts) = some ts

attribute [simp] JsonValues.readText_text JsonValues.readBool_bool JsonValues.readU32_number JsonValues.readTexts_texts

/-- Two values that no field type tells apart. -/
structure JsonValues.Alike (json : JsonValues) (v v' : json.Value) : Prop where
  readText : json.readText v = json.readText v'
  readBool : json.readBool v = json.readBool v'
  readU32 : json.readU32 v = json.readU32 v'
  readTexts : json.readTexts v = json.readTexts v'

/-- Members of the same names with values alike, in the same order. -/
def JsonValues.MembersAlike (json : JsonValues) (m m' : List (Text × json.Value)) : Prop :=
  List.Forall₂ (fun f f' => f.1 = f'.1 ∧ json.Alike f.2 f'.2) m m'

/-- `serde_json`: what a typed reader is handed of a text (`from_str` into a structure, where a name may come twice), the
object that `from_str::<Value>` builds of it (a `Map`, where it may not), and `to_string_pretty` of an object. -/
structure SerdeJson extends JsonValues where
  members : Text → Option (Document Value)
  fromStr : Text → Option (Document Value)
  toStringPretty : List (Text × Value) → Text
  fromStr_sorted {text m} : fromStr text = some (.object m) → SortedMap.Sorted m
  members_pretty {m} : (m.map Prod.fst).Nodup →
    ∃ m', members (toStringPretty m) = some (.object m') ∧ toJsonValues.MembersAlike m m'
  fromStr_pretty {m} : (m.map Prod.fst).Nodup →
    ∃ m' m'', fromStr (toStringPretty m) = some (.object m'') ∧ toJsonValues.MembersAlike m m' ∧ m'.Perm m''

variable {V α : Type}

/-- The values a name comes with. -/
def occurrences (name : Text) : List (Text × V) → List V
  | [] => []
  | (key, v) :: rest => if key = name then v :: occurrences name rest else occurrences name rest

/-- A field of a structure read from an object: absent it has its default, and a name that comes twice is refused. -/
def readMember (m : List (Text × V)) (name : Text) (read : V → Option α) (default : α) : Option α :=
  match occurrences name m with
  | [] => some default
  | [v] => read v
  | _ => none

/-- A field of a structure read from an array, by its place. -/
def readItem (items : List V) (i : Nat) (read : V → Option α) (default : α) : Option α :=
  match items[i]? with
  | none => some default
  | some v => read v

theorem mem_occurrences {name : Text} {v : V} {m : List (Text × V)} : v ∈ occurrences name m ↔ (name, v) ∈ m := by
  induction m with
  | nil => simp [occurrences]
  | cons f rest ih =>
    obtain ⟨key, w⟩ := f
    by_cases hkey : key = name
    · simp [occurrences, hkey, ih]
    · simp [occurrences, hkey, ih, Ne.symm hkey]

/-- A name comes once where all names differ. -/
theorem occurrences_of_mem {name : Text} {v : V} {m : List (Text × V)} (hnodup : (m.map Prod.fst).Nodup)
    (hmem : (name, v) ∈ m) : occurrences name m = [v] := by
  induction m with
  | nil => cases hmem
  | cons f rest ih =>
    obtain ⟨hnew, hrest⟩ := nodup_cons.mp hnodup
    rcases mem_cons.mp hmem with rfl | hmem
    · have hnone : occurrences name rest = [] :=
        eq_nil_iff_forall_not_mem.mpr fun w hw => hnew (mem_map.mpr ⟨_, mem_occurrences.mp hw, rfl⟩)
      simp [occurrences, hnone]
    · have hne : f.1 ≠ name := fun h => hnew (h ▸ mem_map_of_mem hmem)
      simp [occurrences, hne, ih hrest hmem]

theorem occurrences_eq_filterMap (name : Text) (m : List (Text × V)) :
    occurrences name m = m.filterMap fun f => if f.1 = name then some f.2 else none := by
  induction m with
  | nil => rfl
  | cons f rest ih =>
    obtain ⟨key, v⟩ := f
    simp only [occurrences, filterMap_cons, ih]
    split <;> rfl

/-- The order of the members does not matter to a field. -/
theorem readMember_perm {m m' : List (Text × V)} (h : m.Perm m') (name : Text) (read : V → Option α) (default : α) :
    readMember m name read default = readMember m' name read default := by
  have hocc : (occurrences name m).Perm (occurrences name m') := by
    simp only [occurrences_eq_filterMap]
    exact h.filterMap _
  unfold readMember
  generalize occurrences name m = vs, occurrences name m' = vs' at hocc
  match vs, vs', hocc with
  | [], _, hocc => rw [nil_perm.mp hocc]
  | [v], _, hocc => rw [singleton_perm.mp hocc]
  | _ :: _ :: _, [], hocc => cases hocc.length_eq
  | _ :: _ :: _, [_], hocc => cases hocc.length_eq
  | _ :: _ :: _, _ :: _ :: _, _ => rfl

variable {json : JsonValues}

/-- A reader that does not tell values alike apart. -/
def JsonValues.Respects (json : JsonValues) (read : json.Value → Option α) : Prop :=
  ∀ v v', json.Alike v v' → read v = read v'

theorem JsonValues.MembersAlike.occurrences {m m' : List (Text × json.Value)} (h : json.MembersAlike m m') (name : Text) :
    List.Forall₂ json.Alike (occurrences name m) (occurrences name m') := by
  induction h with
  | nil => exact List.Forall₂.nil
  | @cons f f' rest rest' hf _ ih =>
    obtain ⟨hkey, hvalue⟩ := hf
    simp only [Config.occurrences, ← hkey]
    split
    · exact List.Forall₂.cons hvalue ih
    · exact ih

/-- Members alike have the same names, in the same order. -/
theorem JsonValues.MembersAlike.names {m m' : List (Text × json.Value)} (h : json.MembersAlike m m') :
    m.map Prod.fst = m'.map Prod.fst := by
  induction h with
  | nil => rfl
  | cons hf _ ih => rw [map_cons, map_cons, hf.1, ih]

/-- Members alike give the same field. -/
theorem JsonValues.MembersAlike.readMember {m m' : List (Text × json.Value)} (h : json.MembersAlike m m') (name : Text)
    {read : json.Value → Option α} (hread : json.Respects read) (default : α) :
    readMember m name read default = readMember m' name read default := by
  unfold Config.readMember
  generalize Config.occurrences name m = vs, Config.occurrences name m' = vs', h.occurrences name = hocc
  rcases hocc with _ | ⟨hv, hrest⟩
  · rfl
  · rcases hrest with _ | ⟨_, _⟩
    · exact hread _ _ hv
    · rfl

end ExvVpn.Config
