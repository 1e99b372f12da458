import Mathlib.Data.List.Sort

/-! # Maps as sorted lists

A map is the list of its entries in the order of their keys. An insertion puts an entry in its place or replaces the one of
the same key. -/

namespace SortedMap

open List

variable {κ α : Type*} [LinearOrder κ] {m : List (κ × α)}

/-- The entries stand in the order of their keys, each key once. -/
def Sorted (m : List (κ × α)) : Prop := m.Pairwise fun f g => f.1 < g.1

/-- An entry is put in, in the place of one with the same key. -/
def insert : List (κ × α) → κ × α → List (κ × α)
  | [], entry => [entry]
  | f :: rest, entry =>
    if entry.1 < f.1 then entry :: f :: rest
    else if entry.1 = f.1 then entry :: rest
    else f :: insert rest entry

/-- The entries are put in one after another. -/
def extend (m more : List (κ × α)) : List (κ × α) := more.foldl insert m

/-- In a sorted map no key comes twice. -/
theorem Sorted.nodup (h : Sorted m) : (m.map Prod.fst).Nodup := (pairwise_map.mpr h).imp ne_of_lt

/-- Two sorted maps with the same entries are the same. -/
theorem Sorted.eq_of_mem_iff {m' : List (κ × α)} (h : Sorted m) (h' : Sorted m') (hmem : ∀ f, f ∈ m ↔ f ∈ m') : m = m' := by
  have : Std.Irrefl fun f g : κ × α => f.1 < g.1 := ⟨fun f => lt_irrefl f.1⟩
  have : Std.Antisymm fun f g : κ × α => f.1 < g.1 := ⟨fun f g hlt hgt => absurd (hlt.trans hgt) (lt_irrefl f.1)⟩
  exact Pairwise.eq_of_mem_iff h h' hmem

/-- After an insertion there are the new entry and those of other keys. -/
theorem mem_insert (h : Sorted m) (entry f : κ × α) : f ∈ insert m entry ↔ f = entry ∨ f ∈ m ∧ f.1 ≠ entry.1 := by
  induction m with
  | nil => simp [insert]
  | cons g rest ih =>
    obtain ⟨hfirst, hrest⟩ := pairwise_cons.mp h
    have hlater : ∀ x ∈ rest, entry.1 ≤ g.1 → x.1 ≠ entry.1 := fun x hx hle => (hle.trans_lt (hfirst x hx)).ne'
    rw [insert]
    split
    · rename_i hlt
      simp only [mem_cons]
      refine or_congr_right ⟨fun hf => ⟨hf, ?_⟩, And.left⟩
      rcases hf with rfl | hf
      · exact hlt.ne'
      · exact hlater f hf hlt.le
    · split
      · rename_i heq
        simp only [mem_cons]
        refine or_congr_right ⟨fun hf => ⟨.inr hf, hlater f hf heq.le⟩, ?_⟩
        rintro ⟨rfl | hf, hne⟩
        · exact absurd heq.symm hne
        · exact hf
      · rename_i hne
        simp only [mem_cons, ih hrest]
        constructor
        · rintro (rfl | rfl | ⟨hf, hkey⟩)
          · exact .inr ⟨.inl rfl, Ne.symm hne⟩
          · exact .inl rfl
          · exact .inr ⟨.inr hf, hkey⟩
        · rintro (rfl | ⟨rfl | hf, hkey⟩)
          · exact .inr (.inl rfl)
          · exact .inl rfl
          · exact .inr (.inr ⟨hf, hkey⟩)

/-- An insertion keeps the order. -/
theorem sorted_insert (h : Sorted m) (entry : κ × α) : Sorted (insert m entry) := by
  induction m with
  | nil => exact pairwise_singleton _ _
  | cons g rest ih =>
    obtain ⟨hfirst, hrest⟩ := pairwise_cons.mp h
    rw [insert]
    split
    · rename_i hlt
      refine pairwise_cons.mpr ⟨fun x hx => ?_, h⟩
      rcases mem_cons.mp hx with rfl | hx
      · exact hlt
      · exact hlt.trans (hfirst x hx)
    · split
      · rename_i heq
        exact pairwise_cons.mpr ⟨fun x hx => heq ▸ hfirst x hx, hrest⟩
      · rename_i hnot hne
        refine pairwise_cons.mpr ⟨fun x hx => ?_, ih hrest⟩
        rcases (mem_insert hrest entry x).mp hx with rfl | ⟨hx, -⟩
        · exact lt_of_le_of_ne (not_lt.mp hnot) (Ne.symm hne)
        · exact hfirst x hx

/-- Insertions keep the order. -/
theorem sorted_extend (h : Sorted m) (more : List (κ × α)) : Sorted (extend m more) := by
  induction more generalizing m with
  | nil => exact h
  | cons entry more ih => exact ih (sorted_insert h entry)

/-- An extension has the new entries and those of other keys. -/
theorem mem_extend (h : Sorted m) {more : List (κ × α)} (hmore : (more.map Prod.fst).Nodup) (f : κ × α) :
    f ∈ extend m more ↔ f ∈ more ∨ f ∈ m ∧ f.1 ∉ more.map Prod.fst := by
  induction more generalizing m with
  | nil => simp [extend]
  | cons entry more ih =>
    obtain ⟨hnew, hrest⟩ := nodup_cons.mp hmore
    change f ∈ extend (insert m entry) more ↔ _
    rw [ih (sorted_insert h entry) hrest, mem_insert h, mem_cons, map_cons, mem_cons, not_or]
    constructor
    · rintro (hf | ⟨rfl | ⟨hf, hkey⟩, hout⟩)
      · exact .inl (.inr hf)
      · exact .inl (.inl rfl)
      · exact .inr ⟨hf, hkey, hout⟩
    · rintro ((rfl | hf) | ⟨hf, hkey, hout⟩)
      · exact .inr ⟨.inl rfl, hnew⟩
      · exact .inl hf
      · exact .inr ⟨.inr ⟨hf, hkey⟩, hout⟩

/-- What is put into an empty map is there in the order of the keys. -/
theorem extend_nil_of_sorted (h : Sorted m) : extend [] m = m := by
  have hempty : Sorted ([] : List (κ × α)) := Pairwise.nil
  refine (sorted_extend hempty m).eq_of_mem_iff h fun f => ?_
  simp [mem_extend hempty h.nodup]

/-- Entries with different keys are only put in order. -/
theorem perm_extend_nil (hnodup : (m.map Prod.fst).Nodup) : (extend [] m).Perm m := by
  have hempty : Sorted ([] : List (κ × α)) := Pairwise.nil
  refine (perm_ext_iff_of_nodup (sorted_extend hempty m).nodup.of_map (hnodup.of_map Prod.fst)).mpr fun f => ?_
  simp [mem_extend hempty hnodup]

end SortedMap
