import ExvVpn.Cstp.Text

/-! # What a redacted error text gives away

Of a text with a credential field only what stands in front of the field is looked at, and no address or value of it is
kept. -/

namespace ExvVpn.Cstp

open RustStr List

/-- The first sensitive marker of a text, in any letter case, starts behind so many characters. -/
def FirstMarkerAt (text : Text) (n : Nat) : Prop :=
  (∃ marker ∈ sensitiveMarkers, marker <+: (toAsciiLowercase text).drop n) ∧
    ∀ k < n, ∀ marker ∈ sensitiveMarkers, ¬marker <+: (toAsciiLowercase text).drop k

/-- The word is an address or has a value. -/
def Telling (word : Text) : Prop := "://".toList <:+: word ∨ '=' ∈ word

instance (word : Text) : Decidable (Telling word) :=
  decidable_of_iff ((find "://".toList word).isSome = true ∨ '=' ∈ word) (or_congr_left find_isSome)

variable {text : Text} {n : Nat}

theorem marker_ne_nil : ∀ marker ∈ sensitiveMarkers, marker ≠ [] := by decide

theorem sensitiveStart_eq_some (h : FirstMarkerAt text n) : sensitiveStart text = some n := by
  obtain ⟨⟨marker, hmarker, hat⟩, hfirst⟩ := h
  refine min?_eq_some_iff.mpr ⟨mem_filterMap.mpr ⟨marker, hmarker, ?_⟩, fun k hk => ?_⟩
  · exact (find_eq_some_iff (marker_ne_nil marker hmarker)).mpr ⟨hat, fun k hk => hfirst k hk marker hmarker⟩
  · obtain ⟨other, hother, hfind⟩ := mem_filterMap.mp hk
    by_contra hlt
    exact hfirst k (Nat.lt_of_not_le hlt) other hother ((find_eq_some_iff (marker_ne_nil other hother)).mp hfind).1

/-- A redacted word tells nothing. -/
theorem not_telling_redactWord (word : Text) : ¬Telling (redactWord word) := by
  rw [redactWord]
  split
  · decide
  rename_i hurl
  split
  · decide
  rename_i hvalue
  rintro (h | h)
  · exact hurl (find_isSome.mpr h)
  · exact hvalue (contains_iff_mem.mpr h)

theorem telling_append_cons {a b : Text} (h : Telling (a ++ ' ' :: b)) : Telling a ∨ Telling b := by
  rcases h with h | h
  · exact (infix_append_cons (by decide) h).imp .inl .inl
  · rw [mem_append, mem_cons] at h
    exact h.imp .inr fun h => .inr (h.resolve_left (by decide))

/-- A redacted text tells nothing. -/
theorem not_telling_redactIoDetail (text : Text) : ¬Telling (redactIoDetail text) := by
  have hwords : ∀ words : List Text, ¬Telling (join [' '] (words.map redactWord)) := by
    intro words
    induction words with
    | nil => decide
    | cons word words ih =>
      cases words with
      | nil => simpa [join] using not_telling_redactWord word
      | cons next words =>
        exact fun h => (telling_append_cons h).elim (not_telling_redactWord word) ih
  rw [redactIoDetail]
  split
  · exact fun h => (telling_append_cons h).elim (hwords _) (by decide)
  · exact hwords _

/-- Two texts that agree up to their first marker are redacted alike, and no address or value of a text is kept. -/
theorem redaction_hides (text other : Text) :
    (∀ n, FirstMarkerAt text n → FirstMarkerAt other n → text.take n = other.take n →
      redactIoDetail text = redactIoDetail other) ∧
    ∀ word ∈ splitWhitespace text, Telling word → ¬word <:+: redactIoDetail text := by
  refine ⟨fun n htext hother hagree => ?_, fun word _ htelling hkept => not_telling_redactIoDetail text ?_⟩
  · rw [redactIoDetail, redactIoDetail, sensitiveStart_eq_some htext, sensitiveStart_eq_some hother]
    simp [hagree]
  · exact htelling.imp (fun h => h.trans hkept) fun h => hkept.mem h

end ExvVpn.Cstp
