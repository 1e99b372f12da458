import ExvVpn.Journal.Codec

/-!
# Verified chains

`verify_chain` holds every record but the first to its number. The first one is taken with whatever number it carries, as long
as its digest is the one of record 0.
-/

namespace ExvVpn.Journal

/-- The digest a record has to point back to, by its index, when the chain starts behind `start`. -/
def previousOf (start : Digest) (records : List JournalRecord) : Nat → Option Digest
  | 0 => some start
  | i + 1 => records[i]?.map (·.digest)

/-- A chain that starts at number `first` behind `start`: each record has its number, its own digest and the digest of the
record before it. -/
def ChainedFrom (H : Hash) (first : Nat) (start : Digest) (records : List JournalRecord) : Prop :=
  ∀ i record, records[i]? = some record → record.sequence = UInt64.ofNat (first + i) ∧
    record.digest = recordDigest H record.sequence record.previousDigest record.payload ∧
    previousOf start records i = some record.previousDigest

/-- A whole chain. A slice has less than `2 ^ 64` records, so the numbers do not come round. -/
def Chained (H : Hash) (records : List JournalRecord) : Prop := ChainedFrom H 0 zeroDigest records

/-- The records are a chain but for the number of the first one. -/
def Misnumbered (H : Hash) (records : List JournalRecord) : Prop :=
  ∃ first rest, records = first :: rest ∧ first.sequence ≠ 0 ∧ Chained H ({ first with sequence := 0 } :: rest)

namespace JournalChainAux

variable {H : Hash} {first : Nat} {start : Digest} {record : JournalRecord} {records : List JournalRecord}

theorem chainedFrom_nil : ChainedFrom H first start [] := by
  intro i record h
  cases h

/-- A chain is its first record and the chain behind it. -/
theorem chainedFrom_cons : ChainedFrom H first start (record :: records) ↔
    (record.sequence = UInt64.ofNat first ∧ record.previousDigest = start ∧
      record.digest = recordDigest H record.sequence record.previousDigest record.payload) ∧
    ChainedFrom H (first + 1) record.digest records := by
  constructor
  · intro h
    obtain ⟨hsequence, hdigest, hprevious⟩ := h 0 record rfl
    refine ⟨⟨hsequence, (Option.some.inj hprevious).symm, hdigest⟩, fun i other hother => ?_⟩
    obtain ⟨hnumber, hown, hlink⟩ := h (i + 1) other hother
    refine ⟨by rw [hnumber, Nat.add_right_comm, Nat.add_assoc], hown, ?_⟩
    cases i with
    | zero => exact hlink
    | succ i => exact hlink
  · rintro ⟨⟨hsequence, hprevious, hdigest⟩, h⟩ i other hother
    cases i with
    | zero =>
      cases hother
      exact ⟨hsequence, hdigest, congrArg some hprevious.symm⟩
    | succ i =>
      obtain ⟨hnumber, hown, hlink⟩ := h i other hother
      refine ⟨by rw [hnumber, Nat.add_right_comm, Nat.add_assoc], hown, ?_⟩
      cases i with
      | zero => exact hlink
      | succ i => exact hlink

/-- What is left of a chain is a chain that starts later. -/
theorem chainedFrom_of_append {removed : List JournalRecord} (h : ChainedFrom H first start (removed ++ records)) :
    ∃ start', ChainedFrom H (first + removed.length) start' records := by
  induction removed generalizing first start with
  | nil => exact ⟨start, h⟩
  | cons record removed ih =>
    obtain ⟨start', hrest⟩ := ih (chainedFrom_cons.mp h).2
    exact ⟨start', by rwa [List.length_cons, Nat.add_comm removed.length, ← Nat.add_assoc]⟩

/-- The links behind a record. -/
theorem verifyLinks_eq_ok : verifyLinks H first record records = .ok () ↔ ChainedFrom H first record.digest records := by
  induction records generalizing first record with
  | nil => exact iff_of_true rfl chainedFrom_nil
  | cons next records ih =>
    rw [verifyLinks, chainedFrom_cons]
    by_cases hsequence : next.sequence = UInt64.ofNat first
    · by_cases hdigest : next.previousDigest = record.digest ∧
          next.digest = recordDigest H next.sequence next.previousDigest next.payload
      · rw [if_neg (not_not.mpr hsequence), if_neg (by simpa using hdigest), ih]
        exact (and_iff_right ⟨hsequence, hdigest⟩).symm
      · rw [if_neg (not_not.mpr hsequence), if_pos (Decidable.not_and_iff_or_not.mp hdigest)]
        exact iff_of_false nofun fun h => hdigest h.1.2
    · rw [if_pos hsequence]
      exact iff_of_false nofun fun h => hsequence h.1.1

/-- The check passes exactly the chains, with the first number taken for 0. -/
theorem verifyChain_eq_ok : verifyChain H (record :: records) = .ok () ↔
    Chained H ({ record with sequence := 0 } :: records) := by
  rw [verifyChain, Chained, chainedFrom_cons]
  by_cases hfirst : record.previousDigest = zeroDigest ∧ record.digest = recordDigest H 0 zeroDigest record.payload
  · rw [if_neg (by simp [← hfirst.2, hfirst.1]), verifyLinks_eq_ok]
    exact (and_iff_right ⟨rfl, hfirst.1, hfirst.1 ▸ hfirst.2⟩).symm
  rw [if_pos (Decidable.not_and_iff_or_not.mp hfirst)]
  refine iff_of_false nofun ?_
  rintro ⟨⟨-, hprevious, hdigest⟩, -⟩
  exact hfirst ⟨hprevious, hprevious ▸ hdigest⟩

/-- A list that passes is a chain exactly when its first number is 0. -/
theorem chained_iff_of_ok (h : verifyChain H (record :: records) = .ok ()) :
    Chained H (record :: records) ↔ record.sequence = 0 := by
  constructor
  · exact fun hchained => (chainedFrom_cons.mp hchained).1.1
  · intro hzero
    have hchained := verifyChain_eq_ok.mp h
    rwa [← hzero] at hchained

/-- A chain from record 0 is verified. -/
theorem ok_of_chained (h : Chained H records) : verifyChain H records = .ok () := by
  cases records with
  | nil => rfl
  | cons record records =>
    have hzero : record.sequence = 0 := (chainedFrom_cons.mp h).1.1
    rw [verifyChain_eq_ok, ← hzero]
    exact h

theorem misnumbered_cons : Misnumbered H (record :: records) ↔
    record.sequence ≠ 0 ∧ verifyChain H (record :: records) = .ok () := by
  rw [verifyChain_eq_ok]
  constructor
  · rintro ⟨_, _, heq, h⟩
    cases heq
    exact h
  · exact fun h => ⟨record, records, rfl, h⟩

end JournalChainAux

open JournalChainAux

/-- The check passes exactly the chains, and refuses what is left of a chain when its first records are removed, unless the
records are a chain but for the number of the first one. -/
theorem verifyChain_exact_iff (H : Hash) (records : List JournalRecord) :
    ((verifyChain H records = .ok () ↔ Chained H records) ↔ ¬Misnumbered H records) ∧
      ∀ removed, removed ≠ [] → removed.length < 2 ^ 64 → records ≠ [] → Chained H (removed ++ records) →
        (verifyChain H records ≠ .ok () ↔ ¬Misnumbered H records) := by
  cases records with
  | nil => exact ⟨iff_of_true (iff_of_true rfl chainedFrom_nil) nofun, fun _ _ _ h => absurd rfl h⟩
  | cons record records =>
    refine ⟨?_, fun removed hremoved hlen _ hchained => ?_⟩
    · rw [misnumbered_cons]
      by_cases hok : verifyChain H (record :: records) = .ok ()
      · rw [chained_iff_of_ok hok]
        simp [hok]
      · exact iff_of_true (iff_of_false hok fun h => hok (ok_of_chained h)) fun h => hok h.2
    · obtain ⟨start, hrest⟩ := chainedFrom_of_append hchained
      have hsequence := (chainedFrom_cons.mp hrest).1.1
      have hne : record.sequence ≠ 0 := by
        rw [hsequence, Nat.zero_add, ne_eq, ← UInt64.toNat_inj, UInt64.toNat_ofNat', Nat.mod_eq_of_lt hlen]
        exact mt List.length_eq_zero_iff.mp hremoved
      rw [misnumbered_cons, and_iff_right hne]

namespace JournalChainAux

/-- A hash function like any other. -/
def plainHash : Hash := fun _ => zeroDigest

/-- A record with the digest of record 0 and another number. -/
def misnumbered : JournalRecord := ⟨7, [], zeroDigest, recordDigest plainHash 0 zeroDigest []⟩

end JournalChainAux

/-- A record with number 7 passes as a chain. -/
theorem misnumbered_record_passes :
    verifyChain plainHash [misnumbered] = .ok () ∧ misnumbered.sequence = 7 ∧ ¬Chained plainHash [misnumbered] := by
  refine ⟨rfl, rfl, fun h => ?_⟩
  have hsequence := (h 0 misnumbered rfl).1
  exact absurd hsequence (by decide)

end ExvVpn.Journal
