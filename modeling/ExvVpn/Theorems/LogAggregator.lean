import ExvVpn.Lemmas.LogAggregator
import ExvVpn.Win32Host.LogJson
import ExvVpn.Tools.Transition

/-!
# What the log keeps

A log over any number of processes, some of which end in the middle of a line. Opening and listing always work and every
entry whose append returned is found at its number, exactly if no append succeeds behind an unfinished line and no line is
cut in the middle of a character.
-/

namespace ExvVpn.Win32Host

open RustStr LineFile Transition AggregatorInner List Option LogJson

/-! ## A log and its processes -/

inductive LogCall where
  /-- A process opens the file; the one before it has ended. -/
  | openFile
  | append (disk : DiskLogEntry)
  /-- An append that fails when some bytes of the line were written. -/
  | appendFailed (disk : DiskLogEntry) (written : Nat)
  /-- The process ends in an append, when some bytes of the line and its newline were written. -/
  | crash (disk : DiskLogEntry) (written : Nat)
  | clear

/-- The file, the cursor of the process that has it open, and the entries whose append returned with no clear since. -/
structure LogRun where
  file : Bytes
  lastSeq : Option Nat
  acknowledged : List LogEntry

/-- No file yet. -/
def LogRun.start : LogRun := ⟨[], none, []⟩

def logStep (format : LineFormat DiskLogEntry) (r : LogRun) (call : LogCall) : LogRun :=
  match call, r.lastSeq with
  | .openFile, _ => { r with lastSeq := (openFile r.file).toOption.map AggregatorInner.lastSeq }
  | _, none => r
  | .append disk, some lastSeq =>
    let (inner, entry) := append format ⟨r.file, lastSeq⟩ disk
    ⟨inner.file, some inner.lastSeq, entry :: r.acknowledged⟩
  | .appendFailed disk written, some lastSeq =>
    let inner := appendFailed format ⟨r.file, lastSeq⟩ disk written
    { r with file := inner.file, lastSeq := some inner.lastSeq }
  | .crash disk written, some _ => { r with file := r.file ++ (lineBytes format disk).take written, lastSeq := none }
  | .clear, some lastSeq =>
    let inner := clear ⟨r.file, lastSeq⟩
    ⟨inner.file, some inner.lastSeq, []⟩

/-- The log can be opened and listed, and what was acknowledged is listed at its number, by any process on the file. -/
structure Kept (format : LineFormat DiskLogEntry) (r : LogRun) : Prop where
  opened : ∃ inner, openFile r.file = .ok inner
  listed : ∀ lastSeq afterSeq limit, ∃ page, list format ⟨r.file, lastSeq⟩ afterSeq limit = .ok page
  acknowledged : ∀ entry ∈ r.acknowledged, ∀ lastSeq,
    (list format ⟨r.file, lastSeq⟩ (entry.seq - 1) 1).map LogPage.entries = .ok [entry]

/-- An append succeeds only in an empty file or behind a newline, and what an unfinished append leaves is UTF-8. -/
def Whole (format : LineFormat DiskLogEntry) (r : LogRun) (call : LogCall) : Prop :=
  match call, r.lastSeq with
  | .append _, some _ => r.file = [] ∨ r.file.getLast? = some 10
  | .appendFailed disk written, some _ => (fromUtf8 ((asBytes (format.write disk)).take written)).isSome
  | .crash disk written, some _ => (fromUtf8 ((lineBytes format disk).take written)).isSome
  | _, _ => True

namespace LogAggregatorAux

variable {format : LineFormat DiskLogEntry} {r : LogRun} {texts : List Text} {tail : Text}

/-- The file holds complete lines and an unfinished one, with the acknowledged entries at their lines. The cursor is not
behind the lines, and it is the number of lines where none is unfinished. -/
structure Holds (format : LineFormat DiskLogEntry) (r : LogRun) (texts : List Text) (tail : Text) : Prop where
  file : r.file = unlines texts ++ asBytes tail
  complete : ∀ text ∈ texts, LogLine format text
  unfinished : tail = [] ∨ LogLine format tail
  acknowledged : ∀ entry ∈ r.acknowledged, 0 < entry.seq ∧ texts[entry.seq - 1]? = some (format.write entry.disk)
  cursor : ∀ lastSeq, r.lastSeq = some lastSeq → texts.length ≤ lastSeq ∧ (tail = [] → lastSeq = texts.length)

/-- The lines that a reader finds. -/
def found (texts : List Text) (tail : Text) : List Text := texts ++ if tail = [] then [] else [tail]

section

variable (h : Holds format r texts tail)
include h

theorem Holds.plain_tail : Plain tail := by
  rcases h.unfinished with rfl | hline
  · exact fun c hc => nomatch hc
  · exact hline.plain

/-- Nothing is unfinished where the file is empty or ends with a newline. -/
theorem Holds.whole_iff : (r.file = [] ∨ r.file.getLast? = some 10) ↔ tail = [] := by
  rw [h.file]
  exact ends_with_newline_iff h.plain_tail

/-- The lines that are read. -/
theorem Holds.lines_file : lines r.file = (found texts tail).map some := by
  rw [h.file, lines_unlines_append (fun text hmem => (h.complete text hmem).plain),
    lines_of_notMem h.plain_tail.newline_notMem, fromUtf8_asBytes, found]
  split <;> simp_all

theorem Holds.logLine_found : ∀ text ∈ found texts tail, LogLine format text := by
  intro text hmem
  rcases mem_append.mp hmem with htext | htail
  · exact h.complete text htext
  split at htail
  · cases htail
  · rename_i hne
    rw [mem_singleton.mp htail]
    exact h.unfinished.resolve_left hne

theorem Holds.openFile_eq : openFile r.file = .ok ⟨r.file, (found texts tail).length⟩ := by
  rw [openFile, rebuildCursor, h.lines_file, countLines_map_some h.logLine_found, Nat.zero_add]
  rfl

/-- An acknowledged entry is the first that is read from its line on. -/
theorem Holds.room_acknowledged {entry : LogEntry} (hmem : entry ∈ r.acknowledged) :
    room 1 0 (readable format (entry.seq - 1 + 1) ((found texts tail).drop (entry.seq - 1))) = [entry] := by
  obtain ⟨hpos, hline⟩ := h.acknowledged entry hmem
  obtain ⟨hlt, heq⟩ := List.getElem?_eq_some_iff.mp hline
  have hfound : (found texts tail).drop (entry.seq - 1) =
      format.write entry.disk :: (found texts tail).drop (entry.seq - 1 + 1) := by
    have hlt' : entry.seq - 1 < (found texts tail).length := by
      rw [found, List.length_append]
      omega
    rw [List.drop_eq_getElem_cons hlt']
    simp [found, List.getElem_append_left hlt, heq]
  rw [hfound, readable, format.read_write, Nat.sub_add_cancel hpos]
  rfl

/-- What the file holds is kept. -/
theorem kept_of_holds : Kept format r where
  opened := ⟨_, h.openFile_eq⟩
  listed _ afterSeq limit := ⟨_, list_eq _ h.lines_file h.logLine_found afterSeq limit⟩
  acknowledged entry hmem lastSeq := by
    rw [list_eq ⟨r.file, lastSeq⟩ h.lines_file h.logLine_found]
    exact congrArg Except.ok (h.room_acknowledged hmem)

/-! ## What is written -/

/-- The beginning of a line leaves the complete lines as they are. -/
theorem Holds.write_part {disk : DiskLogEntry} {written : Nat} {first : Text}
    (hfirst : fromUtf8 ((asBytes (format.write disk)).take written) = some first) (lastSeq : Option Nat)
    (hlast : ∀ n, lastSeq = some n → r.lastSeq = some n) :
    Holds format { r with file := r.file ++ (asBytes (format.write disk)).take written, lastSeq } texts (tail ++ first) where
  __ := h
  file := by simp [h.file, fromUtf8_eq_some.mp hfirst]
  unfinished := by
    have hbegins := isPrefix_of_fromUtf8_take hfirst
    have hplain : Plain _ := fun c hc => format.plain_write disk c (hbegins.subset hc)
    rcases h.unfinished with rfl | hline
    · rw [nil_append, or_iff_not_imp_left]
      intro hne
      refine ⟨?_, hplain⟩
      obtain ⟨rest, hrest⟩ := hbegins
      rw [← format.head_write disk, ← hrest, head?_append_of_ne_nil _ hne]
    · exact .inr (hline.append hplain)
  cursor := by
    intro n hn
    obtain ⟨hle, heq⟩ := h.cursor n (hlast n hn)
    exact ⟨hle, fun hnil => heq (append_eq_nil_iff.mp hnil).1⟩

/-- A line with its newline ends the unfinished one. -/
theorem Holds.write_line (disk : DiskLogEntry) (lastSeq : Option Nat)
    (hlast : ∀ n, lastSeq = some n → n = texts.length + 1) (acknowledged : List LogEntry)
    (hack : ∀ entry ∈ acknowledged, entry ∈ r.acknowledged ∨ tail = [] ∧ entry = ⟨texts.length + 1, disk⟩) :
    Holds format ⟨r.file ++ lineBytes format disk, lastSeq, acknowledged⟩ (texts ++ [tail ++ format.write disk]) [] where
  file := by simp [h.file, lineBytes]
  complete := by
    intro text hmem
    rcases List.mem_append.mp hmem with hold | hnew
    · exact h.complete text hold
    rw [List.mem_singleton.mp hnew]
    rcases h.unfinished with rfl | hline
    · exact logLine_write disk
    · exact hline.append (format.plain_write disk)
  unfinished := .inl rfl
  acknowledged := by
    intro entry hmem
    rcases hack entry hmem with hold | ⟨htail, hnew⟩
    · obtain ⟨hpos, hline⟩ := h.acknowledged entry hold
      exact ⟨hpos, by rw [List.getElem?_append_left (List.getElem?_eq_some_iff.mp hline).1, hline]⟩
    · subst htail hnew
      simp
  cursor := by
    intro n hn
    have heq := hlast n hn
    simp [heq]

end

/-- Some bytes of a line and its newline are some bytes of the line, or all. -/
theorem take_lineBytes (format : LineFormat DiskLogEntry) (disk : DiskLogEntry) (written : Nat) :
    (lineBytes format disk).take written = (asBytes (format.write disk)).take written ∨
      (lineBytes format disk).take written = lineBytes format disk := by
  rcases Nat.lt_or_ge (asBytes (format.write disk)).length written with hlt | hle
  · right
    refine take_of_length_le ?_
    rw [lineBytes, length_append, length_singleton]
    omega
  · left
    rw [lineBytes, take_append_of_le_length hle]

theorem fromUtf8_lineBytes (disk : DiskLogEntry) :
    fromUtf8 (lineBytes format disk) = some (format.write disk ++ ['\n']) := by
  rw [lineBytes, fromUtf8_asBytes_append]
  exact congrArg (Option.map _) (fromUtf8_asBytes ['\n'])

section

variable (h : Holds format r texts tail)
include h

/-- A line that is cut in the middle of a character cannot be read any more. -/
theorem Holds.not_kept_of_cut {disk : DiskLogEntry} {written : Nat}
    (hcut : fromUtf8 ((asBytes (format.write disk)).take written) = none) (lastSeq : Option Nat)
    (acknowledged : List LogEntry) :
    ¬ Kept format ⟨r.file ++ (asBytes (format.write disk)).take written, lastSeq, acknowledged⟩ := by
  intro hkept
  obtain ⟨inner, hopened⟩ := hkept.opened
  have hline : 10 ∉ asBytes tail ++ (asBytes (format.write disk)).take written := by
    rw [mem_append, not_or]
    exact ⟨h.plain_tail.newline_notMem, fun hmem => (format.plain_write disk).newline_notMem (mem_of_mem_take hmem)⟩
  have hdecoded : fromUtf8 (asBytes tail ++ (asBytes (format.write disk)).take written) = none := by
    rw [fromUtf8_asBytes_append, hcut, map_none]
  have hne : asBytes tail ++ (asBytes (format.write disk)).take written ≠ [] := by
    intro hnil
    rw [hnil] at hdecoded
    exact absurd ((fromUtf8_asBytes []).symm.trans hdecoded) (by simp)
  have hnone : none ∈ lines (r.file ++ (asBytes (format.write disk)).take written) := by
    rw [h.file, append_assoc, lines_unlines_append fun text hmem => (h.complete text hmem).plain,
      lines_of_notMem hline, if_neg hne, hdecoded]
    simp
  rw [openFile, rebuildCursor, countLines_of_none hnone] at hopened
  cases hopened

/-- An entry that is appended to an unfinished line is not found at its number. -/
theorem Holds.not_kept_of_unfinished (htail : tail ≠ []) (disk : DiskLogEntry)
    {seq : Nat} (hle : texts.length ≤ seq) {acknowledged : List LogEntry} (hmem : ⟨seq + 1, disk⟩ ∈ acknowledged)
    (lastSeq : Option Nat) : ¬ Kept format ⟨r.file ++ lineBytes format disk, lastSeq, acknowledged⟩ := by
  intro hkept
  have hafter := h.write_line disk none (fun n hn => nomatch hn) [] (by simp)
  have hlisted := hkept.acknowledged _ hmem 0
  rw [list_eq ⟨_, 0⟩ hafter.lines_file hafter.logLine_found] at hlisted
  have hentries : room 1 0 (readable format (seq + 1) ((texts ++ [tail ++ format.write disk] ++ []).drop seq)) =
      [⟨seq + 1, disk⟩] := Except.ok.inj hlisted
  rw [append_nil, drop_append] at hentries
  rcases Nat.eq_or_lt_of_le hle with heq | hlt
  · -- the number is that of the joined line
    have hdrop : texts.drop seq = [] := drop_eq_nil_of_le hle
    rw [hdrop, heq, Nat.sub_self, drop_zero, nil_append, readable, readable, append_nil] at hentries
    have hread := format.read_append_write tail disk (h.unfinished.resolve_left htail).head
    cases hfound : format.read (tail ++ format.write disk) with
    | none => simp [hfound, room] at hentries
    | some other =>
      have hother : other = disk := by simpa [hfound, room] using hentries
      exact hread (hother ▸ hfound)
  · -- there is no line of that number
    have hnil : texts.drop seq ++ [tail ++ format.write disk].drop (seq - texts.length) = [] := by
      rw [append_eq_nil_iff, drop_eq_nil_iff, drop_eq_nil_iff, length_singleton]
      omega
    rw [hnil] at hentries
    cases hentries

/-! ## One call -/

/-- A call that leaves the log whole keeps what the file holds. -/
theorem holds_logStep {call : LogCall} (hwhole : Whole format r call) :
    ∃ texts tail, Holds format (logStep format r call) texts tail := by
  obtain ⟨file, lastSeq, acknowledged⟩ := r
  cases call with
  | openFile =>
    refine ⟨texts, tail, { h with cursor := ?_ }⟩
    intro n hn
    simp only [logStep, h.openFile_eq, Except.toOption, map_some, some.injEq] at hn
    subst hn
    refine ⟨by simp [found], fun htail => by simp [found, htail]⟩
  | append disk =>
    cases lastSeq with
    | none => exact ⟨texts, tail, h⟩
    | some n =>
      have htail : tail = [] := h.whole_iff.mp hwhole
      have hn := (h.cursor n rfl).2 htail
      refine ⟨_, _, h.write_line disk _ ?_ _ ?_⟩
      · intro m hm
        rw [← some.inj hm, hn]
      · intro entry hmem
        rcases mem_cons.mp hmem with hnew | hold
        · exact .inr ⟨htail, by rw [hnew, hn]⟩
        · exact .inl hold
  | appendFailed disk written =>
    cases lastSeq with
    | none => exact ⟨texts, tail, h⟩
    | some n =>
      obtain ⟨first, hfirst⟩ := isSome_iff_exists.mp hwhole
      exact ⟨_, _, h.write_part hfirst (some n) (fun m hm => hm)⟩
  | crash disk written =>
    cases lastSeq with
    | none => exact ⟨texts, tail, h⟩
    | some n =>
      simp only [Whole] at hwhole
      simp only [logStep]
      rcases take_lineBytes format disk written with htake | htake
      · rw [htake] at hwhole ⊢
        obtain ⟨first, hfirst⟩ := isSome_iff_exists.mp hwhole
        exact ⟨_, _, h.write_part hfirst none (fun m hm => nomatch hm)⟩
      · rw [htake]
        exact ⟨_, _, h.write_line disk none (fun m hm => nomatch hm) _ (fun entry hmem => .inl hmem)⟩
  | clear =>
    cases lastSeq with
    | none => exact ⟨texts, tail, h⟩
    | some n =>
      refine ⟨[], [], ⟨rfl, by simp, .inl rfl, by simp [logStep], ?_⟩⟩
      intro m hm
      simp only [logStep, clear, some.injEq] at hm
      simp [← hm]

/-- A call that does not leave the log whole loses something. -/
theorem not_kept_logStep {call : LogCall} (hwhole : ¬ Whole format r call) : ¬ Kept format (logStep format r call) := by
  obtain ⟨file, lastSeq, acknowledged⟩ := r
  cases lastSeq with
  | none => cases call <;> exact absurd trivial hwhole
  | some n =>
    cases call with
    | openFile | clear => exact absurd trivial hwhole
    | append disk =>
      have htail : tail ≠ [] := fun htail => hwhole (h.whole_iff.mpr htail)
      exact h.not_kept_of_unfinished htail disk (h.cursor n rfl).1 (mem_cons_self ..) _
    | appendFailed disk written =>
      exact h.not_kept_of_cut (not_isSome_iff_eq_none.mp hwhole) _ _
    | crash disk written =>
      have hcut := not_isSome_iff_eq_none.mp hwhole
      simp only [logStep]
      rcases take_lineBytes format disk written with htake | htake
      · rw [htake] at hcut ⊢
        exact h.not_kept_of_cut hcut _ _
      · rw [htake, fromUtf8_lineBytes] at hcut
        cases hcut

end

/-- An empty log. -/
theorem holds_start : Holds format .start [] [] := ⟨rfl, by simp, .inl rfl, by simp [LogRun.start], by simp [LogRun.start]⟩

end LogAggregatorAux

open LogAggregatorAux

/-! ## Every run -/

/-- After each call of a run the log can be opened and listed and has every acknowledged entry at its number, exactly if
each append of the run succeeds in an empty file or behind a newline, and each that fails or ends with its process leaves
UTF-8. -/
theorem log_kept_iff (format : LineFormat DiskLogEntry) (calls : List LogCall) :
    Along (logStep format) (fun r call => Kept format (logStep format r call)) .start calls ↔
      Along (logStep format) (Whole format) .start calls := by
  refine along_iff_of_invariant (I := fun r => ∃ texts tail, Holds format r texts tail) ?_ ?_ ⟨[], [], holds_start⟩ calls
  · intro r call ⟨texts, tail, h⟩ hkept
    by_contra hlost
    exact not_kept_logStep h (fun hwhole => hlost (holds_logStep h hwhole)) hkept
  · intro r call ⟨texts, tail, h⟩
    constructor
    · intro hkept
      by_contra hnot
      exact not_kept_logStep h hnot hkept
    · intro hwhole
      obtain ⟨texts', tail', hafter⟩ := holds_logStep h hwhole
      exact kept_of_holds hafter

namespace LogAggregatorAux

/-- An entry with a level and nothing else. -/
def leveled (level : Text) : DiskLogEntry := ⟨0, 0, level, [], [], [], [], .empty⟩

/-- The bytes of an entry up to its level. -/
def beforeLevel : Text :=
  '{' :: key "timestamp_ms" ++ writeInt 0 ++ ',' :: key "received_ms" ++ writeInt 0 ++
    ',' :: key "level" ++ ['"']

/-- The process ends when it has written one byte; another one appends to the file. -/
def restarted : List LogCall :=
  [.openFile, .crash (leveled "info".toList) 1, .openFile, .append (leveled "info".toList)]

/-- The process ends in the middle of a character of two bytes. -/
def cut : List LogCall := [.openFile, .crash (leveled ['é']) ((asBytes beforeLevel).length + 1)]

end LogAggregatorAux

/-- An entry behind an unfinished line is acknowledged with number 2 and not listed; a line that is cut in the middle of a
character keeps the log from being opened. -/
theorem unfinished_line_loses_entry :
    (run (logStep diskLogJson) .start restarted).acknowledged = [⟨2, leveled "info".toList⟩] ∧
      (list diskLogJson ⟨(run (logStep diskLogJson) .start restarted).file, 2⟩ 1 1).map LogPage.entries = .ok [] ∧
      openFile (run (logStep diskLogJson) .start cut).file = .error .io := by
  decide +kernel

end ExvVpn.Win32Host
