import Mathlib.Data.List.Chain
import Supervsr.Lib.Quorum
import Supervsr.SmallCluster

/-
# Supervsr.CanonicalSuffix — what `selectCanonicalSuffix` selects

The new primary of a view walks up from the committed bound and takes at each op the header that the
records of the latest log view agree on, until a negative quorum stops it.  Two results: whatever the
records say, a resolved suffix has the shape the installation relies on; and a prepare that a
replication quorum holds is never dropped, as long as no record reports a prepare of a view later than
its own log view.
-/

namespace Supervsr

variable {χ : Type} [DecidableEq χ] [Checksums χ] {header : Header χ} {record : JoinRecord χ} {cfg : Config}

/-- A record `recordJoinView` has stored. -/
def JoinRecord.Stored (cfg : Config) (record : JoinRecord χ) : Prop :=
  ∃ (holder : Replica χ) (join : JoinView χ),
    holder.recordable cfg join = true ∧ record = Replica.joinRecord join

/-- What `recordJoinView` has checked about a record it stored. -/
structure JoinRecord.Shaped (cfg : Config) (record : JoinRecord χ) : Prop where
  nonempty : record.entries.length ≠ 0
  short : record.entries.length ≤ cfg.pipelineMax + 1
  above : record.entries.length - 1 ≤ record.head
  commit_le : record.commit ≤ record.head
  checkpoint_le : record.checkpoint ≤ record.commit
  ops : ∀ {index : Nat} {entry : JoinEntry χ} {header : Header χ},
    record.entries[index]? = some entry → entry.header = some header → header.op = record.head - index

omit [DecidableEq χ] [Checksums χ] in
theorem JoinRecord.Stored.shaped (stored : record.Stored cfg) : record.Shaped cfg := by
  obtain ⟨holder, join, hrecordable, rfl⟩ := stored
  simp only [Replica.recordable, decide_eq_true_eq] at hrecordable
  obtain ⟨-, hnonempty, hshort, habove, -, hcommit, hcheckpoint, hops⟩ := hrecordable
  refine ⟨hnonempty, hshort, habove, hcommit, hcheckpoint, ?_⟩
  intro index entry header hentry hheader
  have hmem : (entry, index) ∈ join.entries.zipIdx := by
    rw [List.mem_zipIdx_iff_getElem?]
    exact hentry
  have hop := List.all_eq_true.mp hops (entry, index) hmem
  rw [hheader] at hop
  exact of_decide_eq_true hop

/-- The records of one view change. -/
structure StoredJoins (cfg : Config) (joins : List (Option (JoinRecord χ))) : Prop where
  length : joins.length = cfg.activeCount
  stored : ∀ record, some record ∈ joins → record.Stored cfg

/-- A replication quorum meets every view-change quorum, and leaves too few members for a negative one. -/
theorem Config.quorums_meet (cfg : Config) (valid : cfg.cluster.Validated cfg.activeCount) :
    cfg.activeCount < cfg.quorums.replication + cfg.quorums.viewChange ∧
      cfg.activeCount < cfg.quorums.replication + cfg.quorums.negative := by
  obtain ⟨quorums, hquorums, hmeet⟩ := valid.quorums
  rw [Config.quorums, hquorums]
  exact hmeet

namespace Replica

/-! ## One op -/

section

omit [DecidableEq χ] [Checksums χ]

theorem joinHeaderAt_eq_some {op : Nat} (reported : joinHeaderAt record op = some header) :
    op ≤ record.head ∧ ∃ entry, record.entries[record.head - op]? = some entry ∧
      entry.header = some header := by
  unfold joinHeaderAt at reported
  split at reported
  · cases reported
  · rename_i hhead
    obtain ⟨entry, hentry, hheader⟩ := Option.bind_eq_some_iff.mp reported
    exact ⟨Nat.not_lt.mp hhead, entry, hentry, hheader⟩

/-- A header a stored record reports at an op is a header of that op. -/
theorem op_of_joinHeaderAt (shaped : record.Shaped cfg) {op : Nat}
    (reported : joinHeaderAt record op = some header) : header.op = op := by
  obtain ⟨hle, entry, hentry, hheader⟩ := joinHeaderAt_eq_some reported
  rw [shaped.ops hentry hheader]
  omega

end

/-- A candidate is a header some record reports. -/
theorem candidateAmong_reported {latest bound op : Nat} :
    ∀ {rest earlier : List (Option (JoinRecord χ))} {selected : Option (Header χ × Nat)},
      (∀ best log, selected = some (best, log) →
        ∃ record, some record ∈ earlier ++ rest ∧ joinHeaderAt record op = some best) →
      candidateAmong latest bound op earlier selected rest = some (some header) →
      ∃ record, some record ∈ earlier ++ rest ∧ joinHeaderAt record op = some header := by
  intro rest
  induction rest with
  | nil =>
    intro earlier selected hselected hcandidate
    obtain ⟨⟨best, log⟩, hbest, rfl⟩ := Option.map_eq_some_iff.mp (Option.some.inj hcandidate)
    exact hselected best log hbest
  | cons record rest ih =>
    intro earlier selected hselected hcandidate
    have hassoc : earlier ++ record :: rest = earlier ++ [record] ++ rest := List.append_cons earlier record rest
    rw [hassoc] at hselected ⊢
    unfold candidateAmong at hcandidate
    split at hcandidate
    · exact ih hselected hcandidate
    rename_i reported logView hreported
    obtain ⟨joined, rfl, hjoined⟩ := Option.bind_eq_some_iff.mp hreported
    obtain ⟨_, hheader, heq⟩ := Option.map_eq_some_iff.mp hjoined
    cases heq
    -- the record just read may become the selected one
    have hnew : ∀ best log, some (reported, joined.logView) = some (best, log) →
        ∃ record, some record ∈ earlier ++ [some joined] ++ rest ∧ joinHeaderAt record op = some best := by
      intro best log heq
      cases heq
      exact ⟨joined, by simp, hheader⟩
    split at hcandidate
    · exact ih hselected hcandidate
    split at hcandidate
    · cases hcandidate
    split at hcandidate
    · exact ih hnew hcandidate
    split at hcandidate
    · exact ih hnew hcandidate
    · split at hcandidate
      · cases hcandidate
      · exact ih hselected hcandidate

/-! ## The bounds of the loop -/

/-- The fold over the valid records is the largest of the start and their values. -/
theorem foldl_max_joins {α : Type} (f : α → Nat) {step : Nat → Option α → Nat}
    (hnone : ∀ bound, step bound none = bound)
    (hsome : ∀ bound record, step bound (some record) = max bound (f record))
    (records : List (Option α)) (start : Nat) :
    start ≤ records.foldl step start ∧
      (∀ record, some record ∈ records → f record ≤ records.foldl step start) ∧
      (records.foldl step start = start ∨
        ∃ record, some record ∈ records ∧ records.foldl step start = f record) := by
  induction records generalizing start with
  | nil => exact ⟨Nat.le_refl start, fun _ hmem => absurd hmem List.not_mem_nil, .inl rfl⟩
  | cons head records ih =>
    rw [List.foldl_cons]
    obtain ⟨hstart, hrecords, hfrom⟩ := ih (step start head)
    cases head with
    | none =>
      rw [hnone] at hstart hrecords hfrom ⊢
      refine ⟨hstart, ?_, ?_⟩
      · intro record hmem
        rcases List.mem_cons.mp hmem with heq | hmem
        · cases heq
        · exact hrecords record hmem
      · rcases hfrom with h | ⟨record, hmem, h⟩
        · exact .inl h
        · exact .inr ⟨record, List.mem_cons_of_mem _ hmem, h⟩
    | some head =>
      rw [hsome] at hstart hrecords hfrom ⊢
      refine ⟨Nat.le_trans (Nat.le_max_left _ _) hstart, ?_, ?_⟩
      · intro record hmem
        rcases List.mem_cons.mp hmem with heq | hmem
        · cases heq
          exact Nat.le_trans (Nat.le_max_right _ _) hstart
        · exact hrecords record hmem
      · rcases hfrom with h | ⟨record, hmem, h⟩
        · rcases Nat.le_total start (f head) with hle | hle
          · exact .inr ⟨head, List.mem_cons_self, h.trans (Nat.max_eq_right hle)⟩
          · exact .inl (h.trans (Nat.max_eq_left hle))
        · exact .inr ⟨record, List.mem_cons_of_mem _ hmem, h⟩

section

omit [DecidableEq χ] [Checksums χ]

theorem committedBound_spec (replica : Replica χ) (cfg : Config) :
    max (max replica.commitMin replica.commitMax) replica.checkpointOp ≤ replica.committedBound cfg ∧
      ∀ record, some record ∈ replica.joins → joinCommittedBound cfg record ≤ replica.committedBound cfg :=
  ⟨(foldl_max_joins (joinCommittedBound cfg) (fun _ => rfl) (fun _ _ => rfl) replica.joins _).1,
    (foldl_max_joins (joinCommittedBound cfg) (fun _ => rfl) (fun _ _ => rfl) replica.joins _).2.1⟩

theorem maximumHead_spec (replica : Replica χ) :
    (∀ record, some record ∈ replica.joins → record.head ≤ replica.maximumHead) ∧
      (replica.maximumHead = replica.checkpointOp ∨
        ∃ record, some record ∈ replica.joins ∧ replica.maximumHead = record.head) :=
  (foldl_max_joins JoinRecord.head (fun _ => rfl) (fun _ _ => rfl) replica.joins replica.checkpointOp).2

theorem canonicalLogView_spec (replica : Replica χ) :
    (∀ record, some record ∈ replica.joins → record.logView ≤ replica.canonicalLogView) ∧
      (replica.canonicalLogView = 0 ∨
        ∃ record, some record ∈ replica.joins ∧ replica.canonicalLogView = record.logView) :=
  (foldl_max_joins JoinRecord.logView (fun _ => rfl) (fun _ _ => rfl) replica.joins 0).2

/-- The bound one record gives covers its commit, its checkpoint, the first op of its suffix and
the ops more than a pipeline below its head. -/
theorem le_joinCommittedBound (cfg : Config) (record : JoinRecord χ) :
    record.commit ≤ joinCommittedBound cfg record ∧ record.checkpoint ≤ joinCommittedBound cfg record ∧
      record.head - (record.entries.length - 1) ≤ joinCommittedBound cfg record ∧
      record.head - cfg.pipelineMax ≤ joinCommittedBound cfg record := by
  unfold joinCommittedBound
  simp only
  split_ifs <;> split <;> omega

end

/-! ## The op loop -/

/-- The loop takes `header` at `op` and goes on. -/
structure Selectable (replica : Replica χ) (cfg : Config) (committed op : Nat)
    (previous : Option (Header χ)) (header : Header χ) : Prop where
  candidate : replica.canonicalCandidate cfg op = some (some header)
  kept : ¬ (cfg.quorums.negative ≤ (replica.canonicalEvidence op (some header)).1 ∧ committed < op)
  copied : (replica.canonicalEvidence op (some header)).2 ≠ 0
  linked : ∀ earlier ∈ previous, header.parent = earlier.checksum

/-- The op after `op`, as a 64-bit word counts. -/
def nextOp (op : Nat) : Nat :=
  (op + 1) % (maxUint64 + 1)

variable {replica : Replica χ} {committed maximum op : Nat} {selected : List (Header χ)}

theorem selectFrom_of_selectable (within : op ≤ maximum)
    (selectable : replica.Selectable cfg committed op selected.head? header) (room : Nat) :
    replica.selectFrom cfg committed maximum room op selected =
      match room with
      | 0 => (.outOfRange, selected)
      | room + 1 => replica.selectFrom cfg committed maximum room (nextOp op) (header :: selected) := by
  have hlinked : ¬ ((replica.canonicalEvidence op (some header)).2 = 0 ∨
      selected.head?.any (fun previous => header.parent ≠ previous.checksum)) := by
    rw [not_or]
    refine ⟨selectable.copied, ?_⟩
    rw [Option.any_eq_true]
    rintro ⟨previous, hprevious, hdiffers⟩
    exact of_decide_eq_true hdiffers (selectable.linked previous hprevious)
  rw [selectFrom, if_neg (Nat.not_lt.mpr within), selectable.candidate]
  simp only
  rw [if_neg selectable.kept, if_neg hlinked]
  rfl

/-- One round of the loop. -/
theorem selectFrom_cases (replica : Replica χ) (cfg : Config) (committed maximum room op : Nat)
    (selected : List (Header χ)) :
    let result := replica.selectFrom cfg committed maximum room op selected
    (maximum < op ∧ result = (.resolved maximum, selected)) ∨
      (op ≤ maximum ∧ replica.canonicalCandidate cfg op = none ∧ result = (.conflict, selected)) ∨
      (op ≤ maximum ∧ committed < op ∧ result = (.resolved (op - 1), selected) ∧
        ∃ candidate, replica.canonicalCandidate cfg op = some candidate ∧
          cfg.quorums.negative ≤ (replica.canonicalEvidence op candidate).1) ∨
      result = (.unresolved, selected) ∨
      ∃ header, op ≤ maximum ∧ replica.Selectable cfg committed op selected.head? header := by
  rcases Nat.lt_or_ge maximum op with hpast | hwithin
  · left
    rw [selectFrom, if_pos hpast]
    exact ⟨hpast, rfl⟩
  right
  rw [selectFrom, if_neg (Nat.not_lt.mpr hwithin)]
  cases hcandidate : replica.canonicalCandidate cfg op with
  | none => exact .inl ⟨hwithin, rfl, rfl⟩
  | some candidate =>
    right
    simp only
    split_ifs with hnegative
    · exact .inl ⟨hwithin, hnegative.2, rfl, candidate, rfl, hnegative.1⟩
    right
    cases candidate with
    | none => exact .inl rfl
    | some header =>
      simp only
      split_ifs with hrefused
      · exact .inl rfl
      right
      rw [not_or, Option.any_eq_true] at hrefused
      refine ⟨header, hwithin, hcandidate, hnegative, hrefused.1, ?_⟩
      intro earlier hearlier
      by_contra hdiffers
      exact hrefused.2 ⟨earlier, hearlier, decide_eq_true hdiffers⟩

/-- The op the loop has come to with the headers it has taken, the last one first. -/
inductive Selected (replica : Replica χ) (cfg : Config) (committed maximum : Nat) :
    Nat → List (Header χ) → Prop where
  | start : Selected replica cfg committed maximum committed []
  | next {op : Nat} {selected : List (Header χ)} {header : Header χ}
      (before : Selected replica cfg committed maximum op selected) (within : op ≤ maximum)
      (selectable : replica.Selectable cfg committed op selected.head? header) :
      Selected replica cfg committed maximum (nextOp op) (header :: selected)

/-- How the loop ends when it has come to `op`. -/
inductive EndsWith (replica : Replica χ) (cfg : Config) (committed maximum room op : Nat)
    (selected : List (Header χ)) : Selection → Prop where
  | exhausted (past : maximum < op) :
      EndsWith replica cfg committed maximum room op selected (.resolved maximum)
  | truncated {candidate : Option (Header χ)} (within : op ≤ maximum) (above : committed < op)
      (found : replica.canonicalCandidate cfg op = some candidate)
      (negative : cfg.quorums.negative ≤ (replica.canonicalEvidence op candidate).1) :
      EndsWith replica cfg committed maximum room op selected (.resolved (op - 1))
  | conflict (within : op ≤ maximum) (disputed : replica.canonicalCandidate cfg op = none) :
      EndsWith replica cfg committed maximum room op selected .conflict
  | unresolved : EndsWith replica cfg committed maximum room op selected .unresolved
  | outOfRange {header : Header χ} (within : op ≤ maximum) (full : selected.length = room)
      (selectable : replica.Selectable cfg committed op selected.head? header) :
      EndsWith replica cfg committed maximum room op selected .outOfRange

/-- The loop takes headers until it ends, as many as there is room for. -/
theorem selectFrom_ends (room : Nat) {op : Nat} {selected : List (Header χ)}
    (hselected : Selected replica cfg committed maximum op selected) :
    ∃ last headers selection, Selected replica cfg committed maximum last headers ∧
      replica.selectFrom cfg committed maximum room op selected = (selection, headers) ∧
      EndsWith replica cfg committed maximum (selected.length + room) last headers selection ∧
      headers.length ≤ selected.length + room := by
  obtain ⟨hpast, h⟩ | ⟨hwithin, hnone, h⟩ | ⟨hwithin, habove, h, candidate, hfound, hnegative⟩ | h |
    ⟨header, hwithin, hselectable⟩ := selectFrom_cases replica cfg committed maximum room op selected
  · exact ⟨op, selected, _, hselected, h, .exhausted hpast, Nat.le_add_right _ _⟩
  · exact ⟨op, selected, _, hselected, h, .conflict hwithin hnone, Nat.le_add_right _ _⟩
  · exact ⟨op, selected, _, hselected, h, .truncated hwithin habove hfound hnegative, Nat.le_add_right _ _⟩
  · exact ⟨op, selected, _, hselected, h, .unresolved, Nat.le_add_right _ _⟩
  have htaken := selectFrom_of_selectable hwithin hselectable room
  cases room with
  | zero => exact ⟨op, selected, _, hselected, htaken, .outOfRange hwithin rfl hselectable, Nat.le_refl _⟩
  | succ room =>
    obtain ⟨last, headers, selection, hlast, heq, hends⟩ :=
      selectFrom_ends room (hselected.next hwithin hselectable)
    rw [List.length_cons, Nat.add_right_comm] at hends
    exact ⟨last, headers, selection, hlast, htaken.trans heq, hends⟩

theorem selectFrom_committedBound (replica : Replica χ) (cfg : Config) :
    ∃ last headers selection,
      Selected replica cfg (replica.committedBound cfg) replica.maximumHead last headers ∧
      replica.selectFrom cfg (replica.committedBound cfg) replica.maximumHead (cfg.pipelineMax + 1)
        (replica.committedBound cfg) [] = (selection, headers) ∧
      EndsWith replica cfg (replica.committedBound cfg) replica.maximumHead (cfg.pipelineMax + 1) last headers
        selection ∧
      headers.length ≤ cfg.pipelineMax + 1 := by
  have hends := selectFrom_ends (cfg.pipelineMax + 1)
    (.start : Selected replica cfg (replica.committedBound cfg) replica.maximumHead _ [])
  rwa [List.length_nil, Nat.zero_add] at hends

section

variable (hselected : Selected replica cfg committed maximum op selected)

include hselected

/-- The loop goes through every state it can reach, as long as there is room. -/
theorem selectFrom_eq_of_selected {room : Nat} (fits : selected.length ≤ room) :
    replica.selectFrom cfg committed maximum room committed [] =
      replica.selectFrom cfg committed maximum (room - selected.length) op selected := by
  induction hselected with
  | start => rfl
  | @next op selected header before within selectable ih =>
    rw [List.length_cons] at fits ⊢
    rw [ih (by omega), selectFrom_of_selectable within selectable]
    obtain ⟨left, hleft⟩ : ∃ left, room - selected.length = left + 1 := ⟨room - selected.length - 1, by omega⟩
    rw [hleft, show room - (selected.length + 1) = left by omega]

/-! ### What the loop has taken -/

theorem Selected.linked :
    selected.IsChain fun later earlier => later.parent = earlier.checksum := by
  induction hselected with
  | start => exact List.isChain_nil
  | next _ _ selectable ih => exact List.isChain_cons.mpr ⟨selectable.linked, ih⟩

/-- Whatever the loop takes is reported by one of the records. -/
theorem Selected.reported (hmem : header ∈ selected) :
    ∃ record op, some record ∈ replica.joins ∧ joinHeaderAt record op = some header := by
  induction hselected with
  | start => cases hmem
  | @next op _ _ _ _ selectable ih =>
    obtain rfl | hmem := List.mem_cons.mp hmem
    · obtain ⟨record, hrecord, hreported⟩ := candidateAmong_reported (by simp) selectable.candidate
      exact ⟨record, op, hrecord, hreported⟩
    · exact ih hmem

/-- The op counter is a word. -/
theorem Selected.op_eq (word : committed ≤ maxUint64) : op = (committed + selected.length) % (maxUint64 + 1) := by
  induction hselected with
  | start => exact (Nat.mod_eq_of_lt (Nat.lt_succ_of_le word)).symm
  | next _ _ _ ih => rw [nextOp, ih, List.length_cons, Nat.mod_add_mod, Nat.add_assoc]

/-- The headers stay within the maximum, unless it is the largest word and the counter goes through 0. -/
theorem Selected.within (below : committed ≤ maximum) (word : maximum ≤ maxUint64) :
    committed + selected.length ≤ maximum + 1 ∨ maximum = maxUint64 := by
  induction hselected with
  | start => exact .inl (Nat.le_succ_of_le below)
  | @next op selected header before within selectable ih =>
    rw [List.length_cons]
    rcases Nat.lt_or_ge maxUint64 (committed + selected.length) with hwrapped | hstraight
    · omega
    · have hop := before.op_eq (Nat.le_trans below word)
      rw [Nat.mod_eq_of_lt (Nat.lt_succ_of_le hstraight)] at hop
      omega

end

/-- A header in the list is the one the loop has taken at its op. -/
structure Taken (replica : Replica χ) (cfg : Config) (committed op : Nat) (header : Header χ) : Prop where
  candidate : replica.canonicalCandidate cfg op = some (some header)
  kept : ¬ (cfg.quorums.negative ≤ (replica.canonicalEvidence op (some header)).1 ∧ committed < op)
  copied : ∃ record, some record ∈ replica.joins ∧ joinCopy op (some header) record = true

theorem Selectable.taken {previous : Option (Header χ)}
    (selectable : replica.Selectable cfg committed op previous header) :
    replica.Taken cfg committed op header := by
  refine ⟨selectable.candidate, selectable.kept, ?_⟩
  have hpos := Nat.pos_of_ne_zero selectable.copied
  obtain ⟨record, hmem, hcopy⟩ := List.countP_pos_iff.mp hpos
  obtain ⟨record, rfl, hcopy⟩ := (Option.any_eq_true _ _).mp hcopy
  exact ⟨record, hmem, hcopy⟩

/-- Before the counter goes through 0 the headers are those taken at the ops up from the committed
bound. -/
theorem Selected.taken (hselected : Selected replica cfg committed maximum op selected)
    (straight : committed + selected.length ≤ maxUint64 + 1) {place : Nat}
    (hplace : selected[place]? = some header) :
    replica.Taken cfg committed (committed + (selected.length - 1 - place)) header := by
  induction hselected generalizing place with
  | start => cases hplace
  | @next op selected taken before within selectable ih =>
    rw [List.length_cons] at straight ⊢
    cases place with
    | zero =>
      cases hplace
      have hop := before.op_eq (by omega)
      rw [Nat.mod_eq_of_lt (by omega)] at hop
      rw [Nat.add_sub_cancel, Nat.sub_zero, ← hop]
      exact selectable.taken
    | succ place =>
      rw [show selected.length + 1 - 1 - (place + 1) = selected.length - 1 - place by omega]
      exact ih (by omega) hplace

/-! ## The shape of a resolved suffix -/

/-- A record reports the header as present at the op. -/
def ReportedPresent (replica : Replica χ) (op : Nat) (header : Header χ) : Prop :=
  ∃ record entry, some record ∈ replica.joins ∧ op ≤ record.head ∧
    record.entries[record.head - op]? = some entry ∧ entry.header = some header ∧ entry.present = true

theorem reportedPresent_of_joinCopy (hmem : some record ∈ replica.joins)
    (copy : joinCopy op (some header) record = true) : replica.ReportedPresent op header := by
  unfold joinCopy at copy
  split at copy
  · cases copy
  split at copy
  · cases copy
  rename_i hhead _ entry hentry
  obtain ⟨hpresent, hheader⟩ := of_decide_eq_true copy
  obtain ⟨reported, hreported, hsame⟩ := (Option.any_eq_true _ _).mp hheader
  have hsame : reported.checksum = header.checksum := by simpa using hsame
  obtain rfl := Header.checksum_injective hsame
  exact ⟨record, entry, hmem, Nat.not_lt.mp hhead, hentry, hreported, hpresent⟩

/-- What the installation of a view relies on. -/
structure SuffixShape (replica : Replica χ) (cfg : Config) (headers : List (Option (Header χ)))
    (commit head count : Nat) : Prop where
  above_replica : replica.commitMin ≤ commit ∧ replica.commitMax ≤ commit ∧ replica.checkpointOp ≤ commit
  above_records : ∀ record, some record ∈ replica.joins → record.commit ≤ commit ∧ record.checkpoint ≤ commit
  commit_le_head : commit ≤ head
  count_eq : count = head - commit + 1
  count_le : count ≤ cfg.pipelineMax + 1
  carries : ∀ place < count, ∃ header, headers[place]? = some (some header) ∧
    header.op = head - place ∧ replica.ReportedPresent (head - place) header
  linked : ∀ place child parent, place + 1 < count → headers[place]? = some (some child) →
    headers[place + 1]? = some (some parent) → child.parent = parent.checksum

/-- The places in the arrays the selection reads and writes: a record's header in `joinHeaders`, its
bit of the two masks, and the canonical headers. -/
structure IndexesInRange (replica : Replica χ) (cfg : Config) : Prop where
  joinHeaders : ∀ sender record op, replica.joins[sender]? = some (some record) → op ≤ record.head →
    record.head - op < record.entries.length →
    sender * (cfg.pipelineMax + 1) + (record.head - op) < cfg.activeCount * (cfg.pipelineMax + 1)
  bits : ∀ record op, some record ∈ replica.joins → op ≤ record.head →
    record.head - op < record.entries.length → record.head - op < 16
  canonicalHeaders : (replica.selectCanonicalSuffix cfg).1.fatalErr ≠ some .indexOutOfRange

/-- A resolved run has counted up to its head without going through 0. -/
theorem EndsWith.length_eq {room last head : Nat} {headers : List (Header χ)}
    (ends : EndsWith replica cfg committed maximum room last headers (.resolved head))
    (hselected : Selected replica cfg committed maximum last headers)
    (below : committed ≤ maximum) (word : maximum ≤ maxUint64) (short : headers.length ≤ maxUint64) :
    committed ≤ head ∧ head ≤ maximum ∧ headers.length = head - committed + 1 ∧
      committed + headers.length ≤ maxUint64 + 1 := by
  have hlast := hselected.op_eq (Nat.le_trans below word)
  have hwithin := hselected.within below word
  rcases Nat.lt_or_ge maxUint64 (committed + headers.length) with hwrapped | hstraight
  · -- the counter has gone through 0 or is about to
    rw [Nat.mod_eq_sub_mod hwrapped, Nat.mod_eq_of_lt (by omega)] at hlast
    cases ends with
    | exhausted past | truncated within above => omega
  · rw [Nat.mod_eq_of_lt (Nat.lt_succ_of_le hstraight)] at hlast
    cases ends with
    | exhausted past | truncated within above => omega

/-- A resolved selection is a run of the loop that ends with a head, and the headers it writes are those
the loop has taken. -/
theorem selectCanonicalSuffix_resolved {commit head count : Nat} (valid : cfg.cluster.Validated cfg.activeCount)
    (words : replica.maximumHead ≤ maxUint64)
    (resolved : (replica.selectCanonicalSuffix cfg).2 = some (commit, head, count)) :
    commit = replica.committedBound cfg ∧ commit ≤ head ∧ count = head - commit + 1 ∧
      count ≤ cfg.pipelineMax + 1 ∧
      ∃ last headers, Selected replica cfg commit replica.maximumHead last headers ∧
        EndsWith replica cfg commit replica.maximumHead (cfg.pipelineMax + 1) last headers (.resolved head) ∧
        headers.length = count ∧ ∀ place (hplace : place < headers.length),
          (replica.selectCanonicalSuffix cfg).1.canonicalHeaders[place]? = some (some headers[place]) ∧
            replica.Taken cfg commit (head - place) headers[place] := by
  obtain ⟨last, headers, selection, hselected, hrun, hends, hlength⟩ := selectFrom_committedBound replica cfg
  unfold selectCanonicalSuffix at resolved ⊢
  simp only [hrun] at resolved ⊢
  split_ifs at resolved ⊢ with hrefused
  simp only [not_or, Nat.not_lt, Nat.not_le] at hrefused
  cases selection with
  | unresolved | conflict | outOfRange => cases resolved
  | resolved last =>
    cases resolved
    have hpipeline : cfg.pipelineMax ≤ 15 := valid.pipeline_le
    obtain ⟨hhead, -, hcount, hstraight⟩ :=
      hends.length_eq hselected hrefused.2.1 words (Nat.le_trans hlength (by unfold maxUint64; omega))
    refine ⟨rfl, hhead, hcount, hlength, _, _, hselected, hends, rfl, fun place hplace => ⟨?_, ?_⟩⟩
    · simp only [overwriteCanonicalHeaders]
      rw [List.getElem?_append_left (by rwa [List.length_map]), List.getElem?_map,
        List.getElem?_eq_getElem hplace, Option.map_some]
    · have htaken := hselected.taken hstraight (List.getElem?_eq_getElem hplace)
      rwa [show replica.committedBound cfg + (headers.length - 1 - place) = head - place by omega] at htaken

theorem Taken.op_eq (stored : StoredJoins cfg replica.joins) (taken : replica.Taken cfg committed op header) :
    header.op = op := by
  obtain ⟨record, hmem, hreported⟩ := candidateAmong_reported (by simp) taken.candidate
  exact op_of_joinHeaderAt (stored.stored record hmem).shaped hreported

/-- A resolved selection has the shape, whatever the records say. -/
theorem suffixShape_of_resolved {commit head count : Nat} (valid : cfg.cluster.Validated cfg.activeCount)
    (stored : StoredJoins cfg replica.joins) (words : replica.maximumHead ≤ maxUint64)
    (resolved : (replica.selectCanonicalSuffix cfg).2 = some (commit, head, count)) :
    replica.SuffixShape cfg (replica.selectCanonicalSuffix cfg).1.canonicalHeaders commit head count := by
  obtain ⟨rfl, hhead, hcount, hshort, last, headers, hselected, -, rfl, hcells⟩ :=
    selectCanonicalSuffix_resolved valid words resolved
  obtain ⟨hbound, hrecords⟩ := replica.committedBound_spec cfg
  refine ⟨by omega, ?_, hhead, hcount, hshort, ?_, ?_⟩
  · intro record hmem
    have hrecord := hrecords record hmem
    have hle := le_joinCommittedBound cfg record
    omega
  · intro place hplace
    obtain ⟨hcell, htaken⟩ := hcells place hplace
    obtain ⟨record, hmem, hcopy⟩ := htaken.copied
    exact ⟨headers[place], hcell, htaken.op_eq stored, reportedPresent_of_joinCopy hmem hcopy⟩
  · intro place child parent hplace hchild hparent
    cases (hcells place (Nat.lt_of_succ_lt hplace)).1.symm.trans hchild
    cases (hcells (place + 1) hplace).1.symm.trans hparent
    exact List.isChain_iff_getElem.mp hselected.linked place hplace

/-- The records make the loop take a header at one op more than the pipeline allows, which it can only
where its counter goes from the largest op on to 0. -/
def Overruns (replica : Replica χ) (cfg : Config) : Prop :=
  replica.maximumHead = maxUint64 ∧
    ∃ last headers, Selected replica cfg (replica.committedBound cfg) replica.maximumHead last headers ∧
      headers.length = cfg.pipelineMax + 2

theorem Selected.committed_le (hselected : Selected replica cfg committed maximum op selected)
    (nonempty : selected ≠ []) : committed ≤ maximum := by
  induction hselected with
  | start => exact absurd rfl nonempty
  | @next op selected header before within selectable ih =>
    cases before with
    | start => exact within
    | next => exact ih (List.cons_ne_nil _ _)

section

omit [DecidableEq χ] [Checksums χ]

theorem not_malformed (stored : StoredJoins cfg replica.joins) :
    ¬ replica.joins.any (fun record => record.any fun record =>
      record.entries.length = 0 ∨ record.head < record.entries.length - 1) := by
  rw [List.any_eq_true]
  rintro ⟨record, hmem, hbad⟩
  obtain ⟨record, rfl, hbad⟩ := (Option.any_eq_true _ _).mp hbad
  have hshaped := (stored.stored record hmem).shaped
  have hnonempty := hshaped.nonempty
  have habove := hshaped.above
  have hbad := of_decide_eq_true hbad
  omega

/-- No record reaches more than a pipeline above the committed bound. -/
theorem maximumHead_le (replica : Replica χ) (cfg : Config) :
    replica.maximumHead ≤ replica.committedBound cfg + cfg.pipelineMax := by
  obtain ⟨hbound, hrecords⟩ := replica.committedBound_spec cfg
  obtain h | ⟨record, hmem, h⟩ := replica.maximumHead_spec.2
  · omega
  · have hrecord := hrecords record hmem
    have hle := le_joinCommittedBound cfg record
    omega

end

theorem fatalErr_of_overruns (running : replica.fatalErr = none) (stored : StoredJoins cfg replica.joins)
    (overruns : replica.Overruns cfg) :
    (replica.selectCanonicalSuffix cfg).1.fatalErr = some .indexOutOfRange := by
  obtain ⟨-, last, headers, hselected, hlength⟩ := overruns
  have hbelow := hselected.committed_le (by rintro rfl; cases hlength)
  cases hselected with
  | start => cases hlength
  | @next op headers header before within selectable =>
    rw [List.length_cons] at hlength
    have hfull : headers.length = cfg.pipelineMax + 1 := by omega
    have hrun := selectFrom_eq_of_selected before (Nat.le_of_eq hfull)
    rw [hfull, Nat.sub_self, selectFrom_of_selectable within selectable] at hrun
    have hmaximum := replica.maximumHead_le cfg
    unfold selectCanonicalSuffix
    simp only [hrun]
    rw [if_neg]
    · simp [fail, overwriteCanonicalHeaders, running]
    · rw [not_or, not_or]
      exact ⟨not_malformed stored, by omega, by omega⟩

theorem overruns_of_fatalErr (running : replica.fatalErr = none) (words : replica.maximumHead ≤ maxUint64)
    (failed : (replica.selectCanonicalSuffix cfg).1.fatalErr = some .indexOutOfRange) :
    replica.Overruns cfg := by
  obtain ⟨last, headers, selection, hselected, hrun, hends, -⟩ := selectFrom_committedBound replica cfg
  unfold selectCanonicalSuffix at failed
  simp only [hrun] at failed
  split_ifs at failed with hrefused
  · rw [running] at failed
    cases failed
  simp only [not_or, Nat.not_lt, Nat.not_le] at hrefused
  cases hends with
  | exhausted past | truncated within above | unresolved => simp [overwriteCanonicalHeaders, running] at failed
  | conflict within disputed => simp [overwriteCanonicalHeaders, fail, running] at failed
  | outOfRange within full selectable =>
    have hover := hselected.next within selectable
    have hwithin := hover.within hrefused.2.1 words
    rw [List.length_cons, full] at hwithin
    refine ⟨by omega, _, _, hover, ?_⟩
    rw [List.length_cons, full]

/-- Whatever the stored records say, the selection stays inside its arrays and a resolved suffix has its
shape, unless the records let the op counter run through 0. -/
theorem selectCanonicalSuffix_shaped_iff (replica : Replica χ) {cfg : Config}
    (valid : cfg.cluster.Validated cfg.activeCount) (running : replica.fatalErr = none)
    (stored : StoredJoins cfg replica.joins) (words : replica.maximumHead ≤ maxUint64) :
    (replica.IndexesInRange cfg ∧ ∀ commit head count,
      (replica.selectCanonicalSuffix cfg).2 = some (commit, head, count) →
        replica.SuffixShape cfg (replica.selectCanonicalSuffix cfg).1.canonicalHeaders commit head count) ↔
      ¬ replica.Overruns cfg := by
  constructor
  · rintro ⟨inRange, -⟩ overruns
    exact inRange.canonicalHeaders (fatalErr_of_overruns running stored overruns)
  intro straight
  refine ⟨⟨?_, ?_, ?_⟩, fun commit head count => suffixShape_of_resolved valid stored words⟩
  · intro sender record op hrecord _ hindex
    have hsender := List.getElem?_eq_some_iff.mp hrecord |>.1
    have hshort := (stored.stored record (List.mem_of_getElem? hrecord)).shaped.short
    rw [stored.length] at hsender
    calc sender * (cfg.pipelineMax + 1) + (record.head - op)
        < sender * (cfg.pipelineMax + 1) + (cfg.pipelineMax + 1) := by omega
      _ = (sender + 1) * (cfg.pipelineMax + 1) := (Nat.succ_mul _ _).symm
      _ ≤ cfg.activeCount * (cfg.pipelineMax + 1) := Nat.mul_le_mul_right _ hsender
  · intro record op hmem _ hindex
    have hshort := (stored.stored record hmem).shaped.short
    have hpipeline : cfg.pipelineMax ≤ 15 := valid.pipeline_le
    omega
  · intro failed
    exact straight (overruns_of_fatalErr running words failed)

/-- A frame that reports every header as present. -/
def suffixJoin (author logView head : Nat) (headers : List (Header χ)) : JoinView χ where
  view := logView + 1
  author := author
  head := head
  commit := 0
  checkpoint := 0
  logView := logView
  entries := headers.map fun header => ⟨some header, true, false⟩

/-- A prepare at op 1 of the given view. -/
def firstPrepare (view : Nat) : Header Digest :=
  .linkedTo (Header.root : Header Digest).checksum 1 view

/-- Two members join view 1, each with a prepare above the root. -/
def joinedByTwo (view view' : Nat) : Replica Digest :=
  { Replica.fresh threeMembers with
    joins := [
      some (joinRecord (suffixJoin 0 0 1 [firstPrepare view, .root])),
      some (joinRecord (suffixJoin 1 0 1 [firstPrepare view', .root])),
      none] }

theorem joinedByTwo_stored (view view' : Nat) : StoredJoins threeMembers (joinedByTwo view view').joins := by
  refine ⟨rfl, ?_⟩
  intro record hmem
  simp only [joinedByTwo, List.mem_cons, Option.some.injEq, List.not_mem_nil, or_false,
    reduceCtorEq] at hmem
  rcases hmem with rfl | rfl
  · exact ⟨.fresh threeMembers, _, rfl, rfl⟩
  · exact ⟨.fresh threeMembers, _, rfl, rfl⟩

/-- The two members' suffix is resolved and has its shape. -/
theorem joinedByTwo_shaped :
    ((joinedByTwo 0 0).selectCanonicalSuffix threeMembers).2 = some (0, 1, 2) ∧
      (joinedByTwo 0 0).SuffixShape threeMembers
        ((joinedByTwo 0 0).selectCanonicalSuffix threeMembers).1.canonicalHeaders 0 1 2 := by
  have hresolved : ((joinedByTwo 0 0).selectCanonicalSuffix threeMembers).2 = some (0, 1, 2) := by decide +kernel
  have hstraight : ¬ (joinedByTwo 0 0).Overruns threeMembers := by
    rintro ⟨hmaximum, -⟩
    revert hmaximum
    decide +kernel
  exact ⟨hresolved, ((selectCanonicalSuffix_shaped_iff (joinedByTwo 0 0) threeMembers_validated rfl (joinedByTwo_stored 0 0)
    (by decide +kernel)).mpr hstraight).2 0 1 2 hresolved⟩

/-- A member reports the two largest ops, and another one an op 0 that is linked to the largest. -/
def overrunning : Replica Digest :=
  let below := Header.linkedTo ⟨0⟩ (maxUint64 - 1) 0
  let top := Header.linkedTo below.checksum maxUint64 0
  let bottom := Header.linkedTo top.checksum 0 0
  { Replica.fresh threeMembers with
    joins := [
      some (joinRecord (suffixJoin 0 0 maxUint64 [top, below])),
      some (joinRecord (suffixJoin 1 0 0 [bottom])),
      none] }

/-- The loop goes on from the largest op to op 0 and writes past the canonical headers. -/
theorem overrunning_out_of_range :
    StoredJoins threeMembers overrunning.joins ∧ overrunning.fatalErr = none ∧
      overrunning.maximumHead ≤ maxUint64 ∧
      (overrunning.selectCanonicalSuffix threeMembers).1.fatalErr = some .indexOutOfRange ∧
      ¬ overrunning.IndexesInRange threeMembers := by
  have hfailed : (overrunning.selectCanonicalSuffix threeMembers).1.fatalErr = some .indexOutOfRange := by
    decide +kernel
  refine ⟨⟨rfl, ?_⟩, rfl, by decide +kernel, hfailed, fun inRange => inRange.canonicalHeaders hfailed⟩
  intro record hmem
  simp only [overrunning, List.mem_cons, Option.some.injEq, List.not_mem_nil, or_false, reduceCtorEq] at hmem
  rcases hmem with rfl | rfl
  · exact ⟨.fresh threeMembers, _, by decide +kernel, rfl⟩
  · exact ⟨.fresh threeMembers, _, by decide +kernel, rfl⟩

/-! ## What a replication quorum holds is kept -/

/-- A record of the given log view reports the header. -/
def Reports (latest op : Nat) (records : List (Option (JoinRecord χ))) (header : Header χ) : Prop :=
  ∃ record, some record ∈ records ∧ record.logView = latest ∧ joinHeaderAt record op = some header

/-- The candidate at an op above the committed bound, as the records of the latest log view decide it. -/
inductive LatestCandidate (latest op : Nat) (records : List (Option (JoinRecord χ))) :
    Option (Option (Header χ)) → Prop where
  | conflict {first second : Header χ} (reported : Reports latest op records first)
      (reported' : Reports latest op records second) (sameView : first.view = second.view)
      (differ : first ≠ second) : LatestCandidate latest op records none
  | absent (unreported : ∀ header, ¬ Reports latest op records header) :
      LatestCandidate latest op records (some none)
  | found {best : Header χ} (reported : Reports latest op records best)
      (newest : ∀ header, Reports latest op records header →
        header.view ≤ best.view ∧ (header.view = best.view → header = best)) :
      LatestCandidate latest op records (some (some best))

section Newest

variable {latest bound : Nat} {records rest : List (Option (JoinRecord χ))}
  {best : Header χ} {candidate : Option (Header χ × Nat)}

section

omit [DecidableEq χ] [Checksums χ]

theorem reports_append :
    Reports latest op (records ++ rest) header ↔
      Reports latest op records header ∨ Reports latest op rest header := by
  simp only [Reports, List.mem_append, or_and_right, exists_or]

theorem reports_singleton {other : Header χ} (log : record.logView = latest)
    (reported : joinHeaderAt record op = some header) :
    Reports latest op [some record] other ↔ other = header := by
  simp only [Reports, List.mem_singleton, Option.some.injEq, exists_eq_left, log, reported, true_and]
  exact eq_comm

end

/-- What the sender loop keeps: the newest of the headers that records of the latest log view have
reported so far. -/
structure Newest (latest op : Nat) (records : List (Option (JoinRecord χ)))
    (candidate : Option (Header χ × Nat)) : Prop where
  reported : ∀ best log, candidate = some (best, log) → log = latest ∧ Reports latest op records best
  newest : ∀ header, Reports latest op records header → ∃ best, candidate = some (best, latest) ∧
    header.view ≤ best.view ∧ (header.view = best.view → header = best)

section

omit [DecidableEq χ] [Checksums χ]

section

variable (kept : Newest latest op records candidate)

include kept

theorem Newest.latestCandidate :
    LatestCandidate latest op records (some (candidate.map Prod.fst)) := by
  cases candidate with
  | none =>
    apply LatestCandidate.absent
    intro header hreported
    obtain ⟨best, hbest, -⟩ := kept.newest header hreported
    cases hbest
  | some candidate =>
    obtain ⟨best, log⟩ := candidate
    obtain ⟨rfl, hbest⟩ := kept.reported best log rfl
    refine LatestCandidate.found hbest ?_
    intro header hreported
    obtain ⟨best', heq, hview⟩ := kept.newest header hreported
    cases heq
    exact hview

/-- A record that reports nothing, or is of an older log view, is passed over. -/
theorem Newest.skip {record : Option (JoinRecord χ)}
    (silent : ∀ header, ¬ Reports latest op [record] header) :
    Newest latest op (records ++ [record]) candidate := by
  constructor
  · intro best log heq
    exact ⟨(kept.reported best log heq).1, reports_append.mpr (.inl (kept.reported best log heq).2)⟩
  intro header hreported
  rcases reports_append.mp hreported with hreported | hreported
  · exact kept.newest header hreported
  · exact absurd hreported (silent header)

/-- A header newer than the one kept takes its place. -/
theorem Newest.take (log : record.logView = latest)
    (reported : joinHeaderAt record op = some header)
    (newer : ∀ best log, candidate = some (best, log) → best.view < header.view) :
    Newest latest op (records ++ [some record]) (some (header, latest)) := by
  constructor
  · intro best log' heq
    cases heq
    exact ⟨rfl, reports_append.mpr (.inr ((reports_singleton log reported).mpr rfl))⟩
  intro other hother
  refine ⟨header, rfl, ?_⟩
  rcases reports_append.mp hother with hother | hother
  · obtain ⟨best, hbest, hle, -⟩ := kept.newest other hother
    have hlt := newer best latest hbest
    exact ⟨by omega, by omega⟩
  · rw [(reports_singleton log reported).mp hother]
    exact ⟨Nat.le_refl _, fun _ => rfl⟩

end

/-- A header that is older, or the same one, changes nothing. -/
theorem Newest.keep (kept : Newest latest op records (some (best, latest)))
    (log : record.logView = latest) (reported : joinHeaderAt record op = some header)
    (older : header.view ≤ best.view) (same : header.view = best.view → header = best) :
    Newest latest op (records ++ [some record]) (some (best, latest)) := by
  constructor
  · intro best' log' heq
    exact ⟨(kept.reported best' log' heq).1, reports_append.mpr (.inl (kept.reported best' log' heq).2)⟩
  intro other hother
  rcases reports_append.mp hother with hother | hother
  · exact kept.newest other hother
  · rw [(reports_singleton log reported).mp hother]
    exact ⟨best, rfl, older, same⟩

end

omit [DecidableEq χ] in
theorem LatestCandidate.of_conflict {first second : Header χ} (reported : Reports latest op records first)
    (reported' : Reports latest op records second) (sameView : first.view = second.view)
    (differ : first.checksum ≠ second.checksum) : LatestCandidate latest op records none := by
  refine LatestCandidate.conflict reported reported' sameView ?_
  rintro rfl
  exact differ rfl

/-- Above the committed bound the sender loop looks at the records of the latest log view only. -/
theorem candidateAmong_latest (above : bound < op) :
    ∀ (rest : List (Option (JoinRecord χ))) {earlier : List (Option (JoinRecord χ))}
      {candidate : Option (Header χ × Nat)}, Newest latest op earlier candidate →
      LatestCandidate latest op (earlier ++ rest) (candidateAmong latest bound op earlier candidate rest) := by
  intro rest
  induction rest with
  | nil =>
    intro earlier candidate hkept
    rw [List.append_nil, candidateAmong]
    exact hkept.latestCandidate
  | cons record rest ih =>
    intro earlier candidate hkept
    rw [List.append_cons]
    unfold candidateAmong
    split
    · rename_i hsilent
      apply ih
      apply hkept.skip
      rintro header ⟨joined, hmem, -, hheader⟩
      rw [← List.mem_singleton.mp hmem, Option.bind_some, hheader] at hsilent
      cases hsilent
    rename_i header logView hreported
    obtain ⟨joined, rfl, hjoined⟩ := Option.bind_eq_some_iff.mp hreported
    obtain ⟨_, hheader, heq⟩ := Option.map_eq_some_iff.mp hjoined
    cases heq
    split_ifs with hstale hconflict
    · apply ih
      apply hkept.skip
      rintro header ⟨joined', hmem, hlog, -⟩
      cases List.mem_singleton.mp hmem
      exact hstale.1 hlog
    · -- an earlier record of the latest log view disagrees
      obtain ⟨hlog, hany⟩ := hconflict
      obtain ⟨other, hmem, hother⟩ := List.any_eq_true.mp hany
      obtain ⟨other, rfl, hother⟩ := (Option.any_eq_true _ _).mp hother
      obtain ⟨hotherLog, hprior⟩ := of_decide_eq_true hother
      obtain ⟨prior, hprior, hdiffer⟩ := (Option.any_eq_true _ _).mp hprior
      obtain ⟨hview, hchecksum⟩ := of_decide_eq_true hdiffer
      exact .of_conflict ⟨other, by simp [hmem], hotherLog, hprior⟩ ⟨joined, by simp, hlog, hheader⟩
        hview hchecksum
    · have hlog : joined.logView = latest := by
        by_contra hother
        exact hstale ⟨hother, above⟩
      cases candidate with
      | none =>
        rw [hlog]
        apply ih
        apply hkept.take hlog hheader
        intro best log heq
        cases heq
      | some candidate =>
        obtain ⟨best, log⟩ := candidate
        obtain ⟨rfl, hbest⟩ := hkept.reported best log rfl
        simp only
        split_ifs with hnewer hdiffers
        · rw [hlog]
          apply ih
          apply hkept.take hlog hheader
          intro best' log' heq
          cases heq
          omega
        · have hnew : Reports log op [some joined] header := (reports_singleton hlog hheader).mpr rfl
          refine .of_conflict ?_ ?_ hdiffers.2.1 hdiffers.2.2
          · exact reports_append.mpr (.inl (reports_append.mpr (.inr hnew)))
          · exact reports_append.mpr (.inl (reports_append.mpr (.inl hbest)))
        · apply ih
          apply hkept.keep hlog hheader (by omega)
          intro hview
          by_contra hne
          exact hdiffers ⟨hlog, hview, fun hsame => hne (Header.checksum_injective hsame)⟩

end Newest

/-- `canonicalCandidate` above the committed bound. -/
theorem canonicalCandidate_latest (above : replica.committedBound cfg < op) :
    LatestCandidate replica.canonicalLogView op replica.joins (replica.canonicalCandidate cfg op) := by
  have hstart : Newest replica.canonicalLogView op ([] : List (Option (JoinRecord χ))) none := by
    constructor
    · intro best log heq
      cases heq
    · rintro header ⟨record, hmem, -⟩
      cases hmem
  exact candidateAmong_latest above replica.joins hstart

/-- A replication quorum holds the header at the op, as far as its members have joined, and so does every
member that has since installed a later view. -/
structure Held (replica : Replica χ) (cfg : Config) (op : Nat) (header : Header χ) : Prop where
  quorum : ∃ holder : Nat → Bool, cfg.quorums.replication ≤ (List.range cfg.activeCount).countP holder ∧
    ∀ sender record, holder sender = true → replica.joins[sender]? = some (some record) →
      header.view ≤ record.logView ∧ op ≤ record.head ∧
        record.entries[record.head - op]? = some ⟨some header, true, false⟩
  later : ∀ record, some record ∈ replica.joins → header.view < record.logView →
    joinHeaderAt record op = some header

/-- Where the latest log view is the header's own view, no record of it reports a newer prepare at the op. -/
def Unsurpassed (replica : Replica χ) (op : Nat) (header : Header χ) : Prop :=
  replica.canonicalLogView = header.view →
    ∀ other, Reports replica.canonicalLogView op replica.joins other → other.view ≤ header.view

section

omit [DecidableEq χ] [Checksums χ]

theorem joinHeaderAt_of_entry {entry : JoinEntry χ} (reaches : op ≤ record.head)
    (hentry : record.entries[record.head - op]? = some entry) : joinHeaderAt record op = entry.header := by
  rw [joinHeaderAt, if_neg (Nat.not_lt.mpr reaches), hentry, Option.bind_some]

/-- One of the holders has joined. -/
theorem exists_joined_holder {holder : Nat → Bool} (valid : cfg.cluster.Validated cfg.activeCount)
    (length : replica.joins.length = cfg.activeCount)
    (joined : cfg.quorums.viewChange ≤ replica.joins.countP Option.isSome)
    (enough : cfg.quorums.replication ≤ (List.range cfg.activeCount).countP holder) :
    ∃ sender record, holder sender = true ∧ replica.joins[sender]? = some (some record) := by
  have hmeet := (cfg.quorums_meet valid).1
  rw [Quorum.countP_eq_countP_range Option.isSome none, length] at joined
  have hmany : (List.range cfg.activeCount).length < (List.range cfg.activeCount).countP holder +
      (List.range cfg.activeCount).countP fun place => (replica.joins.getD place none).isSome := by
    rw [List.length_range]
    omega
  obtain ⟨sender, hsender, hholder, hjoined⟩ := Quorum.exists_common hmany
  obtain ⟨record, hrecord⟩ := Option.isSome_iff_exists.mp hjoined
  refine ⟨sender, record, hholder, ?_⟩
  rw [List.mem_range, ← length] at hsender
  rw [List.getD_eq_getElem?_getD, List.getElem?_eq_getElem hsender, Option.getD_some] at hrecord
  rw [List.getElem?_eq_getElem hsender, hrecord]

/-- A record of the latest log view reports a header that a quorum holds, and none reports a newer one. -/
theorem reports_of_held (valid : cfg.cluster.Validated cfg.activeCount) (stored : StoredJoins cfg replica.joins)
    (joined : cfg.quorums.viewChange ≤ replica.joins.countP Option.isSome)
    (held : replica.Held cfg op header) (newest : replica.Unsurpassed op header) :
    op ≤ replica.maximumHead ∧ Reports replica.canonicalLogView op replica.joins header ∧
      ∀ other, Reports replica.canonicalLogView op replica.joins other → other.view ≤ header.view := by
  obtain ⟨holder, henough, hholders⟩ := held.quorum
  obtain ⟨sender, record, hholder, hrecord⟩ := exists_joined_holder valid stored.length joined henough
  obtain ⟨hview, hreaches, hentry⟩ := hholders sender record hholder hrecord
  have hmem := List.mem_of_getElem? hrecord
  have hlatest := replica.canonicalLogView_spec.1 record hmem
  refine ⟨Nat.le_trans hreaches (replica.maximumHead_spec.1 record hmem), ?_⟩
  rcases Nat.lt_or_ge header.view replica.canonicalLogView with hlater | hsame
  · -- some member has installed a later view, and all that have report the header
    constructor
    · rcases replica.canonicalLogView_spec.2 with hzero | ⟨latest, hlatestMem, heq⟩
      · omega
      · exact ⟨latest, hlatestMem, heq.symm, held.later latest hlatestMem (by omega)⟩
    · rintro other ⟨latest, hlatestMem, hlog, hother⟩
      have hheader := held.later latest hlatestMem (by omega)
      rw [Option.some.inj (hother.symm.trans hheader)]
  · constructor
    · exact ⟨record, hmem, by omega, joinHeaderAt_of_entry hreaches hentry⟩
    · exact newest (by omega)

end

/-- A header a quorum holds is the candidate, or records of the latest log view are in conflict. -/
theorem canonicalCandidate_of_held (valid : cfg.cluster.Validated cfg.activeCount)
    (stored : StoredJoins cfg replica.joins)
    (joined : cfg.quorums.viewChange ≤ replica.joins.countP Option.isSome)
    (above : replica.committedBound cfg < op) (held : replica.Held cfg op header)
    (newest : replica.Unsurpassed op header) :
    replica.canonicalCandidate cfg op = some (some header) ∨
      (replica.canonicalCandidate cfg op = none ∧ ∃ first second,
        Reports replica.canonicalLogView op replica.joins first ∧
        Reports replica.canonicalLogView op replica.joins second ∧
        first.view = second.view ∧ first ≠ second) := by
  obtain ⟨-, hreported, hnewest⟩ := reports_of_held valid stored joined held newest
  have hcandidate := canonicalCandidate_latest above
  generalize replica.canonicalCandidate cfg op = candidate at hcandidate
  cases hcandidate with
  | conflict first second view differ => exact .inr ⟨rfl, _, _, first, second, view, differ⟩
  | absent unreported => exact absurd hreported (unreported header)
  | @found best reported newest =>
    left
    obtain ⟨hle, hsame⟩ := newest header hreported
    rw [hsame (Nat.le_antisymm hle (hnewest best reported))]

/-- A joined holder does not count against the header it holds. -/
theorem joinNegative_of_holder {latest : Nat} (reaches : op ≤ record.head)
    (hentry : record.entries[record.head - op]? = some ⟨some header, true, false⟩) :
    joinNegative latest op (some header) record = false := by
  rw [joinNegative, if_neg (Nat.not_lt.mpr reaches), hentry]
  simp

/-- A negative quorum cannot form against a header a replication quorum holds. -/
theorem negatives_lt_of_held (valid : cfg.cluster.Validated cfg.activeCount)
    (stored : StoredJoins cfg replica.joins) (held : replica.Held cfg op header) :
    (replica.canonicalEvidence op (some header)).1 < cfg.quorums.negative := by
  obtain ⟨holder, henough, hholders⟩ := held.quorum
  have hmeet := (cfg.quorums_meet valid).2
  have hdisjoint : ∀ place ∈ List.range cfg.activeCount,
      (replica.joins.getD place none).any (joinNegative replica.canonicalLogView op (some header)) = true →
      holder place = false := by
    intro place _ hnegative
    by_contra hholder
    rw [Bool.not_eq_false] at hholder
    obtain ⟨record, hrecord, hnegative⟩ := (Option.any_eq_true _ _).mp hnegative
    have hcell : replica.joins[place]? = some (some record) := by
      rw [List.getD_eq_getElem?_getD] at hrecord
      cases hplace : replica.joins[place]? with
      | none => rw [hplace] at hrecord; cases hrecord
      | some cell => rw [hplace] at hrecord; exact congrArg some hrecord
    obtain ⟨-, hreaches, hentry⟩ := hholders place record hholder hcell
    rw [joinNegative_of_holder hreaches hentry] at hnegative
    cases hnegative
  have hfit := Quorum.countP_add_countP_le_length hdisjoint
  rw [List.length_range] at hfit
  unfold canonicalEvidence
  rw [Quorum.countP_eq_countP_range _ none, stored.length]
  omega

/-- A prepare that a replication quorum holds survives the selection, provided that no record whose log view
is the prepare's own view and the latest reports a newer one at its op; and where records of one log view
agree on the prepares of one view, its op is not in conflict. -/
theorem selectCanonicalSuffix_keeps_held (replica : Replica χ) {cfg : Config}
    (valid : cfg.cluster.Validated cfg.activeCount) (stored : StoredJoins cfg replica.joins)
    (words : replica.maximumHead ≤ maxUint64)
    (joined : cfg.quorums.viewChange ≤ replica.joins.countP Option.isSome)
    (last : Nat) (log : Nat → Header χ)
    (held : ∀ op, replica.committedBound cfg < op → op ≤ last → replica.Held cfg op (log op))
    (newest : ∀ op, replica.committedBound cfg < op → op ≤ last → replica.Unsurpassed op (log op)) :
    (∀ commit head count, (replica.selectCanonicalSuffix cfg).2 = some (commit, head, count) →
      last ≤ head ∧
        ∀ op, replica.committedBound cfg < op → op ≤ last →
          (replica.selectCanonicalSuffix cfg).1.canonicalHeaders[head - op]? = some (some (log op))) ∧
      ((∀ op first second header header', some first ∈ replica.joins → some second ∈ replica.joins →
          first.logView = second.logView → joinHeaderAt first op = some header →
          joinHeaderAt second op = some header' → header.view = header'.view →
          header.checksum = header'.checksum) →
        ∀ op, replica.committedBound cfg < op → op ≤ last → replica.canonicalCandidate cfg op ≠ none) := by
  constructor
  · intro commit head count resolved
    obtain ⟨rfl, hhead, hcount, -, stop, headers, hselected, hends, rfl, hcells⟩ :=
      selectCanonicalSuffix_resolved valid words resolved
    have hlast : last ≤ head := by
      by_contra hcut
      rw [Nat.not_le] at hcut
      -- the loop would have stopped at an op that a quorum holds
      have hnext := held (head + 1) (by omega) hcut
      have hnewest := newest (head + 1) (by omega) hcut
      have hreach := (reports_of_held valid stored joined hnext hnewest).1
      cases hends with
      | exhausted past => omega
      | @truncated candidate within above found negative =>
        rw [Nat.sub_add_cancel (Nat.lt_of_le_of_lt (Nat.zero_le _) above)] at hnext hnewest
        rcases canonicalCandidate_of_held valid stored joined above hnext hnewest with
          hcandidate | ⟨hnone, -⟩
        · cases found.symm.trans hcandidate
          exact Nat.not_lt.mpr negative (negatives_lt_of_held valid stored hnext)
        · cases found.symm.trans hnone
    refine ⟨hlast, ?_⟩
    intro op habove hop
    obtain ⟨hcell, htaken⟩ := hcells (head - op) (by omega)
    rw [Nat.sub_sub_self (Nat.le_trans hop hlast)] at htaken
    rw [hcell]
    rcases canonicalCandidate_of_held valid stored joined habove (held op habove hop)
      (newest op habove hop) with hcandidate | ⟨hnone, -⟩
    · rw [Option.some.inj (Option.some.inj (htaken.candidate.symm.trans hcandidate))]
    · cases htaken.candidate.symm.trans hnone
  · intro agree op habove hop hnone
    rcases canonicalCandidate_of_held valid stored joined habove (held op habove hop)
      (newest op habove hop) with
      hcandidate | ⟨-, first, second, ⟨record, hmem, hlog, hfirst⟩, ⟨record', hmem', hlog', hsecond⟩, hview,
        hdiffer⟩
    · cases hnone.symm.trans hcandidate
    · exact hdiffer (Header.checksum_injective
        (agree op record record' first second hmem hmem' (hlog.trans hlog'.symm) hfirst hsecond hview))

theorem joinedByTwo_held (view : Nat) :
    (joinedByTwo 0 view).Held threeMembers 1 (firstPrepare 0) := by
  constructor
  · -- the first member has joined, the third one has not
    refine ⟨fun sender => sender = 0 ∨ sender = 2, by decide, ?_⟩
    intro sender record hholder hrecord
    rcases of_decide_eq_true hholder with rfl | rfl
    · cases hrecord
      exact ⟨Nat.le_refl 0, Nat.le_refl 1, rfl⟩
    · cases hrecord
  · intro record hmem hlater
    simp only [joinedByTwo, List.mem_cons, Option.some.injEq, List.not_mem_nil, or_false,
      reduceCtorEq] at hmem
    rcases hmem with rfl | rfl <;> cases hlater

/-- Two members that agree keep the prepare. -/
theorem joinedByTwo_keeps :
    (joinedByTwo 0 0).committedBound threeMembers = 0 ∧
      ((joinedByTwo 0 0).selectCanonicalSuffix threeMembers).2 = some (0, 1, 2) ∧
      ((joinedByTwo 0 0).selectCanonicalSuffix threeMembers).1.canonicalHeaders[0]? =
        some (some (firstPrepare 0)) := by
  have hbound : (joinedByTwo 0 0).committedBound threeMembers = 0 := by decide +kernel
  have hresolved : ((joinedByTwo 0 0).selectCanonicalSuffix threeMembers).2 = some (0, 1, 2) := by
    decide +kernel
  have hnewest : ∀ op, (joinedByTwo 0 0).Unsurpassed op (firstPrepare 0) := by
    rintro op - other ⟨record, hmem, -, hreported⟩
    obtain ⟨-, entry, hentry, hheader⟩ := joinHeaderAt_eq_some hreported
    have hentry := List.mem_of_getElem? hentry
    simp only [joinedByTwo, List.mem_cons, Option.some.injEq, List.not_mem_nil, or_false,
      reduceCtorEq] at hmem
    rcases hmem with rfl | rfl <;>
    · simp only [joinRecord, suffixJoin, List.map_cons, List.map_nil, List.mem_cons, List.not_mem_nil,
        or_false] at hentry
      rcases hentry with rfl | rfl <;>
      · cases hheader
        exact Nat.le_refl 0
  have hheld : ∀ op, (joinedByTwo 0 0).committedBound threeMembers < op → op ≤ 1 →
      (joinedByTwo 0 0).Held threeMembers op (firstPrepare 0) := by
    intro op habove hop
    obtain rfl : op = 1 := by omega
    exact joinedByTwo_held 0
  have hkeeps := selectCanonicalSuffix_keeps_held (joinedByTwo 0 0) threeMembers_validated
    (joinedByTwo_stored 0 0) (by decide +kernel) (by decide +kernel) 1 (fun _ => firstPrepare 0) hheld
    fun op _ _ => hnewest op
  exact ⟨hbound, hresolved, (hkeeps.1 0 1 2 hresolved).2 1 (by rw [hbound]; decide) (Nat.le_refl 1)⟩

/-- Without the proviso the prepare is lost: the second member reports a prepare of view 5 although its
log view is 0, and the newer view wins. -/
theorem joinedByTwo_drops_held :
    StoredJoins threeMembers (joinedByTwo 0 5).joins ∧
      threeMembers.quorums.viewChange ≤ (joinedByTwo 0 5).joins.countP Option.isSome ∧
      (joinedByTwo 0 5).committedBound threeMembers = 0 ∧
      (joinedByTwo 0 5).Held threeMembers 1 (firstPrepare 0) ∧
      ((joinedByTwo 0 5).selectCanonicalSuffix threeMembers).2 = some (0, 1, 2) ∧
      ((joinedByTwo 0 5).selectCanonicalSuffix threeMembers).1.canonicalHeaders[0]? ≠
        some (some (firstPrepare 0)) :=
  ⟨joinedByTwo_stored 0 5, by decide +kernel, by decide +kernel, joinedByTwo_held 5, by decide +kernel,
    by decide +kernel⟩

end Replica

end Supervsr
