import Supervsr.Open
import Supervsr.ReplicaMoveView

/-
# Supervsr.Opened — the replicas that `Open` returns

`Open` is a long chain of steps each of which can refuse.  `Opened` puts together what is known when none
did: the recovered journal, the replay, the state derived from both and the part of the log that went into
the pipeline.  `open_left` is about storage alone and holds for a refused `Open` too.
-/

namespace Supervsr

variable {χ : Type} [DecidableEq χ] [Checksums χ] {cfg : Config}

variable {durable : Durable χ} {wal : WAL χ} {initial : InitialState χ} {recovery : WALRecoveryReport χ}
  {replica : Replica χ}

/-- What `loadOpenSuffix` has put into the pipeline of a replica that starts from `initial`. -/
structure Loads (cfg : Config) (zones : WALZones χ) (recovery : WALRecoveryReport χ)
    (initial : InitialState χ) (entries : List (PipelineEntry χ)) (headOp : Nat) (headChecksum : χ) :
    Prop where
  idle : ∀ entry ∈ entries, entry.io = none ∧ entry.stage = .idle ∧ entry.durable = true
  faulty : recovery.faultySlots ≠ 0 →
    entries = [] ∧ headOp = initial.headOp ∧ headChecksum = initial.headHeader.checksum
  reads : recovery.faultySlots = 0 →
    entries.map (fun entry : PipelineEntry χ => Except.ok (ε := WALError) entry.header) =
      (List.range' (initial.commitMin + 1) (recovery.headOp + 1 - (initial.commitMin + 1))).map
        (WAL.readPrepare zones cfg.cluster)
  room : entries.length ≤ cfg.pipelineMax
  head : recovery.faultySlots = 0 →
    headOp = (entries.getLast?.map fun entry => entry.header.op).getD initial.headOp ∧
      headChecksum =
        (entries.getLast?.map fun entry => entry.header.checksum).getD initial.headHeader.checksum

omit [DecidableEq χ] in
theorem loads_of_loadOpenSuffix {sessionOp : Nat} {next : Replica χ}
    (loaded : (Replica.initial cfg initial durable wal sessionOp).loadOpenSuffix cfg recovery initial.commitMin = .ok
      next) :
    ∃ entries generation headOp headChecksum,
      Loads cfg durable.zones recovery initial entries headOp headChecksum ∧
      next = { Replica.initial cfg initial durable wal sessionOp with
        pipeline := entries
        generation := generation
        headOp := headOp
        headChecksum := headChecksum } := by
  unfold Replica.loadOpenSuffix at loaded
  split at loaded
  · rename_i hfaulty
    cases loaded
    refine ⟨[], _, _, _, ⟨?_, ?_, ?_, Nat.zero_le _, ?_⟩, rfl⟩
    · exact fun _ h => absurd h List.not_mem_nil
    · exact fun _ => ⟨rfl, rfl, rfl⟩
    · exact fun h => absurd h hfaulty
    · exact fun h => absurd h hfaulty
  · rename_i hclean
    obtain ⟨entries, generation, headOp, headChecksum, hreads, hidle, hroom, hnext, hhead⟩ :=
      Replica.foldlM_loadRecovered_eq_ok loaded
    refine ⟨entries, generation, headOp, headChecksum, ⟨hidle, ?_, ?_, ?_, ?_⟩, hnext⟩
    · exact fun h => absurd h hclean
    · exact fun _ => hreads
    · exact hroom (Nat.zero_le _)
    · exact fun _ => hhead

/-- A replica returned by `Open`. -/
inductive Opened (cfg : Config) (durable : Durable χ) : Replica χ → Prop where
  /-- a state sync is resumed -/
  | resumed {wal : WAL χ} {recovery : WALRecoveryReport χ} {replica : Replica χ}
      (recovered : durable.recovery cfg = .ok (wal, recovery)) (resumes : durable.resumes = true)
      (checked : (Replica.initial cfg (deriveInterruptedStateSync durable.superblock)
        (durable.afterRecovery cfg) wal 0).validSnapshot cfg = true)
      (resumed : (Replica.initial cfg (deriveInterruptedStateSync durable.superblock)
        (durable.afterRecovery cfg) wal 0).resumeInterruptedStateSync cfg durable.superblock recovery =
          .ok replica) : Opened cfg durable replica
  /-- the journal is replayed and the rest of it loaded -/
  | restarted {wal : WAL χ} {recovery : WALRecoveryReport χ} {replayed : ReplayResult χ}
      {initial : InitialState χ} {superblock : Superblock χ} {entries : List (PipelineEntry χ)}
      {headOp : Nat} {headChecksum : χ} (generation : Nat)
      (recovered : durable.recovery cfg = .ok (wal, recovery)) (fresh : durable.resumes = false)
      (replays : (durable.afterRecovery cfg).openReplay cfg recovery = .ok replayed)
      (complete : replayed.outcome = .ok ())
      (derived : deriveInitialState cfg durable.superblock (durable.openSuperblock cfg recovery) recovery
        replayed.commitMin wal = .ok (initial, superblock))
      (checked : (Replica.initial cfg initial
        { (durable.afterRecovery cfg).recordReplay replayed.executed with superblock := superblock } wal
          replayed.checkpointSessionOp).validSnapshot cfg = true)
      (loads : Loads cfg (durable.afterRecovery cfg).zones recovery initial entries headOp headChecksum) :
      Opened cfg durable { Replica.initial cfg initial
        { (durable.afterRecovery cfg).recordReplay replayed.executed with superblock := superblock } wal
          replayed.checkpointSessionOp with
        pipeline := entries
        generation := generation
        headOp := headOp
        headChecksum := headChecksum }

/-- The executed prefix of the initial state is the replayed one. -/
theorem deriveInitialState_eq_ok {current durable superblock : Superblock χ} {commitMin : Nat}
    (derived : deriveInitialState cfg current durable recovery commitMin wal = .ok (initial, superblock)) :
    ∃ status, deriveRecoveredStatus cfg current durable recovery wal = .ok (status, superblock) ∧
      initial.commitMin = commitMin ∧ initial.checkpoint = durable.state.checkpoint ∧
      initial.headOp = if status.status = .recoveringHead then status.headOp else commitMin := by
  obtain ⟨⟨status, next⟩, hstatus, hrest⟩ := bind_eq_ok.mp derived
  obtain ⟨committed, hcommitted, hinitial⟩ := bind_eq_ok.mp hrest
  cases hinitial
  exact ⟨status, hstatus, rfl, rfl, rfl⟩

omit [DecidableEq χ] in
theorem newReplica_eq_ok {sessionOp : Nat} (built : newReplica cfg initial durable wal sessionOp = .ok replica) :
    replica = .initial cfg initial durable wal sessionOp ∧ replica.validSnapshot cfg = true := by
  unfold newReplica at built
  simp only at built
  split at built
  · rename_i hchecked
    cases built
    exact ⟨rfl, hchecked⟩
  · cases built

namespace Durable

theorem openReplayed_eq_ok {durable left : Durable χ} {replayed : ReplayResult χ}
    (opened : durable.openReplayed cfg wal recovery replayed = (left, .ok replica)) :
    ∃ initial superblock entries generation headOp headChecksum,
      deriveInitialState cfg durable.superblock (durable.openSuperblock cfg recovery) recovery
        replayed.commitMin wal = .ok (initial, superblock) ∧
      (Replica.initial cfg initial { durable with superblock := superblock } wal
        replayed.checkpointSessionOp).validSnapshot cfg = true ∧
      Loads cfg durable.zones recovery initial entries headOp headChecksum ∧
      replica = { Replica.initial cfg initial { durable with superblock := superblock } wal
          replayed.checkpointSessionOp with
        pipeline := entries
        generation := generation
        headOp := headOp
        headChecksum := headChecksum } := by
  unfold openReplayed at opened
  split at opened
  · cases opened
  rename_i initial superblock hderived
  obtain ⟨-, hopened⟩ := Prod.mk.inj opened
  obtain ⟨built, hbuilt, hrest⟩ := bind_eq_ok.mp hopened
  obtain ⟨rfl, hchecked⟩ := newReplica_eq_ok hbuilt
  obtain ⟨status, -, hcommitMin, -⟩ := deriveInitialState_eq_ok hderived
  rw [← hcommitMin] at hrest
  obtain ⟨entries, generation, headOp, headChecksum, hloads, rfl⟩ := loads_of_loadOpenSuffix hrest
  exact ⟨initial, superblock, entries, generation, headOp, headChecksum, hderived, hchecked, hloads, rfl⟩

/-- What is known of a replica that `Open` has returned. -/
theorem open_eq_ok {durable left : Durable χ} (opened : durable.open cfg = (left, .ok replica)) :
    cfg.toFormatConfig.valid = true ∧ durable.superblock.validate cfg.validation = .ok () ∧
      Opened cfg durable replica := by
  unfold «open» at opened
  split at opened
  · cases opened
  rename_i hvalid
  refine ⟨not_not.mp hvalid, ?_⟩
  split at opened
  · cases opened
  rename_i hvalidated
  refine ⟨hvalidated, ?_⟩
  split at opened
  · cases opened
  rename_i wal recovery hrecovered
  unfold openRecovered at opened
  split at opened
  · rename_i hresumes
    obtain ⟨-, hopened⟩ := Prod.mk.inj opened
    obtain ⟨built, hbuilt, hresumed⟩ := bind_eq_ok.mp hopened
    obtain ⟨rfl, hchecked⟩ := newReplica_eq_ok hbuilt
    exact .resumed hrecovered hresumes hchecked hresumed
  rename_i hfresh
  split at opened
  · cases opened
  rename_i replayed hreplays
  simp only at opened
  split at opened
  · cases opened
  rename_i hcomplete
  obtain ⟨initial, superblock, entries, generation, headOp, headChecksum, hderived, hchecked, hloads, rfl⟩ := openReplayed_eq_ok opened
  exact .restarted generation hrecovered ((Bool.not_eq_true _).mp hfresh) hreplays hcomplete hderived hchecked
    hloads

/-- What `Open` does to storage, whether or not it returns a replica. -/
structure Reopened (cfg : Config) (durable left : Durable χ) : Prop where
  sent : left.sent = durable.sent
  superblock : ∃ wal, Replica.RestartedSuperblock cfg wal durable.superblock left.superblock
  zones : left.zones = durable.zones ∨ left.zones = (durable.afterRecovery cfg).zones
  executed : ∀ execution ∈ left.executed, execution.live = true → execution ∈ durable.executed

theorem open_left (durable : Durable χ) : Reopened cfg durable (durable.open cfg).1 := by
  have hkept : ∃ wal, Replica.RestartedSuperblock cfg wal durable.superblock durable.superblock :=
    ⟨WAL.new, .inl rfl⟩
  have hsame : ∀ execution ∈ durable.executed, execution.live = true → execution ∈ durable.executed :=
    fun _ h _ => h
  unfold «open»
  split
  · exact ⟨rfl, hkept, .inl rfl, hsame⟩
  split
  · exact ⟨rfl, hkept, .inl rfl, hsame⟩
  split
  · exact ⟨rfl, hkept, .inr rfl, hsame⟩
  rename_i wal recovery hrecovered
  unfold openRecovered
  split
  · exact ⟨rfl, hkept, .inr rfl, hsame⟩
  split
  · exact ⟨rfl, hkept, .inr rfl, hsame⟩
  simp only
  split
  · exact ⟨rfl, hkept, .inr rfl, fun _ => live_of_mem_replayExecutions⟩
  unfold openReplayed
  split
  · exact ⟨rfl, hkept, .inr rfl, fun _ => live_of_mem_replayExecutions⟩
  rename_i initial superblock hderived
  obtain ⟨status, hstatus, -⟩ := deriveInitialState_eq_ok hderived
  exact ⟨rfl, ⟨wal, (Replica.deriveRecoveredStatus_eq_ok hstatus).1⟩, .inr rfl,
    fun _ => live_of_mem_replayExecutions⟩

theorem openInterrupted_left (durable : Durable χ) (count : Nat) :
    Reopened cfg durable (durable.openInterrupted cfg count) := by
  have hkept : ∃ wal, Replica.RestartedSuperblock cfg wal durable.superblock durable.superblock :=
    ⟨WAL.new, .inl rfl⟩
  unfold openInterrupted
  split
  · exact ⟨rfl, hkept, .inr rfl, fun _ h _ => h⟩
  simp only
  split
  · exact ⟨rfl, hkept, .inr rfl, fun _ h _ => h⟩
  split
  · exact ⟨rfl, hkept, .inr rfl, fun _ h _ => h⟩
  · exact ⟨rfl, hkept, .inr rfl, fun _ => live_of_mem_replayExecutions⟩

end Durable

end Supervsr
