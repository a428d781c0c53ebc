import Supervsr.ReplicaCalm
import Supervsr.ReplicaInstallation
import Supervsr.ReplicaStorage

/-
# Supervsr.ReplicaLog — the pipeline holds the ops behind the executed prefix, one after the other

`advanceCommit` executes the first pipeline entry without a look at its op: that it is the next one rests on
every path that builds a pipeline.  A prepare is accepted behind the head; the log is loaded op by op; a view
is installed by cutting the pipeline at an op the log shares with it and pushing the canonical suffix behind.
The last of these keeps the pipeline whole only if the pipeline reached up to that op, and a member that
restarts with faulty slots has an empty one in front of a log it still vouches for.
-/

namespace Supervsr

open Transition

variable {χ : Type} {entry : PipelineEntry χ} {cluster : ClusterConfig}

variable {next rest pipeline : List (PipelineEntry χ)}
  {last count op view expected ancestor head commitMin : Nat} {replica : Replica χ}
  {headers canonical : List (Option (Header χ))} {parent : χ} {checkpoint : CheckpointState χ} {wal : WAL χ}
  {header : Header χ} {zones : WALZones χ}

/-! ## Pipelines without gaps -/

/-- The op the first entry of a pipeline should hold. -/
def firstOp (commitMin : Nat) (pipeline : List (PipelineEntry χ)) : Nat :=
  if pipeline.head?.any (fun entry => entry.stage.maintains) then commitMin else commitMin + 1

/-- The entries hold the ops behind the executed prefix up to the head; an entry that is being completed
still stands for the last executed op. -/
structure Gapless (commitMin headOp : Nat) (pipeline : List (PipelineEntry χ)) : Prop where
  committed : commitMin ≤ headOp
  ops : pipeline.map (fun entry => entry.header.op) =
    List.range' (firstOp commitMin pipeline) (headOp + 1 - firstOp commitMin pipeline)

theorem firstOp_of_idle (idle : ∀ entry ∈ pipeline, entry.stage = .idle) :
    firstOp commitMin pipeline = commitMin + 1 := by
  unfold firstOp
  cases pipeline with
  | nil => rfl
  | cons entry rest =>
    rw [List.head?_cons, Option.any_some, idle entry List.mem_cons_self]
    rfl

namespace Gapless

variable {headOp : Nat}

theorem nil (commitMin : Nat) : Gapless commitMin commitMin ([] : List (PipelineEntry χ)) :=
  ⟨Nat.le_refl _, by simp [firstOp]⟩

theorem of_idle (committed : commitMin ≤ headOp) (idle : ∀ entry ∈ pipeline, entry.stage = .idle)
    (ops : pipeline.map (fun entry => entry.header.op) = List.range' (commitMin + 1) (headOp - commitMin)) :
    Gapless commitMin headOp pipeline := by
  refine ⟨committed, ?_⟩
  rw [firstOp_of_idle idle, ops, Nat.add_sub_add_right]

theorem ops_of_idle (gapless : Gapless commitMin headOp pipeline)
    (idle : ∀ entry ∈ pipeline, entry.stage = .idle) :
    pipeline.map (fun entry => entry.header.op) = List.range' (commitMin + 1) (headOp - commitMin) := by
  rw [gapless.ops, firstOp_of_idle idle, Nat.add_sub_add_right]

section

variable (gapless : Gapless commitMin headOp (entry :: rest))

include gapless

theorem first :
    entry.header.op = firstOp commitMin (entry :: rest) := by
  have hops := gapless.ops
  rw [List.map_cons] at hops
  cases hlength : headOp + 1 - firstOp commitMin (entry :: rest) with
  | zero =>
    rw [hlength] at hops
    cases hops
  | succ count =>
    rw [hlength, List.range'_succ] at hops
    exact (List.cons.inj hops).1

/-- The first entry is the next op until it has been executed. -/
theorem first_next (waits : entry.stage.maintains = false) :
    entry.header.op = commitMin + 1 := by
  rw [gapless.first, firstOp, List.head?_cons, Option.any_some, waits]
  rfl

theorem first_last
    (maintains : entry.stage.maintains = true) : entry.header.op = commitMin := by
  rw [gapless.first, firstOp, List.head?_cons, Option.any_some, maintains]
  rfl

end

section

variable (gapless : Gapless commitMin headOp pipeline)

include gapless

/-- Changes to the entries that leave their ops alone, and the first one on its side of execution. -/
theorem keep
    (ops : next.map (fun entry => entry.header.op) = pipeline.map fun entry => entry.header.op)
    (maintains : next.head?.any (fun entry => entry.stage.maintains) = pipeline.head?.any fun entry =>
      entry.stage.maintains) : Gapless commitMin headOp next := by
  have hfirst : firstOp commitMin next = firstOp commitMin pipeline := by
    rw [firstOp, firstOp, maintains]
  refine ⟨gapless.committed, ?_⟩
  rw [ops, hfirst]
  exact gapless.ops

theorem of_unacknowledged
    (same : next.map PipelineEntry.unacknowledged = pipeline.map PipelineEntry.unacknowledged) :
    Gapless commitMin headOp next := by
  have hthrough : ∀ list : List (PipelineEntry χ),
      (list.map PipelineEntry.unacknowledged).map (fun entry => entry.header.op) =
        list.map fun entry => entry.header.op := by
    intro list
    rw [List.map_map]
    rfl
  have hhead : ∀ list : List (PipelineEntry χ),
      (list.map PipelineEntry.unacknowledged).head?.any (fun entry => entry.stage.maintains) =
        list.head?.any fun entry => entry.stage.maintains := by
    intro list
    cases list <;> rfl
  refine gapless.keep ?_ ?_
  · rw [← hthrough next, same, hthrough]
  · rw [← hhead next, same, hhead]

/-- A prepare is accepted behind the head. -/
theorem push (op : entry.header.op = headOp + 1)
    (idle : entry.stage = .idle) : Gapless commitMin entry.header.op (pipeline ++ [entry]) := by
  have hfirst : firstOp commitMin (pipeline ++ [entry]) = firstOp commitMin pipeline := by
    unfold firstOp
    cases pipeline with
    | nil => simp [idle, CommitStage.maintains]
    | cons => rfl
  have hle : firstOp commitMin pipeline ≤ headOp + 1 := by
    have := gapless.committed
    unfold firstOp
    split <;> omega
  refine ⟨?_, ?_⟩
  · have := gapless.committed
    omega
  rw [hfirst, List.map_append, gapless.ops, List.map_singleton, op, Nat.succ_sub hle,
    List.range'_concat]
  congr 2
  omega

end

/-- The first entry has been executed. -/
theorem commit {advanced : PipelineEntry χ} (gapless : Gapless commitMin headOp (entry :: rest))
    (waits : entry.stage.maintains = false) (same : advanced.header = entry.header)
    (maintains : advanced.stage.maintains = true) : Gapless entry.header.op headOp (advanced :: rest) := by
  have hop := gapless.first_next waits
  have hbefore : firstOp commitMin (entry :: rest) = commitMin + 1 := by rw [← gapless.first, hop]
  have hafter : firstOp entry.header.op (advanced :: rest) = entry.header.op := by
    rw [firstOp, List.head?_cons, Option.any_some, maintains]
    rfl
  have hops := gapless.ops
  rw [hbefore] at hops
  refine ⟨?_, ?_⟩
  · by_contra hbeyond
    rw [show headOp + 1 - (commitMin + 1) = 0 by omega] at hops
    cases hops
  · rw [hafter, List.map_cons, same, ← List.map_cons (f := fun entry : PipelineEntry χ => entry.header.op),
      hops, hop]

/-- The first entry has been completed. -/
theorem pop (gapless : Gapless commitMin headOp (entry :: rest)) (maintains : entry.stage.maintains = true)
    (idle : ∀ other ∈ rest, other.stage = .idle) : Gapless commitMin headOp rest := by
  have hops := gapless.ops
  rw [← gapless.first, gapless.first_last maintains, Nat.succ_sub gapless.committed,
    List.range'_succ, List.map_cons] at hops
  exact .of_idle gapless.committed idle (List.cons.inj hops).2

/-- More ops behind the head. -/
theorem append {entries : List (PipelineEntry χ)} (gapless : Gapless commitMin headOp pipeline)
    (idle : ∀ entry ∈ pipeline, entry.stage = .idle) (fresh : ∀ entry ∈ entries, entry.stage = .idle)
    (beyond : headOp ≤ last)
    (ops : entries.map (fun entry => entry.header.op) = List.range' (headOp + 1) (last - headOp)) :
    Gapless commitMin last (pipeline ++ entries) := by
  have hcommitted := gapless.committed
  refine .of_idle (Nat.le_trans hcommitted beyond) ?_ ?_
  · intro entry hentry
    obtain hentry | hentry := List.mem_append.mp hentry
    · exact idle entry hentry
    · exact fresh entry hentry
  · rw [List.map_append, gapless.ops_of_idle idle, ops,
      show headOp + 1 = (commitMin + 1) + 1 * (headOp - commitMin) by omega, List.range'_append]
    congr 1
    omega

end Gapless

/-- Cutting off what lies above an op leaves the entries up to it. -/
theorem dropWhile_reverse_of_range {first : Nat}
    (ops : pipeline.map (fun entry => entry.header.op) = List.range' first count) (inside : op < first + count)
    (above : first ≤ op + 1) :
    ((pipeline.reverse.dropWhile fun entry => op <
      entry.header.op).reverse).map (fun entry => entry.header.op) = List.range' first (op + 1 - first) := by
  induction count generalizing pipeline with
  | zero =>
    have hempty : pipeline = [] := List.map_eq_nil_iff.mp ops
    rw [hempty, show op + 1 - first = 0 by omega]
    rfl
  | succ count ih =>
    rw [List.range'_concat, Nat.one_mul] at ops
    obtain ⟨front, behind, rfl, hfront, hbehind⟩ := List.map_eq_append_iff.mp ops
    obtain ⟨last, rfl, hlast⟩ := List.map_eq_singleton_iff.mp hbehind
    rw [List.reverse_append, List.reverse_singleton, List.singleton_append]
    by_cases hcut : op < last.header.op
    · rw [List.dropWhile_cons_of_pos (by simpa using hcut)]
      exact ih hfront (by omega)
    · rw [List.dropWhile_cons_of_neg (by simpa using hcut), List.reverse_cons, List.reverse_reverse,
        List.map_append, hfront, List.map_singleton, hlast, show op + 1 - first = count + 1 by omega,
        List.range'_concat, Nat.one_mul]

theorem Gapless.through (gapless : Gapless replica.commitMin replica.headOp replica.pipeline)
    (idle : ∀ entry ∈ replica.pipeline, entry.stage = .idle) (committed : replica.commitMin ≤ op)
    (inside : op ≤ replica.headOp) : Gapless replica.commitMin op (replica.pipelineThrough op) := by
  have hidle : ∀ entry ∈ replica.pipelineThrough op, entry.stage = .idle := fun entry hentry =>
    idle entry ((replica.pipelineThrough_initial op).subset hentry)
  refine .of_idle committed hidle ?_
  rw [show op - replica.commitMin = op + 1 - (replica.commitMin + 1) by omega]
  exact dropWhile_reverse_of_range (gapless.ops_of_idle idle) (by omega) (by omega)

/-! ## Canonical headers without gaps -/

/-- The ops from `first` to `last`, the last one first. -/
def opsDown (first last : Nat) : List Nat := (List.range' first (last + 1 - first)).reverse

theorem opsDown_filter {first bound : Nat} (reaches : first ≤ bound + 1) :
    (opsDown first last).filter (bound < ·) = opsDown (bound + 1) last := by
  unfold opsDown
  rw [List.filter_reverse]
  congr 1
  by_cases hempty : last ≤ bound
  · rw [show last + 1 - (bound + 1) = 0 by omega, List.range'_zero, List.filter_eq_nil_iff]
    intro op hop
    have := List.mem_range'_1.mp hop
    simp only [decide_eq_true_eq]
    omega
  · have hsplit : List.range' first (last + 1 - first) =
        List.range' first (bound + 1 - first) ++ List.range' (bound + 1) (last - bound) := by
      have happend := @List.range'_append first (bound + 1 - first) (last - bound) 1
      rw [Nat.one_mul, Nat.add_sub_cancel' reaches] at happend
      rw [happend]
      congr 1
      omega
    rw [hsplit, List.filter_append, Nat.add_sub_add_right]
    have hbelow : (List.range' first (bound + 1 - first)).filter (bound < ·) = [] := by
      rw [List.filter_eq_nil_iff]
      intro op hop
      have := List.mem_range'_1.mp hop
      simp only [decide_eq_true_eq]
      omega
    have habove : (List.range' (bound + 1) (last - bound)).filter (bound < ·) =
        List.range' (bound + 1) (last - bound) := by
      rw [List.filter_eq_self]
      intro op hop
      have := List.mem_range'_1.mp hop
      simp only [decide_eq_true_eq]
      omega
    rw [hbelow, habove, List.nil_append]

theorem opsDown_succ {first : Nat} (inside : first ≤ last + 1) :
    opsDown first (last + 1) = (last + 1) :: opsDown first last := by
  unfold opsDown
  rw [show last + 1 + 1 - first = (last + 1 - first) + 1 by omega, List.range'_concat, List.reverse_append,
    List.reverse_singleton, List.singleton_append, show first + 1 * (last + 1 - first) = last + 1 by omega]

theorem opsDown_getElem? {first place : Nat} (inside : place < last + 1 - first) :
    (opsDown first last)[place]? = some (last - place) := by
  unfold opsDown
  rw [List.getElem?_reverse (by rwa [List.length_range']), List.length_range', List.getElem?_range'
    (by omega)]
  congr 1
  omega

variable [DecidableEq χ] [Checksums χ] {cfg : Config} {given : Surroundings χ}

namespace Replica

/-- The headers `validRecoveringView` has checked lie one below the other. -/
theorem ops_of_linkedDown {child : Option (Option (Header χ))}
    (linked : linkedDown view expected child headers = true) (short : headers.length ≤ expected + 1) :
    headers.map headerOp = opsDown (expected + 1 - headers.length) expected := by
  induction headers generalizing expected child with
  | nil => simp [opsDown]
  | cons header rest ih =>
    simp only [linkedDown, decide_eq_true_eq] at linked
    obtain ⟨hop, -, -, hrest⟩ := linked
    rw [List.length_cons] at short
    rw [List.map_cons, hop, List.length_cons]
    cases expected with
    | zero =>
      have hempty : rest = [] := List.eq_nil_of_length_eq_zero (by omega)
      rw [hempty]
      rfl
    | succ expected =>
      rw [Nat.add_sub_cancel] at hrest
      rw [ih hrest (by omega), show expected + 1 + 1 - (rest.length + 1) = expected + 1 - rest.length by omega,
        opsDown_succ (by omega)]

/-- The headers for a repair window are taken only if they lie one above the other. -/
theorem ops_of_linkWindow {headers : List (Header χ)}
    (linked : (linkWindow view expected parent headers canonical).2 = true) :
    headers.map Header.op = List.range' expected headers.length := by
  induction headers generalizing expected parent canonical with
  | nil => rfl
  | cons candidate rest ih =>
    unfold linkWindow at linked
    split at linked
    · cases linked
    · rename_i hfits
      simp only [not_or, ne_eq, not_not] at hfits
      rw [List.map_cons, List.length_cons, List.range'_succ, hfits.1, ih linked]

theorem linkWindow_length (headers : List (Header χ)) :
    (linkWindow view expected parent headers canonical).1.length = canonical.length := by
  induction headers generalizing expected parent canonical with
  | nil => rfl
  | cons candidate rest ih =>
    unfold linkWindow
    split
    · rfl
    · rw [ih, List.length_set]

/-- They are stored the last one first. -/
theorem linkWindow_eq {headers : List (Header χ)} (room : headers.length ≤ canonical.length)
    (linked : (linkWindow view expected parent headers canonical).2 = true) :
    (linkWindow view expected parent headers canonical).1 =
      headers.reverse.map some ++ canonical.drop headers.length := by
  induction headers generalizing expected parent canonical with
  | nil => rfl
  | cons candidate rest ih =>
    unfold linkWindow at linked ⊢
    split at linked
    · cases linked
    rename_i hfits
    rw [List.length_cons] at room
    rw [if_neg hfits, ih (by rw [List.length_set]; omega) linked, List.reverse_cons, List.map_append,
      List.append_assoc, List.drop_set, if_neg (Nat.lt_irrefl _), Nat.sub_self,
      List.drop_eq_getElem_cons (by omega), List.set_cons_zero]
    rfl

/-- A view proof names consecutive ops down from its head, and the checkpoint at last. -/
theorem ops_of_viewProofFrom (proof : viewProofFrom checkpoint expected headers = true) :
    ∃ front last, headers = front ++ [last] ∧ headerOp last = checkpoint.prepareOp ∧
      (front.length ≤ expected + 1 → front.map headerOp = opsDown (expected + 1 - front.length) expected) := by
  induction headers generalizing expected with
  | nil => cases proof
  | cons candidate rest ih =>
    cases rest with
    | nil =>
      simp only [viewProofFrom, decide_eq_true_eq] at proof
      exact ⟨[], candidate, rfl, proof.2, fun _ => by simp [opsDown]⟩
    | cons next rest =>
      simp only [viewProofFrom] at proof
      split at proof
      · cases proof
      split at proof
      · cases proof
      rename_i hop
      -- whether or not the gap before the checkpoint is here, the rest is a proof one op further down
      have hrest : viewProofFrom checkpoint (expected - 1) (next :: rest) = true := by
        split at proof
        · exact proof
        · exact (of_decide_eq_true proof).2
      obtain ⟨front, last, hsplit, hlast, hfront⟩ := ih hrest
      refine ⟨candidate :: front, last, by rw [hsplit, List.cons_append], hlast, ?_⟩
      intro hlength
      rw [List.length_cons] at hlength
      rw [List.map_cons, not_not.mp hop, List.length_cons]
      cases expected with
      | zero =>
        obtain rfl : front = [] := List.eq_nil_of_length_eq_zero (by omega)
        rfl
      | succ expected =>
        rw [hfront (by omega), Nat.add_sub_cancel, show expected + 1 + 1 - (front.length + 1) =
          expected + 1 - front.length by omega, opsDown_succ (by omega)]

/-! ## Views that tell the whole log -/

end Replica

/-- A `View` whose checkpoint is near names every op from the checkpoint on. -/
def ViewMessage.Complete (message : ViewMessage χ) (pipelineMax : Nat) : Prop :=
  message.checkpoint.prepareOp ≤ message.head →
    message.head - message.checkpoint.prepareOp ≤ pipelineMax →
    message.headers.length = message.head - message.checkpoint.prepareOp + 1

namespace Replica

section

omit [DecidableEq χ] [Checksums χ]

theorem headerOp_localHeaderEvidence_checkpoint (replica : Replica χ) :
    headerOp (replica.localHeaderEvidence cfg replica.checkpointOp).1 = replica.checkpointOp := by
  unfold localHeaderEvidence
  split
  · rename_i entry hfound
    have := List.find?_some hfound
    exact of_decide_eq_true this
  · rw [if_pos rfl]
    rfl

theorem localSuffix_whole (replica : Replica χ) (cfg : Config) {rounds : Nat} (above : replica.checkpointOp ≤ op)
    (reaches : op - replica.checkpointOp < rounds) :
    (replica.localSuffix cfg rounds op).length = op - replica.checkpointOp + 1 ∧
      ∃ header ∈ replica.localSuffix cfg rounds op, headerOp header = replica.checkpointOp := by
  induction rounds generalizing op with
  | zero => omega
  | succ rounds ih =>
    unfold localSuffix
    by_cases hend : op = replica.checkpointOp
    · rw [if_pos (.inl hend)]
      refine ⟨by rw [List.length_singleton]; omega, _, List.mem_singleton_self _, ?_⟩
      rw [hend]
      exact replica.headerOp_localHeaderEvidence_checkpoint
    · rw [if_neg (by omega)]
      obtain ⟨hlength, header, hheader, hop⟩ := @ih (op - 1) (by omega) (by omega)
      exact ⟨by rw [List.length_cons, hlength]; omega, header, List.mem_cons_of_mem _ hheader, hop⟩

theorem buildView_complete (replica : Replica χ) (nonce : Nat) :
    (replica.buildView cfg nonce).2.Complete cfg.pipelineMax := by
  unfold buildView collectViewSuffix
  simp only
  intro habove hnear
  have hhead : replica.checkpointOp ≤ replica.headOp := by
    split at habove <;> exact habove
  have hclose : replica.headOp - replica.checkpointOp ≤ cfg.pipelineMax := by
    split at hnear <;> exact hnear
  obtain ⟨hlength, header, hheader, hop⟩ := replica.localSuffix_whole cfg hhead
    (Nat.lt_succ_of_le hclose)
  have hany : (replica.collectLocalSuffix cfg).any (fun header => headerOp header =
      (replica.overwriteCanonicalHeaders (replica.collectLocalSuffix cfg)).checkpointOp) = true :=
    List.any_eq_true.mpr ⟨header, hheader, decide_eq_true hop⟩
  rw [if_pos hany]
  show (List.take _ (_ ++ _)).length = _
  rw [List.take_left]
  exact hlength

theorem localSuffix_length (replica : Replica χ) (cfg : Config) (rounds op : Nat) :
    (replica.localSuffix cfg rounds op).length ≤ rounds := by
  induction rounds generalizing op with
  | zero => exact Nat.le_refl 0
  | succ rounds ih =>
    unfold localSuffix
    split
    · exact Nat.succ_le_succ (Nat.zero_le rounds)
    · exact Nat.succ_le_succ (ih (op - 1))

theorem overwriteCanonicalHeaders_length (short : headers.length ≤ replica.canonicalHeaders.length) :
    (replica.overwriteCanonicalHeaders headers).canonicalHeaders.length = replica.canonicalHeaders.length := by
  show (headers ++ _).length = _
  rw [List.length_append, List.length_drop]
  omega

end

/-! ## The suffix above the ancestor -/

/-- The headers name every op above the ancestor up to the head. -/
def NamesSuffix (headers : List (Option (Header χ))) (ancestor head : Nat) : Prop :=
  (headers.map headerOp).filter (ancestor < ·) = opsDown (ancestor + 1) head

section

omit [DecidableEq χ] [Checksums χ]

theorem NamesSuffix.of_ops {first : Nat} (ops : headers.map headerOp = opsDown first head)
    (reaches : first ≤ ancestor + 1) : NamesSuffix headers ancestor head := by
  rw [NamesSuffix, ops]
  exact opsDown_filter reaches

theorem NamesSuffix.concat {last : Option (Header χ)} (names : NamesSuffix headers ancestor head)
    (low : headerOp last ≤ ancestor) : NamesSuffix (headers ++ [last]) ancestor head := by
  have hlast : [headerOp last].filter (ancestor < ·) = [] := by
    rw [List.filter_cons_of_neg (by simpa using low), List.filter_nil]
  rw [NamesSuffix, List.map_append, List.filter_append, List.map_singleton, hlast, List.append_nil]
  exact names

/-- What is pushed behind the ancestor. -/
theorem NamesSuffix.entries {entries : List (PipelineEntry χ)}
    (names : NamesSuffix (replica.canonicalHeaders.take replica.repairViewCount) replica.repairViewAncestor
      replica.repairViewHead) (framed : replica.canonicalHeaders.length ≤ replica.repairFrames.length)
    (pushed : entries.map (fun entry => (some entry.header, some entry.prepare)) = replica.repairSuffix) :
    entries.map (fun entry => entry.header.op) = List.range' (replica.repairViewAncestor + 1)
      (replica.repairViewHead - replica.repairViewAncestor) := by
  have hops : entries.map (fun entry => entry.header.op) =
      replica.repairSuffix.map fun pair => headerOp pair.1 := by
    rw [← pushed, List.map_map]
    rfl
  have hzip : replica.canonicalHeaders.take replica.repairViewCount =
      ((replica.canonicalHeaders.zip replica.repairFrames).take replica.repairViewCount).map Prod.fst := by
    rw [List.map_take, List.map_fst_zip framed]
  have hsuffix : replica.repairSuffix.map (fun pair => headerOp pair.1) =
      (((replica.canonicalHeaders.take replica.repairViewCount).map headerOp).filter
        (replica.repairViewAncestor < ·)).reverse := by
    rw [hzip, List.map_map, List.filter_map, repairSuffix, List.filter_reverse, List.map_reverse]
    rfl
  rw [hops, hsuffix, names, opsDown, List.reverse_reverse, Nat.add_sub_add_right]

end

theorem commonAncestorAmong_le (found : replica.commonAncestorAmong cfg headers = some (some op)) :
    op ≤ replica.headOp := by
  induction headers with
  | nil => cases found
  | cons first rest ih =>
    unfold commonAncestorAmong at found
    simp only at found
    split at found
    · exact ih found
    rename_i hheld
    split at found
    · cases found
      exact Nat.not_lt.mp hheld
    split at found
    · cases found
    · exact ih found

/-- The log reaches up to the op it shares with the view. -/
theorem recoveringCommonAncestor_le (found : replica.recoveringCommonAncestor cfg count = some ancestor) :
    ancestor ≤ replica.headOp := by
  unfold recoveringCommonAncestor at found
  split at found
  · cases found
  split at found
  · cases found
  · rename_i op hop
    cases found
    exact commonAncestorAmong_le hop
  simp only at found
  split at found
  · rename_i holdest
    cases found
    exact holdest.2.1
  · cases found

/-- A view that may be recorded names everything between the op the log shares with it and its head. -/
theorem names_of_validRecoveringView {commit : Nat}
    (recordable : replica.validRecoveringView cfg view commit head count = true)
    (counted : count ≤ replica.canonicalHeaders.length) (checkpointed : replica.checkpointOp ≤ replica.commitMin)
    (found : replica.recoveringCommonAncestor cfg (replica.proofCount count) = some ancestor) :
    NamesSuffix (replica.canonicalHeaders.take count) ancestor head := by
  simp only [validRecoveringView, decide_eq_true_eq] at recordable
  obtain ⟨-, hcount, -, -, -, -, -, -, -, hchecked, hlinked, hfound⟩ := recordable
  rw [found, Option.any_some, decide_eq_true_eq] at hfound
  obtain ⟨hcommitted, holdest⟩ := hfound
  have hproof : replica.proofCount count ≤ count ∧ replica.proofCount count ≠ 0 := by
    unfold proofCount
    split <;> omega
  have hlength : (replica.canonicalHeaders.take (replica.proofCount count)).length =
      replica.proofCount count := by
    rw [List.length_take]
    omega
  have hops := ops_of_linkedDown hlinked (by rw [hlength]; exact hchecked)
  rw [hlength] at hops
  -- the last header checked is the oldest op
  have hlast : headerOp (replica.canonicalHeaders.getD (replica.proofCount count - 1) none) =
      head + 1 - replica.proofCount count := by
    have hinside : replica.proofCount count - 1 < head + 1 - (head + 1 - replica.proofCount count) := by omega
    have hplace := opsDown_getElem? hinside
    rw [← hops, List.getElem?_map, List.getElem?_take_of_lt (by omega)] at hplace
    obtain ⟨header, hheader, hop⟩ := Option.map_eq_some_iff.mp hplace
    rw [List.getD_eq_getElem?_getD, hheader, Option.getD_some, hop]
    omega
  have hnames : NamesSuffix (replica.canonicalHeaders.take (replica.proofCount count)) ancestor head :=
    .of_ops hops (by omega)
  by_cases htrailing : 1 < count ∧
      headerOp (replica.canonicalHeaders.getD (count - 1) none) = replica.checkpointOp
  · -- a trailing checkpoint is left out of the check, and lies below
    rw [proofCount, if_pos htrailing] at hnames
    have hsplit : replica.canonicalHeaders.take count = replica.canonicalHeaders.take (count - 1) ++
        [replica.canonicalHeaders.getD (count - 1) none] := by
      have hlt : count - 1 < replica.canonicalHeaders.length := by omega
      rw [List.getD_eq_getElem?_getD, List.getElem?_eq_getElem hlt, Option.getD_some, List.take_append_getElem,
        Nat.sub_add_cancel (by omega)]
    rw [hsplit]
    exact hnames.concat (by omega)
  · rwa [proofCount, if_neg htrailing] at hnames

/-- A `View` that a state sync starts from names everything above its checkpoint, if the log behind the
checkpoint fits a pipeline or nothing above it is committed. -/
theorem names_of_validStateSyncView {message : ViewMessage χ} (accepted : replica.acceptsView cfg message = true)
    (tail : headerOp (replica.viewTail message.checkpoint message.headers.length) ≤ message.commit + 1)
    (proved : replica.validStateSyncView message.checkpoint message.head message.commit message.headers.length =
      true) (complete : message.Complete cfg.pipelineMax)
    (fits : message.commit ≤ message.checkpoint.prepareOp ∨ message.head - message.checkpoint.prepareOp ≤
      cfg.pipelineMax) : NamesSuffix message.headers message.checkpoint.prepareOp message.head := by
  simp only [acceptsView, decide_eq_true_eq] at accepted
  obtain ⟨-, -, -, -, hheaders, -⟩ := accepted
  simp only [validStateSyncView, decide_eq_true_eq, hheaders] at proved
  obtain ⟨hcommit, hhead, -, hdeep, htop, hproof⟩ := proved
  obtain ⟨front, last, hsplit, hlast, hfront⟩ := ops_of_viewProofFrom hproof
  have hlength : message.headers.length = front.length + 1 := by rw [hsplit, List.length_append]; rfl
  replace hfront := hfront (by omega)
  rw [hsplit]
  refine NamesSuffix.concat (.of_ops hfront ?_) (Nat.le_of_eq hlast)
  obtain hcommitted | hnear := fits
  · -- the oldest header before the checkpoint is at most the next op to commit
    have hplace : ∀ place ≤ front.length,
        replica.canonicalHeaders[place]? = (front ++ [last])[place]? := by
      intro place hlt
      rw [← hsplit, ← hheaders, List.getElem?_take_of_lt (by omega)]
    have hend := hplace front.length (Nat.le_refl _)
    rw [List.getElem?_concat_length] at hend
    cases hcount : front.length with
    | zero =>
      rw [hcount] at hend
      rw [List.getD_eq_getElem?_getD, hend, Option.getD_some, hlast] at htop
      omega
    | succ count =>
      have htail := opsDown_getElem? (show count < message.head + 1 - (message.head + 1 - front.length) by omega)
      rw [← hfront, List.getElem?_map] at htail
      obtain ⟨oldest, holdest, hop⟩ := Option.map_eq_some_iff.mp htail
      have hfound := hplace count (by omega)
      rw [List.getElem?_append_left (by omega), holdest] at hfound
      rw [viewTail, hlength, Nat.add_sub_cancel, List.getD_eq_getElem?_getD, hend, Option.getD_some,
        if_pos ⟨by omega, hlast⟩, show front.length + 1 - 2 = count by omega, List.getD_eq_getElem?_getD, hfound,
        Option.getD_some, hop] at tail
      omega
  · have := complete (by omega) hnear
    omega

end Replica

/-! ## What is loaded from the journal -/

/-- Every header the journal gives out is the one of the op asked for. -/
def WAL.Labelled (wal : WAL χ) (cluster : ClusterConfig) : Prop :=
  ∀ slot < cluster.journalSlots, ∀ header, (wal.slots.get slot).authoritative = some header →
    header.op = (wal.slots.get slot).op

section Labelled

section

omit [DecidableEq χ] [Checksums χ]

variable (labelled : wal.Labelled cluster)

include labelled

theorem WAL.Labelled.recoveredHeader (slots : cluster.journalSlots ≠ 0)
    (recovered : wal.recoveredHeader cluster op = some header) : header.op = op := by
  unfold WAL.recoveredHeader at recovered
  simp only at recovered
  split at recovered
  · cases recovered
  rename_i hholds
  simp only [not_or, ne_eq, not_not] at hholds
  rw [← hholds.2.1]
  exact labelled _ (Nat.mod_lt _ (Nat.pos_of_ne_zero slots)) header recovered

theorem WAL.Labelled.set (index : Nat) {slot : WALSlot χ}
    (right : ∀ header, slot.authoritative = some header → header.op = slot.op) (ring : Table (WALCell χ)) :
    WAL.Labelled ⟨wal.slots.set index slot, ring⟩ cluster := by
  intro place hplace header hheader
  simp only [Table.get_set] at hheader ⊢
  split at hheader
  · rw [if_pos ‹_›]
    exact right header hheader
  · rw [if_neg ‹_›]
    exact labelled place hplace header hheader

theorem WAL.Labelled.discardAfter (head : Nat) :
    (wal.discardAfter cluster head).Labelled cluster := by
  unfold WAL.discardAfter
  generalize List.range cluster.journalSlots = indices
  induction indices generalizing wal with
  | nil => exact labelled
  | cons index rest ih =>
    rw [List.foldl_cons]
    refine ih ?_
    simp only
    split
    · exact labelled
    · exact labelled.set index (fun _ h => by cases h) _

end

theorem Recovered.labelled {prepareMax : Nat} {installed : WALRecoveryView} {report : WALRecoveryReport χ}
    (recovered : Recovered zones cluster checkpoint prepareMax installed wal report) : wal.Labelled cluster := by
  intro slot hslot header hheader
  rw [recovered.slots slot hslot] at hheader ⊢
  revert hheader
  unfold WALZones.recoveredSlot
  split <;> intro hheader <;> cases hheader <;> rfl

theorem Replica.labelled_move {next : Replica χ} (labelled : replica.wal.Labelled cfg.cluster)
    (move : Replica.Move cfg given replica next) : next.wal.Labelled cfg.cluster := by
  have hstores := move.effects.stores
  generalize hwal : next.wal = wal at hstores ⊢
  generalize next.durable.zones = zones at hstores
  generalize next.durable.superblock = superblock at hstores
  cases hstores with
  | same => exact labelled
  | @executed pending _ _ _ _ asked due executes =>
    generalize pending.operation = operation at executes
    cases executes with
    | refused | plain | persist => exact labelled
    | append appended =>
      obtain ⟨-, rfl, -⟩ := WAL.append_eq_ok appended
      exact labelled.set _ (fun _ h => by cases h; rfl) _
  | discarded => exact labelled.discardAfter _
  | restarted => exact labelled

end Labelled

section

omit [DecidableEq χ] [Checksums χ]

theorem readPrepare_op (read : WAL.readPrepare zones cluster op = .ok header) : header.op = op := by
  unfold WAL.readPrepare at read
  split at read
  · split at read
    · cases read
      assumption
    · cases read
  · cases read

theorem ops_of_reads {entries : List (PipelineEntry χ)} {ops : List Nat}
    (reads : entries.map (fun entry => Except.ok (ε := WALError) entry.header) =
      ops.map (WAL.readPrepare zones cluster)) : entries.map (fun entry => entry.header.op) = ops := by
  induction entries generalizing ops with
  | nil => exact (List.map_eq_nil_iff.mp reads.symm).symm
  | cons entry rest ih =>
    cases ops with
    | nil => cases reads
    | cons op ops =>
      rw [List.map_cons, List.map_cons] at reads
      obtain ⟨hfirst, hrest⟩ := List.cons.inj reads
      rw [List.map_cons, ih hrest, readPrepare_op hfirst.symm]

/-- A log loaded op by op behind what is executed. -/
theorem Gapless.of_reads {entries : List (PipelineEntry χ)} {headOp : Nat}
    (idle : ∀ entry ∈ entries, entry.stage = .idle)
    (reads : entries.map (fun entry => Except.ok (ε := WALError) entry.header) =
      (List.range' (commitMin + 1) (last + 1 - (commitMin + 1))).map (WAL.readPrepare zones cluster))
    (head : headOp = (entries.getLast?.map fun entry => entry.header.op).getD commitMin) :
    Gapless commitMin headOp entries := by
  have hops := ops_of_reads reads
  have hlast : headOp = (entries.map fun entry => entry.header.op).getLast?.getD commitMin := by
    rw [head, List.getLast?_map]
  rw [hops, Nat.add_sub_add_right] at hlast
  rw [Nat.add_sub_add_right] at hops
  cases hcount : last - commitMin with
  | zero =>
    rw [hcount] at hops hlast
    obtain rfl : entries = [] := List.map_eq_nil_iff.mp hops
    rw [hlast]
    exact .nil commitMin
  | succ count =>
    rw [hcount, List.range'_concat, List.getLast?_concat, Option.getD_some] at hlast
    refine .of_idle (by omega) idle ?_
    rw [hops, hcount]
    congr 1
    omega

end

end Supervsr
