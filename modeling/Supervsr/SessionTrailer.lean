import Supervsr.FrameSessions
import Supervsr.Lib.Transition

/-
# Supervsr.SessionTrailer — session tables over whole histories of calls

What `PlanCommit`, `CommitAt`, `Abort` and `DecodeTrailer` keep of the table: one record per client, the
count of the occupied slots, and records that the decoder of the trailer accepts.  A plan holds its slot and
not its client, so the first of these rests on the callers: no client has two plans at once.
-/

namespace Supervsr

open Bytes Transition SessionTableOf SessionRecordOf

variable {plan : FrameSessionPlan} {slot index count total : Nat} {decoded : List (Option FrameSession)}
  {reserved : FrameSessionTable} {held : FrameSessionSlot} {record : FrameSession} {config : FrameSessionConfig}

namespace FrameSession

/-- At most one record per client. -/
def Distinct (records : List (Option FrameSession)) : Prop :=
  ∀ (first second : Nat) (record other : FrameSession), records[first]? = some (some record) →
    records[second]? = some (some other) → record.client = other.client → first = second

theorem Distinct.set {records : List (Option FrameSession)} (distinct : Distinct records)
    (alone : ∀ {index : Nat} {other : FrameSession}, records[index]? = some (some other) →
      other.client = record.client → index = slot) : Distinct (records.set slot (some record)) := by
  -- a record of the new list is the new one in its slot, or an old one
  have horigin : ∀ {index : Nat} {held : FrameSession}, (records.set slot (some record))[index]? = some (some held) →
      (index = slot ∧ held = record) ∨ records[index]? = some (some held) := by
    intro index held hheld
    rw [List.getElem?_set] at hheld
    split_ifs at hheld with hindex hinside
    · cases hheld
      exact .inl ⟨hindex.symm, rfl⟩
    · exact .inr hheld
  intro first second held other hfirst hsecond hclient
  rcases horigin hfirst with ⟨hplace, hheld⟩ | hold <;> rcases horigin hsecond with ⟨hplace', hother⟩ | hold'
  · rw [hplace, hplace']
  · rw [hplace, alone hold' (by rw [← hclient, hheld])]
  · rw [hplace', alone hold (by rw [hclient, hother])]
  · exact distinct _ _ _ _ hold hold' hclient

theorem evictFrom_lt {slot selected : Nat} {oldest : Nat × Bytes} {ages : List (Nat × Bytes)}
    (inside : selected < slot) : evictFrom slot selected oldest ages < slot + ages.length := by
  induction ages generalizing slot selected oldest with
  | nil => exact inside
  | cons candidate rest ih =>
    rw [evictFrom, List.length_cons]
    split
    · have hrest : evictFrom (slot + 1) slot candidate rest < slot + 1 + rest.length := ih (Nat.lt_succ_self slot)
      omega
    · have hrest : evictFrom (slot + 1) selected oldest rest < slot + 1 + rest.length :=
        ih (Nat.lt_succ_of_lt inside)
      omega

theorem evictionSlot_lt {records : List (Option FrameSession)} (inhabited : 0 < records.length) :
    evictionSlot records < records.length := by
  cases records with
  | nil => cases inhabited
  | cons first rest =>
    have hrest : evictFrom 1 0 (age first) (rest.map age) < 1 + (rest.map age).length :=
      evictFrom_lt Nat.zero_lt_one
    rw [List.length_map, Nat.add_comm] at hrest
    exact hrest

/-- What a table keeps of its records: one per client, the count of them, and each one as the trailer can
hold it. -/
structure Kept (hash : ChecksumFunction) (config : FrameSessionConfig) (records : List (Option FrameSession))
    (count : Nat) : Prop where
  distinct : Distinct records
  counted : count = records.countP (·.isSome)
  valid : ∀ record, some record ∈ records →
    record.Representable ∧ config.validateOccupied hash record.reply record.session = true

namespace Kept

variable {hash : ChecksumFunction} {records : List (Option FrameSession)}

theorem empty (length : Nat) : Kept hash config (List.replicate length none) 0 where
  distinct := by
    intro first second record other hfirst
    rw [List.getElem?_replicate] at hfirst
    split_ifs at hfirst
    cases hfirst
  counted := by rw [List.countP_replicate]; rfl
  valid record hmem := by cases List.eq_of_mem_replicate hmem

variable (kept : Kept hash config records count)

include kept

/-- A valid record goes into a slot that no other record of its client contradicts. -/
theorem put {held : Option FrameSession}
    (old : records[slot]? = some held) (representable : record.Representable)
    (valid : config.validateOccupied hash record.reply record.session = true)
    (alone : ∀ {index : Nat} {other : FrameSession}, records[index]? = some (some other) →
      other.client = record.client → index = slot) :
    Kept hash config (records.set slot (some record)) (if held.isNone then count + 1 else count) where
  distinct := kept.distinct.set alone
  counted := by
    obtain ⟨hinside, hget⟩ := List.getElem?_eq_some_iff.mp old
    rw [List.countP_set hinside, hget, kept.counted]
    cases held with
    | none => simp
    | some other =>
      have hpositive : 0 < records.countP (·.isSome) :=
        List.countP_pos_iff.mpr ⟨some other, List.mem_of_getElem? old, rfl⟩
      simp only [Option.isNone_some, Option.isSome_some, if_true, Bool.false_eq_true, if_false]
      omega
  valid other hmem := by
    rcases List.mem_or_eq_of_mem_set hmem with hmem | heq
    · exact kept.valid other hmem
    · cases heq
      exact ⟨representable, valid⟩

theorem append_none : Kept hash config (records ++ [none]) count where
  distinct := by
    have hold : ∀ {index : Nat} {held : FrameSession}, (records ++ [none])[index]? = some (some held) →
        records[index]? = some (some held) := by
      intro index held hheld
      rw [List.getElem?_append] at hheld
      split_ifs at hheld with hinside
      · exact hheld
      · cases List.mem_singleton.mp (List.mem_of_getElem? hheld)
    exact fun _ _ _ _ hfirst hsecond hclient => kept.distinct _ _ _ _ (hold hfirst) (hold hsecond) hclient
  counted := by rw [List.countP_append, kept.counted]; rfl
  valid other hmem := by
    rcases List.mem_append.mp hmem with hmem | hmem
    · exact kept.valid other hmem
    · cases List.mem_singleton.mp hmem

/-- Appending a record is putting it into an empty slot at the end. -/
theorem append (representable : record.Representable)
    (valid : config.validateOccupied hash record.reply record.session = true)
    (new : ∀ other, some other ∈ records → other.client ≠ record.client) :
    Kept hash config (records ++ [some record]) (count + 1) := by
  have hlast : (records ++ [none])[records.length]? = some none := by simp
  have hput := kept.append_none.put hlast representable valid ?_
  · rw [List.set_append_right _ _ (Nat.le_refl _), Nat.sub_self] at hput
    exact hput
  intro index other hother hclient
  rcases List.mem_append.mp (List.mem_of_getElem? hother) with hmem | hmem
  · exact absurd hclient (new other hmem)
  · cases List.mem_singleton.mp hmem

end Kept

end FrameSession

open FrameSession

namespace FrameSessionTable

variable {hash : ChecksumFunction} {table next : FrameSessionTable}

/-! ## Slots and records -/

theorem records_modify (table : FrameSessionTable) (slot : Nat) {change : FrameSessionSlot → FrameSessionSlot}
    (keeps : ∀ held, (change held).record = held.record) :
    records { table with slots := table.slots.modify slot change } = table.records := by
  refine List.ext_getElem? fun index => ?_
  rw [records_getElem?, records_getElem?, List.getElem?_modify, Option.map_eq_map, Option.map_map]
  refine congrArg (Option.map · table.slots[index]?) (funext fun held => ?_)
  rw [Function.comp_apply]
  split
  · exact keeps held
  · rfl

@[simp] theorem records_reserve (table : FrameSessionTable) (slot : Nat) :
    (table.reserve slot).records = table.records := table.records_modify slot fun _ => rfl

@[simp] theorem records_abort : (table.abort plan).records = table.records := by
  unfold abort
  split
  · exact table.records_modify plan.slot fun _ => rfl
  · rfl

theorem records_restored (length : decoded.length = table.slots.length) :
    (table.restored decoded count).records = decoded := by
  rw [records, restored, List.map_zipWith]
  refine List.ext_getElem? fun index => ?_
  rw [List.getElem?_zipWith]
  by_cases hinside : index < decoded.length
  · rw [List.getElem?_eq_getElem hinside, List.getElem?_eq_getElem (length ▸ hinside)]
  · rw [List.getElem?_eq_none (Nat.not_lt.mp hinside), List.getElem?_eq_none (by omega)]

/-- A table with as many slots as configured, whose records are kept. -/
structure Sound (hash : ChecksumFunction) (table : FrameSessionTable) : Prop where
  length : table.slots.length = table.config.clientsMax
  inhabited : 0 < table.slots.length
  kept : Kept hash table.config table.records table.count

theorem sound_new (created : newFrameSessionTable config = some table) : table.Sound hash := by
  unfold newFrameSessionTable at created
  split at created
  · cases created
  rename_i hvalid
  cases created
  refine ⟨List.length_replicate, ?_, ?_⟩
  · rw [List.length_replicate]
    omega
  · rw [records, List.map_replicate]
    exact .empty _

/-! ## What each call does -/

/-- The slot of a plan is not reserved, and no other slot holds the client. -/
theorem Sound.planSlot_eq_ok (sound : table.Sound hash) {client : Bytes}
    (planned : table.planSlot client = .ok slot) :
    (∃ held, table.slots[slot]? = some held ∧ held.busy = false) ∧
      ∀ {index : Nat} {record : FrameSession}, table.records[index]? = some (some record) →
      record.client = client → index = slot := by
  have hidle : ∀ {index : Nat}, index < table.slots.length → ¬ (table.slots[index]?.any (·.busy)) = true →
      ∃ held, table.slots[index]? = some held ∧ held.busy = false := by
    intro index hinside hbusy
    refine ⟨_, List.getElem?_eq_getElem hinside, ?_⟩
    rw [List.getElem?_eq_getElem hinside] at hbusy
    simpa using hbusy
  unfold planSlot lookup at planned
  cases hfound : table.records.findIdx? (SessionRecordOf.holds client) with
  | some found =>
    obtain ⟨hinside, hholds, -⟩ := List.findIdx?_eq_some_iff_getElem.mp hfound
    rw [hfound] at planned
    obtain ⟨record, hrecord, hclient⟩ := (Option.any_eq_true _ _).mp hholds
    rw [decide_eq_true_eq] at hclient
    have hget : table.records[found]? = some (some record) := by
      rw [List.getElem?_eq_getElem hinside, hrecord]
    simp only [hget, Option.join_some] at planned
    split_ifs at planned with hbusy
    cases planned
    exact ⟨hidle (by rwa [length_records] at hinside) hbusy,
      fun hother hsame => sound.kept.distinct _ _ _ _ hother hget (hsame.trans hclient.symm)⟩
  | none =>
    have hnone := List.findIdx?_eq_none_iff.mp hfound
    rw [hfound] at planned
    refine ⟨?_, fun hother hsame => ?_⟩
    · simp only at planned
      split_ifs at planned with hfull hbusy hfree
      · cases planned
        refine hidle ?_ hbusy
        rw [← length_records]
        exact evictionSlot_lt (by rw [length_records]; exact sound.inhabited)
      · cases planned
        have hinside : table.slots.findIdx (fun slot => slot.record.isNone ∧ ¬ slot.busy) < table.slots.length :=
          Nat.lt_of_le_of_ne List.findIdx_le_length hfree
        refine ⟨_, List.getElem?_eq_getElem hinside, ?_⟩
        have hfirst := List.findIdx_getElem (w := hinside)
        simp only [decide_eq_true_eq] at hfirst
        simpa using hfirst.2
    · have hholds := hnone _ (List.mem_of_getElem? hother)
      simp [SessionRecordOf.holds, hsame] at hholds

theorem records_commitAt (commits : table.commitAt hash plan record = .ok next) :
    next.records = table.records.set plan.slot (some record) := by
  obtain ⟨-, -, -, held, -, rfl⟩ := commitAt_eq_ok commits
  exact List.map_set

section

variable (sound : table.Sound hash)

include sound

theorem Sound.reserve (slot : Nat) : Sound hash (table.reserve slot) where
  length := by rw [SessionTableOf.reserve, List.length_modify]; exact sound.length
  inhabited := by rw [SessionTableOf.reserve, List.length_modify]; exact sound.inhabited
  kept := by rw [records_reserve]; exact sound.kept

theorem Sound.abort (plan : FrameSessionPlan) : Sound hash (table.abort plan) := by
  have hkept := sound.kept
  rw [← records_abort] at hkept
  unfold SessionTableOf.abort at hkept ⊢
  split at hkept
  · rename_i hout
    rw [if_pos hout]
    exact ⟨by rw [List.length_modify]; exact sound.length, by rw [List.length_modify]; exact sound.inhabited, hkept⟩
  · rename_i hout
    rwa [if_neg hout]

theorem Sound.commitAt (representable : record.Representable)
    (commits : table.commitAt hash plan record = .ok next)
    (alone : ∀ {index : Nat} {other : FrameSession}, table.records[index]? = some (some other) →
      other.client = record.client → index = plan.slot) : next.Sound hash := by
  have hrecords := records_commitAt commits
  obtain ⟨-, -, hvalid, held, hheld, rfl⟩ := commitAt_eq_ok commits
  have hold : table.records[plan.slot]? = some held.record := by rw [records_getElem?, hheld]; rfl
  refine ⟨by rw [List.length_set]; exact sound.length, by rw [List.length_set]; exact sound.inhabited, ?_⟩
  rw [hrecords]
  exact sound.kept.put hold representable hvalid alone

theorem Sound.restored (length : decoded.length = table.slots.length)
    (kept : Kept hash table.config decoded count) : (table.restored decoded count).Sound hash := by
  have hlength : (table.restored decoded count).slots.length = table.slots.length := by
    rw [FrameSessionTable.restored, List.length_zipWith, length, Nat.min_self]
  exact ⟨hlength.trans sound.length, hlength.symm ▸ sound.inhabited, by rw [records_restored length]; exact kept⟩

end

/-! ## Decoding a trailer -/

/-- What the loop has decoded is kept, whatever the bytes are. -/
theorem kept_decodeSlots {entries : List (Bytes × Bytes)} {decoded final : List (Option FrameSession)}
    (widths : ∀ entry ∈ entries, entry.2.length = 8) (kept : Kept hash config decoded count)
    (decodes : decodeSlots hash config entries decoded count = some (final, total)) :
    Kept hash config final total ∧ final.length = decoded.length + entries.length := by
  induction entries generalizing decoded count with
  | nil =>
    cases decodes
    exact ⟨kept, rfl⟩
  | cons entry rest ih =>
    obtain ⟨headerBytes, sessionBytes⟩ := entry
    have hrest := fun other hmem => widths other (List.mem_cons_of_mem _ hmem)
    have hlength : ∀ held : Option FrameSession, (decoded ++ [held]).length + rest.length =
        decoded.length + (rest.length + 1) := by
      intro held
      rw [List.length_append, List.length_singleton]
      omega
    rw [decodeSlots] at decodes
    rw [List.length_cons]
    split_ifs at decodes with hempty hzero
    · rw [← hlength none]
      exact ih hrest kept.append_none decodes
    split at decodes
    · cases decodes
    rename_i header hheader
    split_ifs at decodes with hvalid hnew
    rw [← hlength (some ⟨header, uint sessionBytes⟩)]
    refine ih hrest (kept.append ⟨(decoded_of_decodeHeader hheader).representable, ?_⟩ ?_ ?_) decodes
    · have hbound := uint_lt sessionBytes
      rwa [widths _ List.mem_cons_self] at hbound
    · simpa using hvalid
    · intro other hmem hclient
      refine hnew (List.any_eq_true.mpr ⟨some other, hmem, ?_⟩)
      exact decide_eq_true hclient

/-- A valid header decodes from its encoding. -/
theorem decodeHeader_of_validateOccupied (representable : record.Representable)
    (valid : config.validateOccupied hash record.reply record.session = true) :
    decodeHeader hash (record.reply.encoded hash) config.group config.messageSizeMax config.activeCount =
      .ok record.reply := by
  unfold FrameSessionConfig.validateOccupied at valid
  simp only [decide_eq_true_eq] at valid
  obtain ⟨-, -, -, hgroup, -, hsize, -, -, hauthor, -, -, -, -, hencodes, -⟩ := valid
  obtain ⟨⟨sealed, encoded⟩, hencoded, hchecksum⟩ := (Option.any_eq_true _ _).mp hencodes
  rw [decide_eq_true_eq] at hchecksum
  obtain ⟨-, -, -, hsealed, rfl⟩ := encodeHeader_eq_some hash hencoded
  have hsame : sealed = record.reply := by
    rw [hsealed] at hchecksum ⊢
    rw [show record.reply.checksum hash = record.reply.headerChecksum from hchecksum]
  rw [hsame] at hencoded
  rw [← hgroup]
  exact decodeHeader_encodeHeader hash representable.reply hencoded hsize hauthor

theorem session_ne_zero (valid : config.validateOccupied hash record.reply record.session = true) :
    record.session ≠ 0 := by
  unfold FrameSessionConfig.validateOccupied at valid
  simp only [decide_eq_true_eq] at valid
  exact valid.1

/-- The bytes of kept records decode to them. -/
theorem decodeSlots_records {records decoded : List (Option FrameSession)}
    (kept : Kept hash config (decoded ++ records) total) :
    decodeSlots hash config (records.map fun held => (slotHeader hash held, slotSession held)) decoded count =
      some (decoded ++ records, count + records.countP (·.isSome)) := by
  induction records generalizing decoded count with
  | nil => rw [List.append_nil]; rfl
  | cons held rest ih =>
    have hkept : Kept hash config ((decoded ++ [held]) ++ rest) total := by
      rwa [List.append_assoc, List.singleton_append]
    rw [List.map_cons, decodeSlots, List.countP_cons]
    cases held with
    | none =>
      rw [if_pos (show uint (slotSession none) = 0 from uint_zeros 8), if_neg (by simp [slotHeader]), ih hkept,
        List.append_assoc]
      rfl
    | some record =>
      obtain ⟨hrepresentable, hvalid⟩ := kept.valid record (by simp)
      have hsession : uint (slotSession (some record)) = record.session := by
        rw [slotSession, Option.elim_some, uint_putUint, Nat.mod_eq_of_lt hrepresentable.session]
      have hheader : slotHeader hash (some record) = record.reply.encoded hash := rfl
      simp only [hsession, hheader, decodeHeader_of_validateOccupied hrepresentable hvalid, hvalid,
        session_ne_zero hvalid, not_true_eq_false, if_false]
      rw [if_neg, ih hkept, List.append_assoc]
      · simp only [Option.isSome_some, if_true]
        congr 2
        omega
      -- no earlier record is of the same client
      intro hany
      obtain ⟨prior, hmem, hprior⟩ := List.any_eq_true.mp hany
      obtain ⟨other, rfl, hclient⟩ := (Option.any_eq_true _ _).mp hprior
      rw [decide_eq_true_eq] at hclient
      obtain ⟨index, hindex⟩ := List.mem_iff_getElem?.mp hmem
      have hinside : index < decoded.length := (List.getElem?_eq_some_iff.mp hindex).1
      have hsame := kept.distinct index decoded.length other record
        (by rw [List.getElem?_append_left hinside, hindex]) (by simp) hclient
      omega

/-- The trailer of a sound table, read back slot by slot. -/
theorem Sound.readArray_trailer (sound : table.Sound hash) :
    (table.trailer hash).length = table.trailerSize ∧
      readArray (table.trailer hash) headerSize 0 table.slots.length = table.records.map (slotHeader hash) ∧
      readArray (table.trailer hash) 8 (table.slots.length * headerSize) table.slots.length =
        table.records.map slotSession := by
  have hheaders : ∀ entry ∈ table.records.map (slotHeader hash), entry.length = headerSize := by
    intro entry hmem
    obtain ⟨held, hheld, rfl⟩ := List.mem_map.mp hmem
    cases held with
    | none => exact length_zeros _
    | some record => exact FrameHeader.length_encoded (sound.kept.valid record hheld).1.reply
  have hsessions : ∀ entry ∈ table.records.map slotSession, entry.length = 8 := by
    intro entry hmem
    obtain ⟨held, -, rfl⟩ := List.mem_map.mp hmem
    cases held with
    | none => exact length_zeros _
    | some record => exact length_putUint _ _
  have hplaced : Placed table.trailerSize 0 (array headerSize 0 (table.records.map (slotHeader hash)) ++
      array 8 (table.slots.length * headerSize) (table.records.map slotSession)) := by
    refine placed_array hheaders (Nat.zero_le _) ?_
    rw [← List.append_nil (array 8 _ _)]
    refine placed_array hsessions ?_ ?_
    · rw [List.length_map, length_records, Nat.mul_comm, Nat.zero_add]
    · rw [List.length_map, length_records, trailerSize, Placed]
      omega
  have hlength : ∀ {read : Option FrameSession → Bytes}, (table.records.map read).length = table.slots.length := by
    intro read
    rw [List.length_map, length_records]
  refine ⟨length_record hplaced, ?_, ?_⟩
  · have hread := readArray_record hplaced hheaders fun field hmem => List.mem_append_left _ hmem
    rwa [hlength] at hread
  · have hread := readArray_record hplaced hsessions fun field hmem => List.mem_append_right _ hmem
    rwa [hlength] at hread

/-- A table without a reserved slot encodes. -/
theorem Sound.encodeTrailer_eq (sound : table.Sound hash) (idle : table.slots.any (·.busy) = false) :
    table.encodeTrailer hash table.trailerSize = .ok (table.trailer hash, hash.sum (table.trailer hash)) := by
  have hencodes : ¬ (table.records.any fun held => held.any (¬ ·.reply.encodes hash)) = true := by
    intro hany
    obtain ⟨held, hmem, hheld⟩ := List.any_eq_true.mp hany
    obtain ⟨record, rfl, hrecord⟩ := (Option.any_eq_true _ _).mp hheld
    rw [decide_eq_true_eq] at hrecord
    have hvalid := (sound.kept.valid record hmem).2
    unfold FrameSessionConfig.validateOccupied at hvalid
    simp only [decide_eq_true_eq] at hvalid
    exact hrecord hvalid.2.2.2.2.2.2.2.2.2.2.2.2.2.1
  rw [encodeTrailer, if_neg (fun h => h rfl), if_neg (by rw [idle]; exact Bool.false_ne_true), if_neg hencodes]

/-- The trailer of a table restores its records and its count in every table of the same configuration. -/
theorem Sound.decodeTrailer_trailer (sound : table.Sound hash) {other : FrameSessionTable}
    (config : other.config = table.config) (length : other.slots.length = table.slots.length) :
    other.decodeTrailer hash (table.trailer hash) (hash.sum (table.trailer hash)) =
      (other.restored table.records table.count, none) := by
  obtain ⟨hlength, hheaders, hsessions⟩ := sound.readArray_trailer
  have hsize : other.trailerSize = table.trailerSize := by rw [trailerSize, trailerSize, length]
  have hslots : decodeSlots hash table.config
      (table.records.map fun held => (slotHeader hash held, slotSession held)) [] 0 =
      some (table.records, table.count) := by
    have hkept : Kept hash table.config ([] ++ table.records) table.count := sound.kept
    rw [decodeSlots_records hkept, List.nil_append, Nat.zero_add, ← sound.kept.counted]
  rw [decodeTrailer, if_neg (by rw [hsize, hlength]; exact fun h => h rfl), if_neg (fun h => h rfl)]
  simp only [length, hheaders, hsessions, List.zip_map', config, hslots]

/-! ## Generations and outstanding plans -/

theorem generation_of_getElem? (get : table.slots[slot]? = some held) :
    table.generation slot = held.generation := by rw [generation, get]; rfl

theorem slots_reserve_self (get : table.slots[slot]? = some held) :
    (table.reserve slot).slots[slot]? =
      some { held with busy := true, generation := (held.generation + 1) % 256 ^ 8 } := by
  simp [reserve, get]

theorem slots_reserve_of_ne (other : slot ≠ index) :
    (table.reserve slot).slots[index]? = table.slots[index]? := by
  simp [reserve, other]

/-- A slot of an aborted table has its old generation, and is reserved only if it was. -/
theorem slots_abort :
    (table.abort plan).generation index = table.generation index ∧
      ∀ held, (table.abort plan).slots[index]? = some held → held.busy = true →
        table.slots[index]? = some held := by
  unfold abort
  split
  · rw [generation, generation, List.getElem?_modify]
    cases table.slots[index]? with
    | none => exact ⟨rfl, fun _ hheld => by cases hheld⟩
    | some old =>
      by_cases hindex : plan.slot = index
      · refine ⟨by simp [hindex], fun held hheld hbusy => ?_⟩
        simp only [hindex, if_true, Option.map_eq_map, Option.map_some, Option.some.injEq] at hheld
        rw [← hheld] at hbusy
        cases hbusy
      · simp [hindex]
  · exact ⟨rfl, fun _ hheld _ => hheld⟩

/-- A commit changes the record of its slot and releases it. -/
theorem slots_commitAt (commits : table.commitAt hash plan record = .ok next) :
    next.generation index = table.generation index ∧ ∀ held, next.slots[index]? = some held → held.busy = true →
      table.slots[index]? = some held ∧ index ≠ plan.slot := by
  obtain ⟨-, -, -, old, hold, rfl⟩ := commitAt_eq_ok commits
  rw [generation, generation, List.getElem?_set]
  by_cases hindex : plan.slot = index
  · subst hindex
    have hinside := (List.getElem?_eq_some_iff.mp hold).1
    simp only [if_true, hinside, hold, Option.elim_some, true_and]
    intro held hheld hbusy
    cases hheld
    cases hbusy
  · rw [if_neg hindex]
    exact ⟨rfl, fun held hheld _ => ⟨hheld, fun h => hindex h.symm⟩⟩

/-- A restored table has no reserved slot, and each slot is of the next generation. -/
theorem slots_restored (table : FrameSessionTable) (count : Nat) (length : decoded.length = table.slots.length)
    (index : Nat) :
    (table.restored decoded count).generation index =
      (if index < table.slots.length then (table.generation index + 1) % 256 ^ 8 else 0) ∧
      ∀ held, (table.restored decoded count).slots[index]? = some held → held.busy = false := by
  rw [generation, restored, List.getElem?_zipWith]
  by_cases hinside : index < table.slots.length
  · rw [List.getElem?_eq_getElem hinside, List.getElem?_eq_getElem (length ▸ hinside), if_pos hinside,
      generation, List.getElem?_eq_getElem hinside]
    exact ⟨rfl, fun held hheld => by cases hheld; rfl⟩
  · rw [List.getElem?_eq_none (Nat.not_lt.mp hinside), if_neg hinside]
    exact ⟨rfl, fun held hheld => by cases hheld⟩

theorem generation_le_reserve (room : table.generation index + 1 < 256 ^ 8) :
    table.generation index ≤ (table.reserve slot).generation index := by
  by_cases hindex : slot = index
  · subst hindex
    cases hget : table.slots[slot]? with
    | none => rw [generation, hget]; exact Nat.zero_le _
    | some held =>
      rw [generation_of_getElem? hget] at room ⊢
      rw [generation_of_getElem? (slots_reserve_self hget)]
      dsimp only
      rw [Nat.mod_eq_of_lt room]
      exact Nat.le_succ _
  · rw [generation, generation, slots_reserve_of_ne hindex]

theorem generation_le_restored (count : Nat) (length : decoded.length = table.slots.length)
    (room : table.generation index + 1 < 256 ^ 8) :
    table.generation index ≤ (table.restored decoded count).generation index := by
  rw [(slots_restored table count length index).1]
  split
  · rw [Nat.mod_eq_of_lt room]
    exact Nat.le_succ _
  · rename_i hinside
    rw [generation, List.getElem?_eq_none (Nat.not_lt.mp hinside)]
    exact Nat.le_refl _

/-- `DecodeTrailer` fails and leaves the table, or it restores kept records. -/
theorem decodeTrailer_cases (source expectedChecksum : Bytes) :
    (∃ reason, table.decodeTrailer hash source expectedChecksum = (table, some reason)) ∨
      ∃ decoded count, table.decodeTrailer hash source expectedChecksum = (table.restored decoded count, none) ∧
        decoded.length = table.slots.length ∧ Kept hash table.config decoded count := by
  unfold decodeTrailer
  split
  · exact .inl ⟨_, rfl⟩
  rename_i hlength
  split
  · exact .inl ⟨_, rfl⟩
  dsimp only
  split
  · exact .inl ⟨_, rfl⟩
  rename_i decoded count hdecodes
  rw [ne_eq, not_not, trailerSize] at hlength
  obtain ⟨hkept, hcount⟩ := kept_decodeSlots (fun entry hmem =>
    length_of_mem_readArray (by omega) entry.2 (List.of_mem_zip hmem).2) (.empty 0) hdecodes
  refine .inr ⟨decoded, count, rfl, ?_, hkept⟩
  simpa using hcount

end FrameSessionTable

/-! ## Histories -/

/-- A call on the table. -/
inductive SessionCall where
  | plan (record : FrameSession) (representable : record.Representable)
  | commit (plan : FrameSessionPlan) (record : FrameSession) (representable : record.Representable)
  | abort (plan : FrameSessionPlan)
  | load (source checksum : Bytes)

/-- A table, the plans it has issued, and how many calls were made. -/
structure SessionHistory where
  table : FrameSessionTable
  issued : List FrameSessionPlan
  calls : Nat
deriving DecidableEq, Repr

namespace SessionHistory

/-- One call, whatever it returns. -/
def step (hash : ChecksumFunction) (history : SessionHistory) (call : SessionCall) : Option SessionHistory :=
  let calls := history.calls + 1
  match call with
  | .plan record _ =>
    match history.table.planCommit hash record with
    | .error _ => some { history with calls }
    | .ok (plan, reserved) => some ⟨reserved, plan :: history.issued, calls⟩
  | .commit plan record _ =>
    match history.table.commitAt hash plan record with
    | .error _ => some { history with calls }
    | .ok table => some { history with table, calls }
  | .abort plan => some { history with table := history.table.abort plan, calls }
  | .load source checksum =>
    some { history with table := (history.table.decodeTrailer hash source checksum).1, calls }

/-- Plans are committed only if the table has issued them, and a generation does not come round. -/
def proper (history : SessionHistory) (call : SessionCall) : Bool :=
  history.calls + 1 < 256 ^ 8 &&
    match call with
    | .commit plan _ _ => plan ∈ history.issued
    | _ => true

/-- Besides, no plan is asked for while its client has one outstanding. -/
def orderly (history : SessionHistory) (call : SessionCall) : Bool :=
  history.proper call &&
    match call with
    | .plan record _ =>
      history.issued.all fun plan => ¬ (history.table.outstanding plan ∧ plan.client = record.client)
    | _ => true

/-- What orderly calls keep: the records of the table; plans of no later generation than their slot; and
outstanding plans that neither a record in another slot nor one another contradict. -/
structure Orderly (hash : ChecksumFunction) (history : SessionHistory) : Prop where
  sound : history.table.Sound hash
  bounded : ∀ slot, history.table.generation slot ≤ history.calls
  issued : ∀ plan ∈ history.issued, plan.generation ≤ history.table.generation plan.slot
  alone : ∀ plan ∈ history.issued, history.table.outstanding plan = true → ∀ {index : Nat} {record : FrameSession},
    history.table.records[index]? = some (some record) → record.client = plan.client → index = plan.slot
  apart : ∀ plan ∈ history.issued, ∀ other ∈ history.issued, history.table.outstanding plan = true →
    history.table.outstanding other = true → plan.client = other.client → plan.slot = other.slot

open FrameSessionTable

variable {hash : ChecksumFunction} {history next : SessionHistory} {table : FrameSessionTable}

/-- An orderly history with one more call: generations only rise. -/
structure Onward (hash : ChecksumFunction) (history next : SessionHistory) : Prop extends next.Orderly hash where
  rising : ∀ slot, history.table.generation slot ≤ next.table.generation slot

section

variable (ordered : history.Orderly hash)

include ordered

/-- A call that leaves the records, raises no generation beyond the calls and makes no plan outstanding. -/
theorem Orderly.settle (sound : table.Sound hash)
    (bounded : ∀ slot, table.generation slot ≤ history.calls + 1)
    (rising : ∀ slot, history.table.generation slot ≤ table.generation slot)
    (kept : ∀ plan ∈ history.issued, table.outstanding plan = true →
      history.table.outstanding plan = true ∧ ∀ {index : Nat} {record : FrameSession},
      table.records[index]? = some (some record) → record.client = plan.client →
      history.table.records[index]? = some (some record)) :
    Onward hash history { history with table, calls := history.calls + 1 } where
  rising := rising
  sound := sound
  bounded := bounded
  issued plan hmem := Nat.le_trans (ordered.issued plan hmem) (rising plan.slot)
  alone plan hmem hout _ _ hrecord hclient :=
    ordered.alone plan hmem (kept plan hmem hout).1 ((kept plan hmem hout).2 hrecord hclient) hclient
  apart plan hmem other hmem' hout hout' :=
    ordered.apart plan hmem other hmem' (kept plan hmem hout).1 (kept other hmem' hout').1

theorem Orderly.reservation (room : history.calls + 1 < 256 ^ 8)
    (single : ∀ other ∈ history.issued, history.table.outstanding other = true → other.client ≠ record.client)
    (planned : history.table.planCommit hash record = .ok (plan, reserved)) :
    Onward hash history ⟨reserved, plan :: history.issued, history.calls + 1⟩ := by
  obtain ⟨-, hslot, rfl, hplan⟩ := planCommit_eq_ok planned
  obtain ⟨⟨held, hheld, -⟩, halone⟩ := ordered.sound.planSlot_eq_ok hslot
  have hclient : plan.client = record.client := by rw [hplan]
  have hgeneration : plan.generation = (history.table.reserve plan.slot).generation plan.slot := by rw [hplan]
  have hbound : held.generation ≤ history.calls := by
    rw [← generation_of_getElem? hheld]
    exact ordered.bounded plan.slot
  have hself : (history.table.reserve plan.slot).generation plan.slot = held.generation + 1 := by
    rw [generation_of_getElem? (slots_reserve_self hheld)]
    exact Nat.mod_eq_of_lt (by omega)
  have hother : ∀ {index : Nat}, plan.slot ≠ index →
      (history.table.reserve plan.slot).generation index = history.table.generation index := by
    intro index hindex
    rw [SessionTableOf.generation, slots_reserve_of_ne hindex, SessionTableOf.generation]
  -- an older plan of the slot is of an older generation, so it is no longer outstanding
  have hout : ∀ other ∈ history.issued, (history.table.reserve plan.slot).outstanding other = true →
      history.table.outstanding other = true := by
    intro other hmem hout
    obtain ⟨slot, hget, hbusy, hsame⟩ := outstanding_iff.mp hout
    by_cases hindex : plan.slot = other.slot
    · have hle := ordered.issued other hmem
      rw [← hsame, ← generation_of_getElem? hget, ← hindex, hself, generation_of_getElem? hheld] at hle
      omega
    · rw [slots_reserve_of_ne hindex] at hget
      exact outstanding_iff.mpr ⟨slot, hget, hbusy, hsame⟩
  have hrecords := records_reserve history.table plan.slot
  have hsettled : Onward hash history ⟨history.table.reserve plan.slot, history.issued, history.calls + 1⟩ := by
    refine ordered.settle (ordered.sound.reserve plan.slot) (fun index => ?_) (fun index => ?_) fun other hmem h =>
      ⟨hout other hmem h, fun hget _ => by rwa [hrecords] at hget⟩
    · by_cases hindex : plan.slot = index
      · rw [← hindex, hself]
        omega
      · rw [hother hindex]
        exact Nat.le_succ_of_le (ordered.bounded index)
    · exact generation_le_reserve (Nat.lt_of_le_of_lt (Nat.succ_le_succ (ordered.bounded index)) room)
  have hsingle : ∀ other ∈ history.issued, (history.table.reserve plan.slot).outstanding other = true →
      other.client ≠ plan.client := fun other hmem h => hclient ▸ single other hmem (hout other hmem h)
  refine ⟨⟨hsettled.sound, hsettled.bounded, ?_, ?_, ?_⟩, hsettled.rising⟩
  · rintro other (_ | ⟨_, hmem⟩)
    · exact Nat.le_of_eq hgeneration
    · exact hsettled.issued other hmem
  · rintro other (_ | ⟨_, hmem⟩) hother index record hget hsame
    · rw [hrecords] at hget
      exact halone hget (hsame.trans hclient)
    · exact hsettled.alone other hmem hother hget hsame
  · rintro first (_ | ⟨_, hfirst⟩) second (_ | ⟨_, hsecond⟩) hout hout' hsame
    · rfl
    · exact absurd hsame.symm (hsingle second hsecond hout')
    · exact absurd hsame (hsingle first hfirst hout)
    · exact hsettled.apart first hfirst second hsecond hout hout' hsame

theorem Orderly.commit (representable : record.Representable)
    (mem : plan ∈ history.issued) (commits : history.table.commitAt hash plan record = .ok table) :
    Onward hash history { history with table, calls := history.calls + 1 } := by
  obtain ⟨hplan, hclient, -, -⟩ := commitAt_eq_ok commits
  have hsound := ordered.sound.commitAt representable commits fun hget hsame =>
    ordered.alone plan mem hplan hget (hsame.trans hclient.symm)
  refine ordered.settle hsound (fun index => ?_) (fun index => ?_) fun other hmem hout => ?_
  · rw [(slots_commitAt commits).1]
    exact Nat.le_succ_of_le (ordered.bounded index)
  · rw [(slots_commitAt commits).1]
  obtain ⟨held, hget, hbusy, hgeneration⟩ := outstanding_iff.mp hout
  obtain ⟨hget, hslot⟩ := (slots_commitAt commits).2 held hget hbusy
  have hold := outstanding_iff.mpr ⟨held, hget, hbusy, hgeneration⟩
  refine ⟨hold, fun {index} {found} hfound hsame => ?_⟩
  rw [records_commitAt commits, List.getElem?_set] at hfound
  split_ifs at hfound with hindex hinside
  · -- the new record is of the client of its own plan
    cases hfound
    exact absurd (ordered.apart other hmem plan mem hold hplan (hsame.symm.trans hclient.symm)) hslot
  · exact hfound

theorem Orderly.abort (plan : FrameSessionPlan) :
    Onward hash history { history with table := history.table.abort plan, calls := history.calls + 1 } := by
  refine ordered.settle (ordered.sound.abort plan) (fun index => ?_) (fun index => ?_) fun other hmem hout => ?_
  · rw [slots_abort.1]
    exact Nat.le_succ_of_le (ordered.bounded index)
  · rw [slots_abort.1]
  obtain ⟨held, hget, hbusy, hgeneration⟩ := outstanding_iff.mp hout
  refine ⟨outstanding_iff.mpr ⟨held, (slots_abort).2 held hget hbusy, hbusy,
    hgeneration⟩, fun hfound _ => ?_⟩
  rwa [records_abort] at hfound

theorem Orderly.load (room : history.calls + 1 < 256 ^ 8) (source checksum : Bytes) :
    Onward hash history { history with
      table := (history.table.decodeTrailer hash source checksum).1, calls := history.calls + 1 } := by
  rcases decodeTrailer_cases source checksum with
    ⟨reason, hfails⟩ | ⟨decoded, count, hloads, hlength, hkept⟩
  · rw [hfails]
    exact ordered.settle ordered.sound (fun index => Nat.le_succ_of_le (ordered.bounded index))
      (fun _ => Nat.le_refl _) fun _ _ hout => ⟨hout, fun hfound _ => hfound⟩
  rw [hloads]
  have hslots := slots_restored history.table count hlength
  refine ordered.settle (ordered.sound.restored hlength hkept) (fun index => ?_) (fun index => ?_)
    fun other hmem hout => ?_
  · rw [(hslots index).1]
    have hbound := ordered.bounded index
    split
    · rw [Nat.mod_eq_of_lt (by omega)]
      omega
    · exact Nat.zero_le _
  · exact generation_le_restored count hlength
      (Nat.lt_of_le_of_lt (Nat.succ_le_succ (ordered.bounded index)) room)
  · obtain ⟨held, hget, hbusy, -⟩ := outstanding_iff.mp hout
    rw [(hslots other.slot).2 held hget] at hbusy
    cases hbusy

theorem Orderly.step {call : SessionCall} (allowed : history.orderly call = true)
    (taken : history.step hash call = some next) :
    Onward hash history next := by
  unfold orderly proper at allowed
  simp only [Bool.and_eq_true, decide_eq_true_eq] at allowed
  obtain ⟨⟨hroom, hissued⟩, hsingle⟩ := allowed
  have hrefused : Onward hash history { history with calls := history.calls + 1 } :=
    ordered.settle ordered.sound (fun slot => Nat.le_succ_of_le (ordered.bounded slot)) (fun _ => Nat.le_refl _)
      fun _ _ hout => ⟨hout, fun hfound _ => hfound⟩
  cases call with
  | plan record representable =>
    simp only [SessionHistory.step] at taken
    split at taken
    · cases taken
      exact hrefused
    rename_i plan reserved hplanned
    cases taken
    refine ordered.reservation hroom (fun other hmem hout hclient => ?_) hplanned
    have hother := List.all_eq_true.mp hsingle other hmem
    rw [decide_eq_true_eq] at hother
    exact hother ⟨hout, hclient⟩
  | commit plan record representable =>
    simp only [SessionHistory.step] at taken
    split at taken
    · cases taken
      exact hrefused
    · rename_i table hcommits
      cases taken
      exact ordered.commit representable (by simpa using hissued) hcommits
  | abort plan =>
    cases taken
    exact ordered.abort plan
  | load source checksum =>
    cases taken
    exact ordered.load hroom source checksum

end

theorem orderly_new (created : newFrameSessionTable config = some table) : Orderly hash ⟨table, [], 0⟩ := by
  refine ⟨sound_new created, fun slot => ?_, fun _ hmem => (nomatch hmem), fun _ hmem => (nomatch hmem),
    fun _ hmem => (nomatch hmem)⟩
  unfold newFrameSessionTable at created
  split at created
  · cases created
  cases created
  rw [SessionTableOf.generation, List.getElem?_replicate]
  split <;> exact Nat.le_refl _

/-- The histories of orderly calls. -/
abbrev Reached (hash : ChecksumFunction) : SessionHistory → SessionHistory → Prop :=
  Reaches (step hash) fun history call => history.orderly call = true

theorem Orderly.reached (ordered : history.Orderly hash) (reached : Reached hash history next) :
    next.Orderly hash :=
  Reaches.invariant ordered (fun kept allowed taken => (kept.step allowed taken).toOrderly) reached

/-- Once a slot has left the generation of a plan, the plan can never commit. -/
theorem Orderly.overtaken (ordered : history.Orderly hash) (mem : plan ∈ history.issued)
    (left : plan.generation ≠ history.table.generation plan.slot) (reached : Reached hash history next)
    (record : FrameSession) : next.table.commitAt hash plan record = .error .encoding := by
  have hbehind : next.Orderly hash ∧ plan.generation < next.table.generation plan.slot := by
    induction reached with
    | refl => exact ⟨ordered, Nat.lt_of_le_of_ne (ordered.issued plan mem) left⟩
    | step _ hallowed htaken ih =>
      have honward := ih.1.step hallowed htaken
      exact ⟨honward.toOrderly, Nat.lt_of_lt_of_le ih.2 (honward.rising plan.slot)⟩
  unfold commitAt commitAtOf
  split
  · rfl
  rename_i held hheld
  have hgeneration := hbehind.2
  rw [generation_of_getElem? hheld] at hgeneration
  rw [if_pos (.inr (.inl (Nat.ne_of_gt hgeneration)))]

/-! ## Every history -/

/-- A table with two slots, for one active member. -/
def sampleConfig : FrameSessionConfig where
  clientsMax := 2
  group := zeros 16
  activeCount := 1
  messageSizeMax := 512
  applicationReplySizeMax := 256

/-- The header of an empty reply; request 0 is the registration. -/
def sampleReply (client op request : Nat) : FrameHeader :=
  let header : FrameHeader := {
    headerChecksum := zeros 16
    bodyChecksum := zeros 16
    group := zeros 16
    size := headerSize
    epoch := 0
    view := 0
    release := 1
    protocol := protocolVersion
    command := .reply
    author := 0
    fields := Bytes.record 128 [(64, putUint 16 client), (80, putUint 8 op), (88, putUint 8 op),
      (96, putUint 8 1), (104, putUint 4 request),
      (108, putUint 1 (if request = 0 then Operation.register.code else operationApplicationMin))] }
  { header with headerChecksum := header.checksum digitSum }

/-- The session of a client that has just registered. -/
def sampleSession (client : Nat) : FrameSession := ⟨sampleReply client 1 0, 1⟩

theorem sampleReply_representable (client op request : Nat) : (sampleReply client op request).Representable :=
  ⟨length_zeros _, length_zeros _, (by decide : headerSize < 256 ^ 4), (by decide : 0 < 256 ^ 4),
    (by decide : 1 < 256 ^ 4), (by decide : 0 < 256 ^ 1), length_record (by simp [Placed])⟩

theorem sampleSession_representable (client : Nat) : (sampleSession client).Representable :=
  ⟨sampleReply_representable client 1 0, (by decide : 1 < 256 ^ 8)⟩

/-- The first plan of a slot, for the client. -/
def samplePlan (client slot : Nat) : FrameSessionPlan :=
  ⟨slot, 1, putUint 16 client, 1, (sampleReply client 1 0).headerChecksum⟩

def sampleTable : FrameSessionTable := ⟨sampleConfig, [⟨none, false, 0⟩, ⟨none, false, 0⟩], 0⟩

/-- The session table over every orderly history: one record per client, counted; a plan of an earlier
generation never commits; the trailer of a table without a reserved slot restores its records and count; and
a `DecodeTrailer` that fails leaves the table as it was. -/
theorem session_histories {config : FrameSessionConfig} {table : FrameSessionTable}
    (created : newFrameSessionTable config = some table) (reached : Reached hash ⟨table, [], 0⟩ history) :
    Distinct history.table.records ∧ history.table.count = history.table.records.countP (·.isSome) ∧
      (∀ plan ∈ history.issued, plan.generation ≠ history.table.generation plan.slot →
        ∀ later, Reached hash history later → ∀ record,
          later.table.commitAt hash plan record = .error .encoding) ∧
      (history.table.slots.any (·.busy) = false →
        ∃ trailer checksum, history.table.encodeTrailer hash history.table.trailerSize = .ok (trailer, checksum) ∧
          ∀ other : FrameSessionTable, other.config = history.table.config →
            other.slots.length = other.config.clientsMax →
            ∃ restored, other.decodeTrailer hash trailer checksum = (restored, none) ∧
              restored.records = history.table.records ∧ restored.count = history.table.count) ∧
      ∀ (other : FrameSessionTable) (source checksum : Bytes),
        (other.decodeTrailer hash source checksum).2 ≠ none →
          (other.decodeTrailer hash source checksum).1 = other := by
  have hordered := (orderly_new created).reached reached
  refine ⟨hordered.sound.kept.distinct, hordered.sound.kept.counted, fun plan hmem hleft later hlater record =>
    hordered.overtaken hmem hleft hlater record, fun hidle => ?_, fun other source checksum hfails => ?_⟩
  · refine ⟨_, _, hordered.sound.encodeTrailer_eq hidle, fun other hconfig hlength => ?_⟩
    have hslots : other.slots.length = history.table.slots.length := by
      rw [hlength, hconfig, hordered.sound.length]
    exact ⟨_, hordered.sound.decodeTrailer_trailer hconfig hslots,
      records_restored (by rw [length_records, hslots]), rfl⟩
  · rcases decodeTrailer_cases source checksum with ⟨reason, hsame⟩ | ⟨decoded, count, hloads, -⟩
    · rw [hsame]
    · rw [hloads] at hfails
      exact absurd rfl hfails

/-- A plan, its commit, and the trailer of the table. -/
theorem session_histories_sample : ∃ history : SessionHistory,
    Reached digitSum ⟨sampleTable, [], 0⟩ history ∧ Distinct history.table.records ∧
      history.table.slots.any (·.busy) = false ∧
      ∃ trailer checksum, history.table.encodeTrailer digitSum history.table.trailerSize = .ok (trailer, checksum) := by
  have hpassed : passes (step digitSum) orderly ⟨sampleTable, [], 0⟩
      [.plan (sampleSession 5) (sampleSession_representable 5),
        .commit (samplePlan 5 0) (sampleSession 5) (sampleSession_representable 5)] = true := by decide +kernel
  have hran : ((exec (step digitSum) ⟨sampleTable, [], 0⟩
      [.plan (sampleSession 5) (sampleSession_representable 5),
        .commit (samplePlan 5 0) (sampleSession 5) (sampleSession_representable 5)]).any fun history =>
      history.table.slots.any (·.busy) = false) = true := by decide +kernel
  obtain ⟨history, hexec, hidle⟩ := (Option.any_eq_true _ _).mp hran
  rw [decide_eq_true_eq] at hidle
  have hreached : Reached digitSum ⟨sampleTable, [], 0⟩ history :=
    reaches_of_exec (fun _ _ h => h) hpassed hexec
  have hcreated : newFrameSessionTable sampleConfig = some sampleTable := by decide
  obtain ⟨hdistinct, -, -, htrailer, -⟩ := session_histories hcreated hreached
  obtain ⟨trailer, checksum, hencodes, -⟩ := htrailer hidle
  exact ⟨history, hreached, hdistinct, hidle, trailer, checksum, hencodes⟩

/-- Two plans of one new client, each committed. -/
def twoPlans : List SessionCall :=
  [.plan (sampleSession 5) (sampleSession_representable 5), .plan (sampleSession 5) (sampleSession_representable 5),
    .commit (samplePlan 5 0) (sampleSession 5) (sampleSession_representable 5),
    .commit (samplePlan 5 1) (sampleSession 5) (sampleSession_representable 5)]

/-- The callers keep a client to one plan: where they do not, the table has two records for it. -/
theorem twoPlans_distinct : newFrameSessionTable sampleConfig = some sampleTable ∧
    ∃ history, Reaches (step digitSum) (fun history call => history.proper call = true)
      ⟨sampleTable, [], 0⟩ history ∧ ¬ Distinct history.table.records := by
  have hpassed : passes (step digitSum) proper ⟨sampleTable, [], 0⟩ twoPlans = true := by decide +kernel
  have hran : ((exec (step digitSum) ⟨sampleTable, [], 0⟩ twoPlans).any fun history =>
      history.table.records = [some (sampleSession 5), some (sampleSession 5)]) = true := by decide +kernel
  obtain ⟨history, hexec, hrecords⟩ := (Option.any_eq_true _ _).mp hran
  rw [decide_eq_true_eq] at hrecords
  refine ⟨by decide, history, reaches_of_exec (fun _ _ h => h) hpassed hexec, fun hdistinct => ?_⟩
  rw [hrecords] at hdistinct
  exact absurd (hdistinct 0 1 (sampleSession 5) (sampleSession 5) rfl rfl rfl) (by decide)

end SessionHistory

end Supervsr
