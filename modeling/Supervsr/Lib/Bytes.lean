import Mathlib.Algebra.Ring.Nat
import Mathlib.Tactic.Common

/-
# Supervsr.Lib.Bytes — byte buffers with fields at fixed offsets

A buffer is a list of bytes.  A record is written by splicing each field into a cleared buffer and read
back by slicing it, as code over byte slices does; a slice sees the last write that covers it and
passes through writes elsewhere.  Numbers are stored with their low byte first.
-/

/-- A buffer. -/
abbrev Bytes := List UInt8

namespace Bytes

variable {start stop first index later limit offset width count length size : Nat}
  {data second front back source buffer : Bytes}
  {field : Nat × Bytes} {entries : List Bytes} {rest fields : List (Nat × Bytes)}

/-- The cleared buffer. -/
def zeros (length : Nat) : Bytes := List.replicate length 0

/-- The bytes from `start` up to, not including, `stop`. -/
def slice (buffer : Bytes) (start stop : Nat) : Bytes :=
  (buffer.drop start).take (stop - start)

/-- Overwrite the bytes from `start` on. -/
def splice (buffer : Bytes) (start : Nat) (data : Bytes) : Bytes :=
  buffer.take start ++ data ++ buffer.drop (start + data.length)

/-- Whether every byte is zero. -/
def allZero (buffer : Bytes) : Bool := buffer.all (· = 0)

/-- The low `width` bytes of a number, the lowest one first. -/
def putUint : Nat → Nat → Bytes
  | 0, _ => []
  | width + 1, value => UInt8.ofNat value :: putUint width (value / 256)

/-- The number a field holds. -/
def uint : Bytes → Nat
  | [] => 0
  | byte :: rest => byte.toNat + 256 * uint rest

/-! ## Lengths -/

@[simp] theorem length_zeros (length : Nat) : (zeros length).length = length := List.length_replicate

@[simp] theorem length_putUint (width value : Nat) : (putUint width value).length = width := by
  induction width generalizing value with
  | zero => rfl
  | succ width ih => rw [putUint, List.length_cons, ih]

theorem length_slice (fits : stop ≤ buffer.length) : (buffer.slice start stop).length = stop - start := by
  rw [slice, List.length_take, List.length_drop]
  omega

theorem length_splice (fits : start + data.length ≤ buffer.length) :
    (buffer.splice start data).length = buffer.length := by
  rw [splice, List.length_append, List.length_append, List.length_take, List.length_drop]
  omega

/-! ## Reading what was written -/

theorem splice_to_end (reaches : buffer.length ≤ start + data.length) :
    buffer.splice start data = buffer.take start ++ data := by
  rw [splice, List.drop_of_length_le reaches, List.append_nil]

theorem take_splice (data : Bytes) (fits : start ≤ buffer.length) :
    (buffer.splice start data).take (start + data.length) = buffer.take start ++ data := by
  rw [splice, List.take_left' (by rw [List.length_append, List.length_take, Nat.min_eq_left fits])]

/-- A field reads back as it was written. -/
theorem slice_splice_self (fits : start ≤ buffer.length) (exact : stop = start + data.length) :
    (buffer.splice start data).slice start stop = data := by
  have hlength : (buffer.take start).length = start := by
    rw [List.length_take]
    omega
  rw [slice, splice, List.append_assoc, List.drop_append_of_le_length (Nat.le_of_eq hlength.symm),
    List.drop_of_length_le (Nat.le_of_eq hlength), List.nil_append, exact, Nat.add_sub_cancel_left,
    List.take_append_of_le_length (Nat.le_refl _), List.take_length]

/-- A field does not see a write behind it. -/
theorem slice_splice_before (before : stop ≤ first) (fits : first ≤ buffer.length) :
    (buffer.splice first data).slice start stop = buffer.slice start stop := by
  have hlength : (buffer.take first).length = first := by
    rw [List.length_take]
    omega
  rcases Nat.le_total start first with hstart | hstart
  · rw [slice, splice, slice, List.append_assoc,
      List.drop_append_of_le_length (by rw [hlength]; exact hstart),
      List.take_append_of_le_length (by rw [List.length_drop, hlength]; omega), List.drop_take,
      List.take_take, Nat.min_eq_left (by omega)]
  · rw [slice, slice, show stop - start = 0 by omega, List.take_zero, List.take_zero]

/-- A field does not see a write before it. -/
theorem slice_splice_after (after : first + data.length ≤ start) (fits : first ≤ buffer.length) :
    (buffer.splice first data).slice start stop = buffer.slice start stop := by
  have hlength : (buffer.take first ++ data).length = first + data.length := by
    rw [List.length_append, List.length_take]
    omega
  rw [slice, splice, slice, List.drop_append, List.drop_of_length_le (by rw [hlength]; exact after),
    List.nil_append, hlength, List.drop_drop, Nat.add_sub_cancel' after]

/-- Of two writes to the same place the second one shows. -/
theorem splice_splice {first : Bytes} (fits : start ≤ buffer.length) (same : first.length = second.length) :
    (buffer.splice start first).splice start second = buffer.splice start second := by
  have hlength : (buffer.take start).length = start := by
    rw [List.length_take]
    omega
  have hfront : (buffer.splice start first).take start = buffer.take start := by
    rw [splice, List.append_assoc, List.take_left' hlength]
  have hback : (buffer.splice start first).drop (start + second.length) =
      buffer.drop (start + second.length) := by
    have hwritten : (buffer.take start ++ first).length = start + second.length := by
      rw [List.length_append, hlength, same]
    rw [splice, ← hwritten, List.drop_left, hwritten, same]
  rw [splice, hfront, hback, splice]

/-- Writing back what is there changes nothing. -/
theorem splice_slice (ordered : start ≤ stop) (fits : stop ≤ buffer.length) :
    buffer.splice start (buffer.slice start stop) = buffer := by
  rw [splice, length_slice fits, Nat.add_sub_cancel' ordered, slice, ← List.take_add,
    Nat.add_sub_cancel' ordered, List.take_append_drop]

theorem getElem?_splice (fits : start ≤ buffer.length) :
    (buffer.splice start data)[index]? = if start ≤ index ∧
      index < start + data.length then data[index - start]? else buffer[index]? := by
  have hfront : (buffer.take start).length = start := by
    rw [List.length_take]
    omega
  rw [splice, List.append_assoc]
  by_cases hbefore : index < start
  · rw [List.getElem?_append_left (by omega), List.getElem?_take_of_lt hbefore, if_neg (by omega)]
  rw [List.getElem?_append_right (by omega), hfront]
  by_cases hinside : index < start + data.length
  · rw [List.getElem?_append_left (by omega), if_pos (by omega)]
  · rw [List.getElem?_append_right (by omega), List.getElem?_drop, if_neg (by omega)]
    congr 1
    omega

/-- Writes to different places can change order. -/
theorem splice_comm {first : Bytes} (apart : start + first.length ≤ later)
    (fits : later + second.length ≤ buffer.length) :
    (buffer.splice start first).splice later second = (buffer.splice later second).splice start first := by
  have hfirst : (buffer.splice start first).length = buffer.length := length_splice (by omega)
  have hsecond : (buffer.splice later second).length = buffer.length := length_splice fits
  refine List.ext_getElem? fun index => ?_
  rw [getElem?_splice (by omega), getElem?_splice (by omega), getElem?_splice (by omega),
    getElem?_splice (by omega)]
  split_ifs <;> first | rfl | omega

/-- A field does not see a change of a byte elsewhere. -/
theorem slice_set_outside {byte : UInt8} (outside : index < start ∨ stop ≤ index) :
    slice (buffer.set index byte) start stop = buffer.slice start stop := by
  rcases outside with hbefore | hbehind
  · rw [slice, slice, List.drop_set_of_lt hbefore]
  rw [slice, slice, List.drop_set]
  split
  · rfl
  · rw [List.take_set, List.set_eq_of_length_le]
    rw [List.length_take]
    omega

theorem slice_zeros (fits : stop ≤ length) : (zeros length).slice start stop = zeros (stop - start) := by
  rw [slice, zeros, List.drop_replicate, List.take_replicate, zeros]
  congr 1
  omega

@[simp] theorem allZero_zeros (length : Nat) : (zeros length).allZero = true := by
  simp [allZero, zeros]

theorem slice_append_left (exact : stop = front.length) : slice (front ++ back) 0 stop = front := by
  rw [slice, List.drop_zero, Nat.sub_zero, exact, List.take_left]

theorem slice_append_right (exact : start = front.length) (whole : stop = start + back.length) :
    slice (front ++ back) start stop = back := by
  rw [slice, exact, List.drop_left, whole, exact, Nat.add_sub_cancel_left, List.take_length]

theorem slice_slice_front (fits : stop ≤ limit) :
    (buffer.slice 0 limit).slice start stop = buffer.slice start stop := by
  rw [slice, slice, slice, List.drop_zero, Nat.sub_zero, List.drop_take, List.take_take,
    Nat.min_eq_left (by omega)]

theorem slice_slice (fits : first + stop ≤ limit) :
    (buffer.slice first limit).slice start stop = buffer.slice (first + start) (first + stop) := by
  rw [slice, slice, slice, List.drop_take, List.drop_drop, List.take_take, Nat.min_eq_left (by omega)]
  congr 1
  omega

/-! ## Records -/

/-- A record: a cleared buffer into which fields are written at their offsets. -/
def record (length : Nat) (fields : List (Nat × Bytes)) : Bytes :=
  fields.foldl (fun buffer field => buffer.splice field.1 field.2) (zeros length)

/-- The fields lie one behind the other, from `start` on and within `length`. -/
def Placed (length : Nat) : Nat → List (Nat × Bytes) → Prop
  | start, [] => start ≤ length
  | start, field :: rest => start ≤ field.1 ∧ Placed length (field.1 + field.2.length) rest

theorem Placed.start_le (placed : Placed length start fields) : start ≤ length := by
  induction fields generalizing start with
  | nil => exact placed
  | cons field rest ih =>
    have hend := ih placed.2
    have hstart := placed.1
    omega

theorem Placed.field_le (placed : Placed length start fields) (hmem : field ∈ fields) :
    start ≤ field.1 ∧ field.1 + field.2.length ≤ length := by
  induction fields generalizing start with
  | nil => cases hmem
  | cons first rest ih =>
    rcases List.mem_cons.mp hmem with rfl | hmem
    · exact ⟨placed.1, placed.2.start_le⟩
    · have hrest := ih placed.2 hmem
      have hstart := placed.1
      omega

section Writes

section

variable (fits : ∀ field ∈ fields, field.1 + field.2.length ≤ buffer.length)

include fits

theorem length_writes :
    (fields.foldl (fun buffer field => buffer.splice field.1 field.2) buffer).length = buffer.length := by
  induction fields generalizing buffer with
  | nil => rfl
  | cons field rest ih =>
    have hlength := length_splice (fits field List.mem_cons_self)
    rw [List.foldl_cons, ih, hlength]
    intro other hmem
    rw [hlength]
    exact fits other (List.mem_cons_of_mem field hmem)

/-- Writes elsewhere do not show. -/
theorem slice_writes_gap
    (gap : ∀ field ∈ fields, stop ≤ field.1 ∨ field.1 + field.2.length ≤ start) :
    (fields.foldl (fun buffer field => buffer.splice field.1 field.2) buffer).slice start stop =
      buffer.slice start stop := by
  induction fields generalizing buffer with
  | nil => rfl
  | cons field rest ih =>
    have hfits := fits field List.mem_cons_self
    rw [List.foldl_cons, ih]
    · rcases gap field List.mem_cons_self with hbefore | hafter
      · exact slice_splice_before hbefore (by omega)
      · exact slice_splice_after hafter (by omega)
    · intro other hmem
      rw [length_splice hfits]
      exact fits other (List.mem_cons_of_mem field hmem)
    · intro other hmem
      exact gap other (List.mem_cons_of_mem field hmem)

end

/-- A field of a record reads back: the writes after it are behind it. -/
theorem slice_writes (placed : Placed buffer.length start fields) (hmem : field ∈ fields)
    (exact : stop = field.1 + field.2.length) :
    (fields.foldl (fun buffer field => buffer.splice field.1 field.2) buffer).slice field.1 stop =
      field.2 := by
  induction fields generalizing buffer start with
  | nil => cases hmem
  | cons first rest ih =>
    have hfirst := placed.field_le List.mem_cons_self
    have hlength := length_splice hfirst.2
    have hrest : Placed (buffer.splice first.1 first.2).length (first.1 + first.2.length) rest := by
      rw [hlength]
      exact placed.2
    rw [List.foldl_cons]
    rcases List.mem_cons.mp hmem with rfl | hmem
    · rw [slice_writes_gap]
      · exact slice_splice_self (by omega) exact
      · intro other hother
        exact (hrest.field_le hother).2
      · intro other hother
        exact .inl (by rw [exact]; exact (hrest.field_le hother).1)
    · exact ih hrest hmem

end Writes

section Record

theorem length_record (placed : Placed length 0 fields) : (record length fields).length = length := by
  rw [record, length_writes, length_zeros]
  intro field hmem
  rw [length_zeros]
  exact (placed.field_le hmem).2

theorem slice_record (placed : Placed length 0 fields) (hmem : (offset, data) ∈ fields)
    (exact : stop = offset + data.length) : (record length fields).slice offset stop = data := by
  rw [← length_zeros length] at placed
  exact slice_writes placed hmem exact

theorem slice_record_gap (placed : Placed length 0 fields) (fits : stop ≤ length)
    (gap : ∀ field ∈ fields, stop ≤ field.1 ∨ field.1 + field.2.length ≤ start) :
    (record length fields).slice start stop = zeros (stop - start) := by
  rw [record, slice_writes_gap _ gap, slice_zeros fits]
  intro field hmem
  rw [length_zeros]
  exact (placed.field_le hmem).2

/-- The first field of a record can be written last. -/
theorem record_cons (placed : Placed length 0 (field :: fields)) :
    record length (field :: fields) = (record length fields).splice field.1 field.2 := by
  have hwrites : ∀ {buffer : Bytes} {start : Nat} (fields : List (Nat × Bytes)),
      field.1 + field.2.length ≤ start → Placed buffer.length start fields →
      fields.foldl (fun buffer field => buffer.splice field.1 field.2) (buffer.splice field.1 field.2) =
        (fields.foldl (fun buffer field => buffer.splice field.1 field.2) buffer).splice field.1 field.2 := by
    intro buffer start fields hbefore hplaced
    induction fields generalizing buffer start with
    | nil => rfl
    | cons other rest ih =>
      have hother := hplaced.field_le List.mem_cons_self
      have hlength := length_splice hother.2
      rw [List.foldl_cons, List.foldl_cons, splice_comm (Nat.le_trans hbefore hother.1) hother.2]
      refine @ih _ (other.1 + other.2.length) ?_ ?_
      · omega
      · rw [hlength]
        exact hplaced.2
  refine hwrites fields (Nat.le_refl _) ?_
  rw [length_zeros]
  exact placed.2

end Record

/-! ## Numbers -/

theorem uint_putUint (width value : Nat) : uint (putUint width value) = value % 256 ^ width := by
  induction width generalizing value with
  | zero => rw [putUint, uint, Nat.pow_zero, Nat.mod_one]
  | succ width ih =>
    have hlow : (UInt8.ofNat value).toNat = value % 256 := UInt8.toNat_ofNat'
    rw [putUint, uint, ih, hlow, Nat.pow_succ', Nat.mod_mul]

theorem uint_lt (buffer : Bytes) : uint buffer < 256 ^ buffer.length := by
  induction buffer with
  | nil => exact Nat.one_pos
  | cons byte rest ih =>
    have hbyte : byte.toNat < 256 := byte.toNat_lt
    rw [uint, List.length_cons, Nat.pow_succ]
    omega

theorem uint_zeros (length : Nat) : uint (zeros length) = 0 := by
  induction length with
  | zero => rfl
  | succ length ih =>
    show (0 : UInt8).toNat + 256 * uint (zeros length) = 0
    rw [ih]
    rfl

theorem allZero_iff_uint : buffer.allZero = true ↔ uint buffer = 0 := by
  induction buffer with
  | nil => simp [allZero, uint]
  | cons byte rest ih =>
    have hbyte : byte = 0 ↔ byte.toNat = 0 := by
      rw [← UInt8.toNat_inj]
      rfl
    rw [allZero, List.all_cons, Bool.and_eq_true, decide_eq_true_eq, uint, hbyte]
    change byte.toNat = 0 ∧ allZero rest = true ↔ _
    rw [ih]
    omega

/-! ## A record is what its fields and the zeros between them say -/

/-- Writing back the number a field holds gives the field. -/
theorem putUint_uint (buffer : Bytes) : putUint buffer.length (uint buffer) = buffer := by
  induction buffer with
  | nil => rfl
  | cons byte rest ih =>
    have hbyte : byte.toNat < 256 := byte.toNat_lt
    have hlow : UInt8.ofNat (byte.toNat + 256 * uint rest) = byte := by
      rw [← UInt8.toNat_inj, UInt8.toNat_ofNat']
      omega
    have hhigh : (byte.toNat + 256 * uint rest) / 256 = uint rest := by omega
    rw [uint, List.length_cons, putUint, hlow, hhigh, ih]

theorem slice_eq_putUint (length : source.length = size) {start stop width : Nat} (fits : stop ≤ size)
    (exact : width = stop - start) :
    source.slice start stop = putUint width (uint (source.slice start stop)) := by
  rw [exact, ← length_slice (length.symm ▸ fits), putUint_uint]

theorem uint_slice_lt (length : source.length = size) {start stop : Nat} (fits : stop ≤ size) :
    uint (source.slice start stop) < 256 ^ (stop - start) := by
  rw [← length_slice (length.symm ▸ fits)]
  exact uint_lt _

@[simp] theorem slice_self (buffer : Bytes) (start : Nat) : buffer.slice start start = [] := by
  rw [slice, Nat.sub_self, List.take_zero]

@[simp] theorem allZero_nil : allZero [] = true := rfl

theorem eq_zeros_of_allZero (zero : buffer.allZero = true) : buffer = zeros buffer.length := by
  refine List.eq_replicate_iff.mpr ⟨rfl, fun byte hmem => ?_⟩
  exact of_decide_eq_true (List.all_eq_true.mp zero byte hmem)

theorem take_append_slice (ordered : start ≤ stop) :
    buffer.take start ++ buffer.slice start stop = buffer.take stop := by
  rw [slice, ← List.take_add, Nat.add_sub_cancel' ordered]

theorem allZero_slice_trans {middle : Nat} (first : start ≤ middle) (second : middle ≤ stop)
    (front : (buffer.slice start middle).allZero = true) (back : (buffer.slice middle stop).allZero = true) :
    (buffer.slice start stop).allZero = true := by
  have hparts : buffer.slice start stop = buffer.slice start middle ++ buffer.slice middle stop := by
    rw [slice, slice, slice, show stop - start = (middle - start) + (stop - middle) by omega, List.take_add,
      List.drop_drop, Nat.add_sub_cancel' first]
  rw [hparts, allZero, List.all_append, Bool.and_eq_true]
  exact ⟨front, back⟩

/-- Behind the bytes that were overwritten with zeros. -/
theorem slice_blanked {start stop : Nat} (behind : size ≤ start) :
    (source.splice 0 (zeros size)).slice start stop = source.slice start stop :=
  slice_splice_after (by rw [length_zeros]; omega) (Nat.zero_le _)

theorem allZero_blanked {stop : Nat} (within : size ≤ stop) (rest : (source.slice size stop).allZero = true) :
    ((source.splice 0 (zeros size)).slice 0 stop).allZero = true := by
  refine allZero_slice_trans (Nat.zero_le size) within ?_ ?_
  · rw [slice_splice_self (Nat.zero_le _) (by rw [length_zeros, Nat.zero_add]), allZero_zeros]
  · rw [slice_blanked (Nat.le_refl size)]
    exact rest

/-- The source holds the fields, one behind the other from `start` on, and zeros everywhere else. -/
def Tiled (source : Bytes) : Nat → List (Nat × Bytes) → Prop
  | start, [] => (source.slice start source.length).allZero = true
  | start, field :: rest =>
    (source.slice start field.1).allZero = true ∧
      source.slice field.1 (field.1 + field.2.length) = field.2 ∧
      Tiled source (field.1 + field.2.length) rest

/-- Writing the fields behind `start` into a buffer that is complete up to there and cleared behind it. -/
theorem writes_of_tiled (length : buffer.length = source.length) (placed : Placed source.length start fields)
    (tiled : Tiled source start fields) (done : buffer.take start = source.take start)
    (cleared : buffer.drop start = zeros (source.length - start)) :
    fields.foldl (fun buffer field => buffer.splice field.1 field.2) buffer = source := by
  induction fields generalizing buffer start with
  | nil =>
    have hrest : source.slice start source.length = source.drop start := by
      rw [slice, ← List.length_drop, List.take_length]
    have hzero := eq_zeros_of_allZero tiled
    rw [hrest, List.length_drop] at hzero
    rw [List.foldl_nil, ← List.take_append_drop start buffer, done, cleared, ← hzero, List.take_append_drop]
  | cons field rest ih =>
    obtain ⟨hgap, hfield, htiled⟩ := tiled
    have hstart : start ≤ field.1 := placed.1
    have hstop : field.1 + field.2.length ≤ source.length := placed.2.start_le
    have hfront : (buffer.take field.1 ++ field.2).length = field.1 + field.2.length := by
      rw [List.length_append, List.length_take]
      omega
    -- up to the field the buffer is the source: what was written, then the gap
    have hbefore : buffer.take field.1 = source.take field.1 := by
      have hzeros : buffer.slice start field.1 = source.slice start field.1 := by
        have hzero := eq_zeros_of_allZero hgap
        rw [length_slice (by omega)] at hzero
        rw [slice, cleared, hzero, zeros, List.take_replicate, Nat.min_eq_left (by omega), zeros]
      rw [← take_append_slice hstart, ← take_append_slice hstart, done, hzeros]
    have hbehind : buffer.drop (field.1 + field.2.length) =
        zeros (source.length - (field.1 + field.2.length)) := by
      rw [show field.1 + field.2.length = start + (field.1 + field.2.length - start) by omega, ← List.drop_drop,
        cleared, zeros, List.drop_replicate, zeros]
      congr 1
      omega
    rw [List.foldl_cons]
    refine ih ?_ placed.2 htiled ?_ ?_
    · rw [length_splice (by omega), length]
    · rw [splice, ← hfront, List.take_left, hfront, hbefore, ← take_append_slice (Nat.le_add_right _ _), hfield]
    · rw [splice, ← hfront, List.drop_left, hfront, hbehind]

/-- A source that holds the fields of a record, and zeros everywhere else, is the record. -/
theorem record_of_tiled (placed : Placed source.length 0 fields) (tiled : Tiled source 0 fields) :
    record source.length fields = source :=
  writes_of_tiled (length_zeros _) placed tiled rfl rfl

/-! ## Arrays of fields -/

/-- The fields of an array: entries of one width, one behind the other. -/
def array (width : Nat) : Nat → List Bytes → List (Nat × Bytes)
  | _, [] => []
  | start, entry :: rest => (start, entry) :: array width (start + width) rest

/-- The entries an array of `count` fields holds. -/
def readArray (source : Bytes) (width : Nat) : Nat → Nat → List Bytes
  | _, 0 => []
  | start, count + 1 => source.slice start (start + width) :: readArray source width (start + width) count

@[simp] theorem length_readArray (source : Bytes) (width start count : Nat) :
    (readArray source width start count).length = count := by
  induction count generalizing start with
  | zero => rfl
  | succ count ih => rw [readArray, List.length_cons, ih]

theorem length_of_mem_readArray (fits : start + width * count ≤ source.length) :
    ∀ entry ∈ readArray source width start count, entry.length = width := by
  induction count generalizing start with
  | zero => intro entry hmem; cases hmem
  | succ count ih =>
    rw [Nat.mul_succ] at fits
    intro entry hmem
    rcases List.mem_cons.mp hmem with rfl | hmem
    · rw [length_slice (by omega)]
      omega
    · exact ih (by omega) entry hmem

theorem placed_of_start_le (placed : Placed length later fields) (before : start ≤ later) :
    Placed length start fields := by
  cases fields with
  | nil => exact Nat.le_trans before placed
  | cons field rest => exact ⟨Nat.le_trans before placed.1, placed.2⟩

theorem placed_array (widths : ∀ entry ∈ entries, entry.length = width) (before : start ≤ offset)
    (placed : Placed length (offset + width * entries.length) rest) :
    Placed length start (array width offset entries ++ rest) := by
  induction entries generalizing start offset with
  | nil => exact placed_of_start_le placed before
  | cons entry entries ih =>
    have hwidth := widths entry List.mem_cons_self
    refine ⟨before, ih (fun other hmem => widths other (List.mem_cons_of_mem _ hmem))
      (Nat.le_of_eq (by rw [hwidth])) ?_⟩
    rw [List.length_cons, Nat.mul_succ] at placed
    rwa [Nat.add_assoc, Nat.add_comm width]

/-- Zeros in front of the fields belong to the gap before them. -/
theorem tiled_of_start_le (placed : Placed source.length later fields) (tiled : Tiled source later fields)
    (before : start ≤ later) (gap : (source.slice start later).allZero = true) : Tiled source start fields := by
  cases fields with
  | nil => exact allZero_slice_trans before placed gap tiled
  | cons field rest => exact ⟨allZero_slice_trans before placed.1 gap tiled.1, tiled.2⟩

theorem start_le_of_mem_array (hmem : field ∈ array width offset entries) : offset ≤ field.1 := by
  induction entries generalizing offset with
  | nil => cases hmem
  | cons entry rest ih =>
    rcases List.mem_cons.mp hmem with rfl | hmem
    · exact Nat.le_refl _
    · exact Nat.le_trans (Nat.le_add_right _ _) (ih hmem)

theorem end_le_of_mem_array (widths : ∀ entry ∈ entries, entry.length = width)
    (hmem : field ∈ array width offset entries) : field.1 + field.2.length ≤ offset + width * entries.length := by
  induction entries generalizing offset with
  | nil => cases hmem
  | cons entry rest ih =>
    rw [List.length_cons, Nat.mul_succ]
    rcases List.mem_cons.mp hmem with rfl | hmem
    · rw [widths entry List.mem_cons_self]
      omega
    · have hrest := ih (fun other h => widths other (List.mem_cons_of_mem _ h)) hmem
      omega

theorem tiled_array (fits : start + width * count ≤ source.length)
    (tiled : Tiled source (start + width * count) rest) :
    Tiled source start (array width start (readArray source width start count) ++ rest) := by
  induction count generalizing start with
  | zero => exact tiled
  | succ count ih =>
    rw [Nat.mul_succ] at fits tiled
    have hentry : (source.slice start (start + width)).length = width := by
      rw [length_slice (by omega)]
      omega
    refine ⟨by rw [slice_self]; rfl, by rw [hentry], ?_⟩
    rw [hentry]
    refine ih (by omega) ?_
    rwa [Nat.add_assoc, Nat.add_comm width]

theorem readArray_congr {other : Bytes}
    (same : ∀ first stop, start ≤ first → source.slice first stop = other.slice first stop) :
    readArray source width start count = readArray other width start count := by
  induction count generalizing start with
  | zero => rfl
  | succ count ih =>
    rw [readArray, readArray, same _ _ (Nat.le_refl _),
      ih fun first stop hfirst => same first stop (by omega)]

/-- The array of a record reads back. -/
theorem readArray_record (placed : Placed length 0 fields) (widths : ∀ entry ∈ entries, entry.length = width)
    (holds : ∀ field ∈ array width start entries, field ∈ fields) :
    readArray (record length fields) width start entries.length = entries := by
  induction entries generalizing start with
  | nil => rfl
  | cons entry entries ih =>
    have hwidth := widths entry List.mem_cons_self
    rw [List.length_cons, readArray, slice_record placed (holds _ List.mem_cons_self) (by rw [hwidth]),
      ih (fun other hmem => widths other (List.mem_cons_of_mem _ hmem))
        (fun field hmem => holds field (List.mem_cons_of_mem _ hmem))]

end Bytes
