import Supervsr.Checkpoint
import Supervsr.Digest

/-
# Supervsr.Ewah — the run-length code of the free set (`ewah.go`)

A bit set is stored as markers, each followed by the literal words it announces.  A marker stands for a run
of equal words, all zeros or all ones, and has 31 bits for its length and 32 bits for the number of literal
words behind it.  A literal run that is longer than these 32 bits can say needs markers of its own, and the
bound on the size of a trailer does not count them.
-/

namespace Supervsr

variable {encoded : List UInt64} {fill literals room more : Nat} {fillWord word : UInt64}
  {previous : Option (UInt64 × Nat)}

def ewahFillMax : Nat := 2 ^ 31 - 1

def ewahLiteralMax : Nat := 2 ^ 32 - 1

def allOnes : UInt64 := 0xFFFFFFFFFFFFFFFF

/-- The words `NewFixedBitSet` allocates. -/
def wordCount (length : Nat) : Nat := (length + 63) / 64

/-- `FixedBitSet`. -/
@[ext] structure FixedBitSet where
  words : List UInt64
  length : Nat
  count : words.length = wordCount length
  bound : length ≤ maxUint64 - 63

def FixedBitSet.validTail (set : FixedBitSet) : Bool :=
  if set.length = 0 ∨ set.length % 64 = 0 then true
  else
    let mask := (1 : UInt64) <<< UInt64.ofNat (set.length % 64) - 1
    set.words.getLast?.all fun word => word &&& ~~~mask = 0

/-! ## Encoding -/

namespace Ewah

/-- A word a marker can stand for. -/
def isFill (word : UInt64) : Bool := word = 0 ∨ word = allOnes

/-- The loop over equal words: how many there are, up to the limit, and what is behind them. -/
def fillRun (fillWord : UInt64) (fill : Nat) : List UInt64 → Nat × List UInt64
  | [] => (fill, [])
  | word :: rest =>
    if word = fillWord ∧ fill < ewahFillMax then fillRun fillWord (fill + 1) rest else (fill, word :: rest)

/-- The loop over literal words. -/
def literalRun (count : Nat) : List UInt64 → List UInt64 × List UInt64
  | [] => ([], [])
  | word :: rest =>
    if count < ewahLiteralMax ∧ ¬ isFill word then
      (word :: (literalRun (count + 1) rest).1, (literalRun (count + 1) rest).2)
    else ([], word :: rest)

/-- What one round of `EncodeEWAH` takes: a run of equal words and the literal words behind it. -/
structure Segment where
  fill : Nat
  fillWord : UInt64
  literals : List UInt64
  rest : List UInt64
deriving DecidableEq, Repr

variable {taken : Segment}

def segment (word : UInt64) (rest : List UInt64) : Segment :=
  if isFill word then
    let run := fillRun word 0 (word :: rest)
    let literals := literalRun 0 run.2
    ⟨run.1, word, literals.1, literals.2⟩
  else
    let literals := literalRun 0 (word :: rest)
    ⟨0, 0, literals.1, literals.2⟩

def marker (fill : Nat) (fillWord : UInt64) (literals : Nat) : UInt64 :=
  (UInt64.ofNat fill <<< (1 : UInt64)) ||| (if fillWord = allOnes then (1 : UInt64) else 0) |||
    (UInt64.ofNat literals <<< (32 : UInt64))

/-! ### What a round takes -/

theorem fillRun_spec (fillWord : UInt64) (fill : Nat) (words : List UInt64) (limit : fill ≤ ewahFillMax) :
    ∃ more, (fillRun fillWord fill words).1 = fill + more ∧ fill + more ≤ ewahFillMax ∧
      words = List.replicate more fillWord ++ (fillRun fillWord fill words).2 ∧
      ((fillRun fillWord fill words).2.head? = some fillWord → fill + more = ewahFillMax) := by
  induction words generalizing fill with
  | nil => exact ⟨0, rfl, limit, rfl, fun h => by cases h⟩
  | cons word rest ih =>
    by_cases htake : word = fillWord ∧ fill < ewahFillMax
    · obtain ⟨more, hcount, hlimit, hsplit, hnext⟩ := ih (fill + 1) htake.2
      refine ⟨more + 1, ?_⟩
      rw [fillRun, if_pos htake, List.replicate_succ, List.cons_append, ← hsplit, htake.1]
      exact ⟨by omega, by omega, rfl, fun h => by have := hnext h; omega⟩
    · refine ⟨0, ?_⟩
      rw [fillRun, if_neg htake]
      refine ⟨rfl, limit, rfl, fun h => ?_⟩
      have hword : word = fillWord := Option.some.inj h
      have hfull : ¬ fill < ewahFillMax := fun h => htake ⟨hword, h⟩
      omega

theorem literalRun_spec (count : Nat) (words : List UInt64) (limit : count ≤ ewahLiteralMax) :
    words = (literalRun count words).1 ++ (literalRun count words).2 ∧
      count + (literalRun count words).1.length ≤ ewahLiteralMax ∧
      (∀ word ∈ (literalRun count words).1, isFill word = false) ∧
      ((literalRun count words).2.head?.any (! isFill ·) = true →
        count + (literalRun count words).1.length = ewahLiteralMax) := by
  induction words generalizing count with
  | nil => exact ⟨rfl, limit, fun word hmem => (nomatch hmem), fun h => (nomatch h)⟩
  | cons word rest ih =>
    by_cases htake : count < ewahLiteralMax ∧ ¬ isFill word
    · obtain ⟨hsplit, hlimit, hliteral, hnext⟩ := ih (count + 1) htake.1
      rw [literalRun, if_pos htake]
      simp only [List.cons_append, List.length_cons, List.forall_mem_cons]
      exact ⟨by rw [← hsplit], by omega, ⟨by simpa using htake.2, hliteral⟩, fun h => by have := hnext h; omega⟩
    · rw [literalRun, if_neg htake]
      refine ⟨rfl, limit, fun word hmem => (nomatch hmem), fun h => ?_⟩
      have hword : ¬ isFill word = true := by simpa using h
      have hfull : ¬ count < ewahLiteralMax := fun h => htake ⟨h, hword⟩
      simp only [List.length_nil]
      omega

/-- A round takes at least one word, and as many as its marker can say. -/
structure Taken (words : List UInt64) (taken : Segment) : Prop where
  split : words = List.replicate taken.fill taken.fillWord ++ (taken.literals ++ taken.rest)
  nonempty : 0 < taken.fill + taken.literals.length
  fill_le : taken.fill ≤ ewahFillMax
  fillWord : isFill taken.fillWord = true
  literals_le : taken.literals.length ≤ ewahLiteralMax
  literal : ∀ word ∈ taken.literals, isFill word = false
  full : taken.rest.head?.any (! isFill ·) = true → taken.literals.length = ewahLiteralMax
  whole : 0 < taken.fill → (taken.literals ++ taken.rest).head? = some taken.fillWord → taken.fill = ewahFillMax

theorem segment_taken (word : UInt64) (rest : List UInt64) : Taken (word :: rest) (segment word rest) := by
  unfold segment
  split
  · rename_i hfill
    obtain ⟨more, hcount, hlimit, hsplit, hnext⟩ := fillRun_spec word 0 (word :: rest) (Nat.zero_le _)
    obtain ⟨hliterals, hroom, hliteral, hfull⟩ :=
      literalRun_spec 0 (fillRun word 0 (word :: rest)).2 (Nat.zero_le _)
    have hfirst : 0 < (fillRun word 0 (word :: rest)).1 := by
      obtain ⟨others, hfirst, -⟩ := fillRun_spec word 1 rest (by decide)
      rw [fillRun, if_pos ⟨rfl, by decide⟩, hfirst]
      omega
    rw [Nat.zero_add] at hcount hlimit hnext hroom hfull
    refine ⟨?_, by simp only; omega, by simp only; omega, hfill, hroom, hliteral, hfull, fun _ hhead => ?_⟩
    · simp only
      rw [← hliterals, hcount, ← hsplit]
    · simp only at hhead ⊢
      rw [← hliterals] at hhead
      rw [hcount, hnext hhead]
  · rename_i hliteral
    obtain ⟨hliterals, hroom, hall, hfull⟩ := literalRun_spec 0 (word :: rest) (Nat.zero_le _)
    rw [Nat.zero_add] at hroom hfull
    have hfirst : 0 < (literalRun 0 (word :: rest)).1.length := by
      rw [literalRun, if_pos ⟨by decide, hliteral⟩]
      exact Nat.zero_lt_succ _
    exact ⟨hliterals, by simpa using hfirst, Nat.zero_le _, rfl, hroom, hall, hfull, fun h => (nomatch h)⟩

theorem Taken.length_rest {words : List UInt64} (round : Taken words taken) :
    taken.fill + taken.literals.length + taken.rest.length = words.length := by
  have hlength := congrArg List.length round.split
  simp only [List.length_append, List.length_replicate] at hlength
  omega

/-- The rounds of `EncodeEWAH`, into a buffer with `room` words left.  No round is empty, so the branch of the
source that skips an empty one is never taken. -/
def encodeFrom (room : Nat) : List UInt64 → Option (List UInt64)
  | [] => some []
  | word :: rest =>
    if room = 0 ∨ room - 1 < (segment word rest).literals.length then none
    else
      (encodeFrom (room - 1 - (segment word rest).literals.length) (segment word rest).rest).map fun later =>
        marker (segment word rest).fill (segment word rest).fillWord (segment word rest).literals.length ::
          ((segment word rest).literals ++ later)
  termination_by words => words.length
  decreasing_by
    have hround := segment_taken word rest
    have hlength := hround.length_rest
    have hsome := hround.nonempty
    omega

/-! ## Decoding -/

/-- The fields of a marker: the length of the fill, the word it repeats, and the number of literal words. -/
def markerFill (marker : UInt64) : Nat := ((marker >>> 1) &&& UInt64.ofNat ewahFillMax).toNat

def markerWord (marker : UInt64) : UInt64 := if marker &&& 1 ≠ 0 then allOnes else 0

def markerLiterals (marker : UInt64) : Nat := (marker >>> 32).toNat

/-- The loop of `DecodeEWAH`, with `room` words of the set still to be filled. -/
def decodeFrom (room : Nat) : List UInt64 → Option (List UInt64)
  | [] => if room ≠ 0 then none else some []
  | marker :: rest =>
    if markerFill marker = 0 ∧ markerLiterals marker = 0 then none
    else if rest.length < markerLiterals marker ∨ room < markerFill marker then none
    else if room - markerFill marker < markerLiterals marker then none
    else if (rest.take (markerLiterals marker)).any isFill then none
    else
      (decodeFrom (room - markerFill marker - markerLiterals marker) (rest.drop (markerLiterals marker))).map
        fun later =>
          List.replicate (markerFill marker) (markerWord marker) ++ (rest.take (markerLiterals marker) ++ later)
  termination_by encoded => encoded.length
  decreasing_by
    simp only [List.length_drop, List.length_cons]
    omega

/-! ### The fields of a marker -/

theorem marker_toNat (fits : fill ≤ ewahFillMax) (counted : literals ≤ ewahLiteralMax) :
    (marker fill fillWord literals).toNat =
      literals <<< 32 + (fill <<< 1 + if fillWord = allOnes then 1 else 0) := by
  have hbit : (if fillWord = allOnes then 1 else 0) < 2 ^ 1 := by split <;> decide
  unfold ewahFillMax at fits
  unfold ewahLiteralMax at counted
  have hlow : fill <<< 1 + (if fillWord = allOnes then 1 else 0) < 2 ^ 32 := by
    rw [Nat.shiftLeft_eq]
    omega
  have hword : (if fillWord = allOnes then (1 : UInt64) else 0).toNat = if fillWord = allOnes then 1 else 0 := by
    split <;> rfl
  unfold marker
  rw [UInt64.toNat_or, UInt64.toNat_or, hword, UInt64.toNat_shiftLeft, UInt64.toNat_shiftLeft,
    UInt64.toNat_ofNat', UInt64.toNat_ofNat', Nat.mod_eq_of_lt (by omega : fill < 2 ^ 64),
    Nat.mod_eq_of_lt (by omega : literals < 2 ^ 64), Nat.or_comm]
  show literals <<< 32 % 2 ^ 64 ||| (fill <<< 1 % 2 ^ 64 ||| _) = _
  rw [Nat.mod_eq_of_lt (by rw [Nat.shiftLeft_eq]; omega), Nat.mod_eq_of_lt (by rw [Nat.shiftLeft_eq]; omega),
    ← Nat.shiftLeft_add_eq_or_of_lt hbit, ← Nat.shiftLeft_add_eq_or_of_lt hlow]

theorem markerLiterals_marker (fillWord : UInt64) (fits : fill ≤ ewahFillMax) (counted : literals ≤ ewahLiteralMax) :
    markerLiterals (marker fill fillWord literals) = literals := by
  have hbit : (if fillWord = allOnes then 1 else 0) < 2 := by split <;> decide
  unfold ewahFillMax at fits
  unfold markerLiterals
  rw [UInt64.toNat_shiftRight, marker_toNat fits counted]
  show (_ : Nat) >>> 32 = _
  rw [Nat.shiftRight_eq_div_pow, Nat.shiftLeft_eq, Nat.shiftLeft_eq]
  omega

theorem markerFill_marker (fillWord : UInt64) (fits : fill ≤ ewahFillMax) (counted : literals ≤ ewahLiteralMax) :
    markerFill (marker fill fillWord literals) = fill := by
  have hbit : (if fillWord = allOnes then 1 else 0) < 2 := by split <;> decide
  unfold ewahFillMax at fits
  unfold markerFill
  rw [UInt64.toNat_and, UInt64.toNat_shiftRight, marker_toNat fits counted]
  show (_ : Nat) >>> 1 &&& (2 ^ 31 - 1) = _
  rw [Nat.and_two_pow_sub_one_eq_mod, Nat.shiftRight_eq_div_pow, Nat.shiftLeft_eq, Nat.shiftLeft_eq]
  omega

theorem markerWord_marker (known : isFill fillWord = true) (fits : fill ≤ ewahFillMax)
    (counted : literals ≤ ewahLiteralMax) : markerWord (marker fill fillWord literals) = fillWord := by
  have hlow : (marker fill fillWord literals &&& 1).toNat = if fillWord = allOnes then 1 else 0 := by
    rw [UInt64.toNat_and, marker_toNat fits counted]
    show _ &&& (2 ^ 1 - 1) = _
    rw [Nat.and_two_pow_sub_one_eq_mod, Nat.shiftLeft_eq, Nat.shiftLeft_eq]
    split <;> omega
  have hzero : marker fill fillWord literals &&& 1 = 0 ↔ ¬ fillWord = allOnes := by
    rw [← UInt64.toNat_inj, hlow]
    split <;> simp [*]
  unfold markerWord
  by_cases hones : fillWord = allOnes
  · rw [if_pos (by rw [ne_eq, hzero]; exact not_not_intro hones), hones]
  · rw [if_neg (by rw [ne_eq, hzero]; exact not_not_intro hones)]
    simp only [isFill, hones, or_false, decide_eq_true_eq] at known
    exact known.symm

/-! ### What a sequence of markers stands for -/

inductive Expands : List UInt64 → List UInt64 → Prop
  | nil : Expands [] []
  | step {marker : UInt64} {literals later words : List UInt64} (count : literals.length = markerLiterals marker)
      (nonempty : 0 < markerFill marker + markerLiterals marker) (literal : ∀ word ∈ literals, isFill word = false)
      (rest : Expands later words) :
      Expands (marker :: (literals ++ later))
        (List.replicate (markerFill marker) (markerWord marker) ++ (literals ++ words))

theorem expands_of_decodeFrom {words : List UInt64} (decoded : decodeFrom room encoded = some words) :
    Expands encoded words ∧ words.length = room := by
  fun_induction decodeFrom room encoded generalizing words with
  | case1 room hroom => exact absurd decoded (by simp)
  | case2 room hroom =>
    cases decoded
    exact ⟨.nil, by simp only [List.length_nil]; omega⟩
  | case3 | case4 | case5 | case6 => exact absurd decoded (by simp)
  | case7 room marker rest hempty hroom hliterals hfills ih =>
    obtain ⟨later, hlater, rfl⟩ := Option.map_eq_some_iff.1 decoded
    obtain ⟨hexpands, hlength⟩ := ih hlater
    have htaken : (rest.take (markerLiterals marker)).length = markerLiterals marker := by
      rw [List.length_take]
      omega
    have hstep := Expands.step htaken (by omega) (by simpa using hfills) hexpands
    rw [List.take_append_drop] at hstep
    refine ⟨hstep, ?_⟩
    simp only [List.length_append, List.length_replicate, htaken, hlength]
    omega

theorem Expands.decodeFrom {words : List UInt64} (expands : Expands encoded words) :
    decodeFrom words.length encoded = some words := by
  induction expands with
  | nil => simp [Ewah.decodeFrom]
  | @step marker literals later words count nonempty literal rest ih =>
    have hfills : ¬ (literals.any isFill = true) := by
      intro h
      obtain ⟨word, hmem, hword⟩ := List.any_eq_true.1 h
      rw [literal word hmem] at hword
      cases hword
    rw [Ewah.decodeFrom, if_neg (by omega), if_neg, if_neg, ← count, List.take_left, List.drop_left, if_neg hfills]
    · simp only [List.length_append, List.length_replicate]
      rw [show markerFill marker + (literals.length + words.length) - markerFill marker - literals.length = words.length
        by omega, ih]
      rfl
    · simp only [List.length_append, List.length_replicate]
      omega
    · simp only [List.length_append, List.length_replicate]
      omega

theorem expands_of_encodeFrom {words : List UInt64} (coded : encodeFrom room words = some encoded) :
    Expands encoded words := by
  fun_induction encodeFrom room words generalizing encoded with
  | case1 =>
    cases coded
    exact .nil
  | case2 => cases coded
  | case3 room word rest hroom ih =>
    obtain ⟨later, hlater, rfl⟩ := Option.map_eq_some_iff.1 coded
    have hround := segment_taken word rest
    have hliterals := markerLiterals_marker (segment word rest).fillWord hround.fill_le hround.literals_le
    have hfill := markerFill_marker (segment word rest).fillWord hround.fill_le hround.literals_le
    have hword := markerWord_marker hround.fillWord hround.fill_le hround.literals_le
    have hstep := Expands.step hliterals.symm (by rw [hliterals, hfill]; exact hround.nonempty) hround.literal (ih hlater)
    rw [hfill, hword, ← hround.split] at hstep
    exact hstep

/-- Twice the words are always enough. -/
theorem encodeFrom_isSome {words : List UInt64} (enough : 2 * words.length ≤ room) :
    (encodeFrom room words).isSome = true := by
  fun_induction encodeFrom room words with
  | case1 => rfl
  | case2 room word rest hroom =>
    have hround := segment_taken word rest
    have hlength := hround.length_rest
    have hsome := hround.nonempty
    omega
  | case3 room word rest hroom ih =>
    have hround := segment_taken word rest
    have hlength := hround.length_rest
    have hsome := hround.nonempty
    rw [Option.isSome_map]
    exact ih (by omega)

/-! ## The length of the code

The place of a word is its index in its run: words that are equal, or that are all literal. -/

def sameRun (before word : UInt64) : Bool := if isFill before then word = before else ! isFill word

def place (previous : Option (UInt64 × Nat)) (word : UInt64) : Nat :=
  match previous with
  | some (before, index) => if sameRun before word then index + 1 else 0
  | none => 0

/-- What a word adds to the code beyond itself.  A fill word that does not begin a marker is saved; a literal word
needs a marker of its own as the first word of all, and where the literal words before it fill a marker. -/
def cost (previous : Option (UInt64 × Nat)) (word : UInt64) : Int :=
  if isFill word then (if place previous word % ewahFillMax = 0 then 0 else -1)
  else if place previous word % ewahLiteralMax = 0 ∧ (place previous word ≠ 0 ∨ previous = none) then 1
  else 0

def costs (previous : Option (UInt64 × Nat)) : List UInt64 → Int
  | [] => 0
  | word :: rest => cost previous word + costs (some (word, place previous word)) rest

theorem costs_fill (fill : isFill word = true) {index : Nat} (rest : List UInt64)
    (within : index % ewahFillMax + more < ewahFillMax) :
    costs (some (word, index)) (List.replicate more word ++ rest) =
      costs (some (word, index + more)) rest - more := by
  induction more generalizing index with
  | zero => simp
  | succ more ih =>
    have hmod : (index + 1) % ewahFillMax = index % ewahFillMax + 1 := by
      rw [Nat.add_mod, Nat.mod_eq_of_lt (show 1 < ewahFillMax by decide), Nat.mod_eq_of_lt (by omega)]
    have hplace : place (some (word, index)) word = index + 1 := by simp [place, sameRun, fill]
    have hcost : cost (some (word, index)) word = -1 := by
      rw [cost, if_pos fill, hplace, hmod, if_neg (Nat.succ_ne_zero _)]
    rw [List.replicate_succ, List.cons_append, costs, hcost, hplace, ih (by omega), Nat.add_assoc, Nat.add_comm 1 more]
    omega

theorem costs_literals (literal : isFill word = false) {index : Nat} {more : List UInt64}
    (literals : ∀ word ∈ more, isFill word = false) (rest : List UInt64)
    (within : index % ewahLiteralMax + more.length < ewahLiteralMax) :
    costs (some (word, index)) (more ++ rest) = costs (some (more.getLast?.getD word,
      index + more.length)) rest := by
  induction more generalizing word index with
  | nil => rfl
  | cons next more ih =>
    rw [List.length_cons] at within ⊢
    have hmod : (index + 1) % ewahLiteralMax = index % ewahLiteralMax + 1 := by
      rw [Nat.add_mod, Nat.mod_eq_of_lt (show 1 < ewahLiteralMax by decide), Nat.mod_eq_of_lt (by omega)]
    have hnext : isFill next = false := literals next (List.mem_cons_self ..)
    have hplace : place (some (word, index)) next = index + 1 := by simp [place, sameRun, literal, hnext]
    have hcost : cost (some (word, index)) next = 0 := by
      rw [cost, if_neg (by simp [hnext]), hplace, hmod, if_neg (by omega)]
    rw [List.cons_append, costs, hcost, hplace, Int.zero_add,
      ih hnext (fun word hmem => literals word (List.mem_cons_of_mem _ hmem)) (by omega), List.getLast?_cons,
      Option.getD_some, Nat.add_assoc, Nat.add_comm 1 more.length]

/-- The first word begins a marker. -/
def Opens (previous : Option (UInt64 × Nat)) (words : List UInt64) : Prop :=
  ∀ word ∈ words.head?, cost previous word = if isFill word then 0 else 1

theorem opens_none (words : List UInt64) : Opens none words := by
  intro word _
  cases hfill : isFill word <;> simp [cost, place, hfill]

/-- Behind the literal words of a marker the next word begins a marker. -/
theorem literals_opens {more rest : List UInt64} {index : Nat}
    (literals : ∀ literal ∈ word :: more, isFill literal = false) (begins : index % ewahLiteralMax = 0)
    (fits : (word :: more).length ≤ ewahLiteralMax)
    (full : rest.head?.any (! isFill ·) = true → (word :: more).length = ewahLiteralMax) :
    ∃ last, costs (some (word, index)) (more ++ rest) = costs (some last) rest ∧ Opens (some last) rest := by
  have hword : isFill word = false := literals word (List.mem_cons_self ..)
  have hmore : ∀ literal ∈ more, isFill literal = false := fun literal hmem => literals literal (List.mem_cons_of_mem _ hmem)
  rw [List.length_cons] at fits full
  refine ⟨_, costs_literals hword hmore rest (by omega), fun next hnext => ?_⟩
  have hlast : isFill (more.getLast?.getD word) = false := by
    cases hlast : more.getLast? with
    | none => exact hword
    | some last => exact hmore last (List.mem_of_getLast? hlast)
  cases hfill : isFill next with
  | true => simp [cost, place, sameRun, hlast, hfill]
  | false =>
    have hfull := full (by rw [Option.mem_def.1 hnext]; simp [hfill])
    have hplace : place (some (more.getLast?.getD word, index + more.length)) next = index + ewahLiteralMax := by
      simp only [place, sameRun, hlast, hfill, Bool.false_eq_true, if_false, Bool.not_false, if_true]
      omega
    have hpositive : index + ewahLiteralMax ≠ 0 := by unfold ewahLiteralMax; omega
    rw [cost, hplace, hfill, if_neg Bool.false_ne_true, if_neg Bool.false_ne_true,
      if_pos ⟨by rw [Nat.add_mod_right]; exact begins, .inl hpositive⟩]

/-- Behind a fill without literal words the next word begins a marker. -/
theorem fill_opens {rest : List UInt64} {index : Nat} (fill : isFill fillWord = true)
    (begins : index % ewahFillMax = 0) (whole : rest.head? = some fillWord → more + 1 = ewahFillMax)
    (filled : rest.head?.any (! isFill ·) ≠ true) : Opens (some (fillWord, index + more)) rest := by
  intro next hnext
  rw [Option.mem_def] at hnext
  have hnextFill : isFill next = true := by
    rw [hnext] at filled
    simpa using filled
  rw [cost, if_pos hnextFill, if_pos hnextFill, if_pos]
  by_cases hsame : next = fillWord
  · have hmax := whole (by rw [hnext, hsame])
    have hplace : place (some (fillWord, index + more)) next = index + ewahFillMax := by
      simp only [place, sameRun, fill, hsame, if_true, decide_true]
      omega
    rw [hplace, Nat.add_mod_right, begins]
  · simp [place, sameRun, fill, hsame]

/-- What the words of a round cost, and that the next word begins a marker again. -/
theorem Taken.costs {words : List UInt64} (round : Taken words taken) (opens : Opens previous words) :
    ∃ last, Ewah.costs previous words = 1 - taken.fill + Ewah.costs (some last) taken.rest ∧
      Opens (some last) taken.rest := by
  obtain ⟨fill, fillWord, literals, rest⟩ := taken
  obtain ⟨hsplit, hsome, hfits, hfill, hliterals, hliteral, hfull, hwhole⟩ := round
  simp only at *
  cases fill with
  | zero =>
    cases literals with
    | nil => cases hsome
    | cons word more =>
      subst hsplit
      have hword : isFill word = false := hliteral word (List.mem_cons_self ..)
      have hcost : cost previous word = 1 := by simpa [hword] using opens word rfl
      have hbegins : place previous word % ewahLiteralMax = 0 := by
        by_contra hplace
        simp [cost, hword, hplace] at hcost
      obtain ⟨last, hcosts, hopens⟩ := literals_opens hliteral hbegins hliterals hfull
      refine ⟨last, ?_, hopens⟩
      show Ewah.costs previous (word :: (more ++ rest)) = _
      rw [Ewah.costs, hcost, hcosts]
      omega
  | succ more =>
    subst hsplit
    have hcost : cost previous fillWord = 0 := by simpa [hfill] using opens fillWord rfl
    have hbegins : place previous fillWord % ewahFillMax = 0 := by
      by_contra hplace
      simp [cost, hfill, hplace] at hcost
    have hcosts := costs_fill hfill (literals ++ rest) (show place previous fillWord % ewahFillMax + more < ewahFillMax by omega)
    rw [List.replicate_succ, List.cons_append, Ewah.costs, hcost, hcosts]
    cases literals with
    | nil =>
      refine ⟨(fillWord, place previous fillWord + more), by rw [List.nil_append]; omega,
        fill_opens hfill hbegins (hwhole (Nat.succ_pos _)) fun hnext => ?_⟩
      have hmax : 0 = ewahLiteralMax := hfull hnext
      simp [ewahLiteralMax] at hmax
    | cons word others =>
      have hword : isFill word = false := hliteral word (List.mem_cons_self ..)
      have hsame : word ≠ fillWord := fun h => by rw [h, hfill] at hword; cases hword
      have hplace : place (some (fillWord, place previous fillWord + more)) word = 0 := by
        simp [place, sameRun, hfill, hsame]
      obtain ⟨last, hrest, hopens⟩ := literals_opens hliteral (Nat.zero_mod _) hliterals hfull
      refine ⟨last, ?_, hopens⟩
      rw [List.cons_append, Ewah.costs, hplace, hrest, cost, hplace, hword]
      simp only [Bool.false_eq_true, if_false, ne_eq, not_true_eq_false, reduceCtorEq, or_self, and_false]
      omega

theorem length_encodeFrom {words : List UInt64} (coded : encodeFrom room words = some encoded)
    (opens : Opens previous words) : (encoded.length : Int) = words.length + costs previous words := by
  fun_induction encodeFrom room words generalizing encoded previous with
  | case1 =>
    cases coded
    rfl
  | case2 => cases coded
  | case3 room word rest hroom ih =>
    obtain ⟨later, hlater, rfl⟩ := Option.map_eq_some_iff.1 coded
    have hround := segment_taken word rest
    obtain ⟨last, hcosts, hopens⟩ := hround.costs opens
    have hlength := hround.length_rest
    have hrest := ih hlater hopens
    rw [hcosts, ← hlength]
    simp only [List.length_cons, List.length_append]
    omega

/-- Words that fit one marker cost at most one word more. -/
theorem costs_le_zero {index : Nat} {words : List UInt64} (few : index + words.length < ewahLiteralMax) :
    costs (some (word, index)) words ≤ 0 := by
  induction words generalizing word index with
  | nil => exact Int.le_refl 0
  | cons next rest ih =>
    rw [List.length_cons] at few
    have hplace : place (some (word, index)) next ≤ index + 1 := by
      simp only [place]
      split <;> omega
    have hcost : cost (some (word, index)) next ≤ 0 := by
      unfold cost
      split
      · split <;> decide
      rw [if_neg]
      rintro ⟨hzero, hnonzero | hnone⟩
      · rw [Nat.mod_eq_of_lt (by omega)] at hzero
        exact hnonzero hzero
      · cases hnone
    have hrest := @ih next _ (show place (some (word, index)) next + rest.length < ewahLiteralMax by omega)
    rw [costs]
    omega

theorem costs_le_one {words : List UInt64} (few : words.length ≤ ewahLiteralMax) : costs none words ≤ 1 := by
  cases words with
  | nil => decide
  | cons word rest =>
    rw [List.length_cons] at few
    have hcost := opens_none (word :: rest) word rfl
    have hrest := @costs_le_zero word _ _ (show place none word + rest.length < ewahLiteralMax from by
      simp only [place]; omega)
    rw [costs, hcost]
    split <;> omega

end Ewah

/-! ## The codec of a bit set -/

namespace FixedBitSet

open Ewah

/-- `EncodeEWAH`, into a destination of `room` words: what it writes, or nothing when it fails. -/
def encodeEWAH (set : FixedBitSet) (room : Nat) : Option (List UInt64) :=
  if ! set.validTail then none else encodeFrom room set.words

/-- `DecodeEWAH`: the set afterwards, or nothing when it fails. -/
def decodeEWAH (set : FixedBitSet) (encoded : List UInt64) : Option FixedBitSet :=
  match h : decodeFrom set.words.length encoded with
  | none => none
  | some words =>
    let filled : FixedBitSet := ⟨words, set.length, by rw [(expands_of_decodeFrom h).2, set.count], set.bound⟩
    if ! filled.validTail then none else some filled

theorem decodeEWAH_eq_some {set filled : FixedBitSet} :
    set.decodeEWAH encoded = some filled ↔
      filled.length = set.length ∧ Expands encoded filled.words ∧ filled.validTail = true := by
  unfold decodeEWAH
  constructor
  · intro hdecoded
    split at hdecoded
    · cases hdecoded
    rename_i words hwords
    dsimp only at hdecoded
    split at hdecoded
    · cases hdecoded
    · rename_i htail
      cases hdecoded
      exact ⟨rfl, (expands_of_decodeFrom hwords).1, by simpa using htail⟩
  · rintro ⟨hlength, hexpands, htail⟩
    have hdecoded := hexpands.decodeFrom
    rw [filled.count, hlength, ← set.count] at hdecoded
    split
    · rename_i hnone
      rw [hnone] at hdecoded
      cases hdecoded
    rename_i words hwords
    cases hwords.symm.trans hdecoded
    obtain ⟨words, length, count, bound⟩ := filled
    dsimp only at hlength
    subst hlength
    simp [htail]

/-- A reference to the blocks that hold a code: none when it is empty. -/
structure Refers {χ : Type} [Checksums χ] (address : Nat) (last aggregate empty : χ) (encoded : List UInt64) : Prop where
  absent : encoded = [] → address = 0 ∧ last = Checksums.zero ∧ aggregate = empty
  present : encoded ≠ [] → address ≠ 0 ∧ last ≠ Checksums.zero

theorem validEWAHTrailerReference_iff {χ : Type} [DecidableEq χ] [Checksums χ] (set : FixedBitSet) {address : Nat}
    {last aggregate empty : χ} (refers : Refers address last aggregate empty encoded) :
    validEWAHTrailerReference address (8 * encoded.length) last aggregate empty set.length = true ↔
      encoded.length ≤ set.words.length + 1 := by
  by_cases hempty : encoded = []
  · obtain ⟨haddress, hlast, haggregate⟩ := refers.absent hempty
    simp [validEWAHTrailerReference, isZeroChecksum, ZeroChecksum.zero, haddress, hlast, haggregate, hempty]
  obtain ⟨haddress, hlast⟩ := refers.present hempty
  have hwords : (if set.length % 64 ≠ 0 then set.length / 64 + 1 else set.length / 64) = set.words.length := by
    rw [set.count, wordCount]
    split <;> omega
  have hbound := set.bound
  have hcount := set.count
  unfold wordCount at hcount
  unfold maxUint64 at hbound
  have hpositive : 0 < encoded.length := List.length_pos_iff.2 hempty
  unfold validEWAHTrailerReference
  rw [if_neg haddress, hwords]
  dsimp only
  rw [checkedAdd_of_le (by unfold maxUint64; omega)]
  dsimp only
  rw [checkedMul_of_le (by unfold maxUint64; omega)]
  simp only [isZeroChecksum, ZeroChecksum.zero, hlast, decide_false, Bool.false_eq_true, decide_eq_true_eq, ne_eq,
    not_false_eq_true, and_true]
  omega

/-- What the codec owes a set: a code that fits, that reads back, and that a checkpoint may refer to. -/
def Coded (χ : Type) [DecidableEq χ] [Checksums χ] (set : FixedBitSet) : Prop :=
  ∃ encoded, set.encodeEWAH (2 * set.words.length + 1) = some encoded ∧
    encoded.length ≤ set.words.length + 1 ∧
    (∀ target : FixedBitSet, target.length = set.length → target.decodeEWAH encoded = some set) ∧
    ∀ (address : Nat) (last aggregate empty : χ), Refers address last aggregate empty encoded →
      validEWAHTrailerReference address (8 * encoded.length) last aggregate empty set.length = true

theorem encodeEWAH_spec (set : FixedBitSet) (tail : set.validTail = true) :
    ∃ encoded, set.encodeEWAH (2 * set.words.length + 1) = some encoded ∧
      (∀ target : FixedBitSet, target.length = set.length → target.decodeEWAH encoded = some set) ∧
      (encoded.length : Int) = set.words.length + costs none set.words := by
  have hsome := encodeFrom_isSome (Nat.le_succ (2 * set.words.length))
  obtain ⟨encoded, hencoded⟩ := Option.isSome_iff_exists.1 hsome
  refine ⟨encoded, by rw [encodeEWAH, if_neg (by simp [tail]), ← hencoded], fun target hlength => ?_,
    length_encodeFrom hencoded (opens_none _)⟩
  exact decodeEWAH_eq_some.2 ⟨hlength.symm, expands_of_encodeFrom hencoded, tail⟩

theorem coded_iff (χ : Type) [DecidableEq χ] [Checksums χ] (set : FixedBitSet) (tail : set.validTail = true) :
    set.Coded χ ↔ costs none set.words ≤ 1 := by
  obtain ⟨encoded, hencoded, hdecoded, hlength⟩ := set.encodeEWAH_spec tail
  constructor
  · rintro ⟨other, hother, hfits, -⟩
    cases hencoded.symm.trans hother
    omega
  intro hcosts
  have hfits : encoded.length ≤ set.words.length + 1 := by omega
  exact ⟨encoded, hencoded, hfits, hdecoded, fun address last aggregate empty hrefers =>
    (set.validEWAHTrailerReference_iff hrefers).2 hfits⟩

/-- Every set is coded and read back.  The code is as short as a trailer may be exactly when the literal words that
need a marker of their own outnumber the fill words that share one by at most one, as they do in every set of fewer
than 2³² words. -/
theorem ewah_codec (χ : Type) [DecidableEq χ] [Checksums χ] (set : FixedBitSet) :
    (set.validTail = true → (set.Coded χ ↔ costs none set.words ≤ 1)) ∧
    (set.words.length < 2 ^ 32 → costs none set.words ≤ 1) ∧
    (set.validTail = true → ∃ encoded, set.encodeEWAH (2 * set.words.length + 1) = some encoded ∧
      ∀ target : FixedBitSet, target.length = set.length → target.decodeEWAH encoded = some set) ∧
    ∀ encoded filled, set.decodeEWAH encoded = some filled →
      filled.length = set.length ∧ Expands encoded filled.words ∧ filled.validTail = true := by
  refine ⟨set.coded_iff χ, fun few => costs_le_one (by unfold ewahLiteralMax; omega), fun tail => ?_,
    fun encoded filled => decodeEWAH_eq_some.1⟩
  obtain ⟨encoded, hencoded, hdecoded, -⟩ := set.encodeEWAH_spec tail
  exact ⟨encoded, hencoded, hdecoded⟩

/-- Two free blocks, then two hundred that are not. -/
def sample : FixedBitSet := ⟨[3, allOnes, allOnes, 0x3FF], 202, by decide, by decide⟩

theorem ewah_codec_sample : sample.Coded Digest :=
  ((ewah_codec Digest sample).1 (by decide)).2 (by decide)

/-- As many literal words as a marker can announce, and one more. -/
def manyLiterals : FixedBitSet where
  words := List.replicate (ewahLiteralMax + 1) 1
  length := 64 * (ewahLiteralMax + 1)
  count := by rw [List.length_replicate, wordCount]; omega
  bound := by decide

theorem costs_manyLiterals : costs none manyLiterals.words = 2 := by
  have hlong := @costs_literals 1 (by decide) 0 (List.replicate (ewahLiteralMax - 1) 1)
    (fun word hmem => by rw [List.eq_of_mem_replicate hmem]; decide) [1] (by rw [List.length_replicate]; decide)
  have hlast : (List.replicate (ewahLiteralMax - 1) (1 : UInt64)).getLast?.getD 1 = 1 := by
    rw [List.getLast?_replicate]
    split <;> rfl
  rw [hlast, List.length_replicate] at hlong
  have hwords : manyLiterals.words = 1 :: (List.replicate (ewahLiteralMax - 1) 1 ++ [1]) := by
    show List.replicate (ewahLiteralMax - 1 + 1 + 1) (1 : UInt64) = _
    rw [List.replicate_succ, List.replicate_succ']
  rw [hwords, costs]
  show 1 + costs (some (1, 0)) (List.replicate (ewahLiteralMax - 1) 1 ++ [1]) = 2
  rw [hlong]
  decide

/-- Their code needs a second marker, and no checkpoint may refer to it. -/
theorem manyLiterals_not_coded : manyLiterals.validTail = true ∧ ¬ manyLiterals.Coded Digest := by
  have htail : manyLiterals.validTail = true := by
    rw [validTail, if_pos (.inr (Nat.mul_mod_right ..))]
  refine ⟨htail, fun hcoded => ?_⟩
  have hcosts := (manyLiterals.coded_iff Digest htail).1 hcoded
  rw [costs_manyLiterals] at hcosts
  exact absurd hcosts (by decide)

end FixedBitSet

end Supervsr
