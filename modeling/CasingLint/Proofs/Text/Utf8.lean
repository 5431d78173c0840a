import CasingLint.Text.Utf8
import Mathlib.Tactic.SplitIfs

/-!
# Reading back what was encoded

Both decoders read the octets of a text back as that text.  For the strict decoder
this follows the machine octet by octet; the lossy decoder agrees with the strict one
wherever that succeeds.

A boundary of a text is an offset at which a character of its octets begins or the
text ends.  Cutting the octets at a boundary cuts the text.  A cut anywhere else leaves a
fragment of a character behind whole ones; the lossy decoder drops it, and there is no
line feed in it.
-/

namespace CasingLint.Text.Utf8

/-! ## The machine on the octets of one character -/

theorem toNat_ofNat_octet {number : Nat} (small : number < 256) :
    (UInt8.ofNat number).toNat = number := by
  simpa using small

theorem decodeFrom_finish {pending : Pending} {octet : UInt8} (position : Nat) (rest : Octets)
    (last : pending.missing = 1) (accepted : pending.accepts octet = true) :
    decodeFrom position (some pending) (octet :: rest) =
      (Char.ofNat (pending.bits * 64 + octet.toNat % 64) :: ·) <$>
        decodeFrom (position + 1) none rest := by
  simp [decodeFrom, accepted, Pending.extend, last]

theorem decodeFrom_continue {pending : Pending} {octet : UInt8} (position : Nat) (rest : Octets)
    (more : 1 < pending.missing) (accepted : pending.accepts octet = true) :
    decodeFrom position (some pending) (octet :: rest) =
      decodeFrom (position + 1) (some (pending.extend octet)) rest := by
  have unfinished : ¬ pending.missing - 1 = 0 := by
    omega
  simp [decodeFrom, accepted, Pending.extend, unfinished]

theorem decodeFrom_announce {octet : UInt8} {pending : Pending} (position : Nat) (rest : Octets)
    (high : ¬ octet.toNat < 0x80) (announced : announce? position octet = some pending) :
    decodeFrom position none (octet :: rest) =
      decodeFrom (position + 1) (some pending) rest := by
  simp [decodeFrom, high, announced]

theorem accepts_iff {pending : Pending} {octet : UInt8} :
    pending.accepts octet = true ↔
      pending.low ≤ octet.toNat ∧ octet.toNat ≤ pending.high := by
  simp [Pending.accepts]

theorem accepts_octet {pending : Pending} {bits : Nat}
    (low : pending.low ≤ 0x80 + bits) (high : 0x80 + bits ≤ pending.high) (small : bits < 64) :
    pending.accepts (UInt8.ofNat (0x80 + bits)) = true := by
  rw [accepts_iff, toNat_ofNat_octet (by omega)]
  exact ⟨low, high⟩

/-- A continuation octet fits wherever the full range is open. -/
theorem accepts_continuation {pending : Pending} {bits : Nat}
    (low : pending.low = 0x80) (high : pending.high = 0xBF) (small : bits < 64) :
    pending.accepts (UInt8.ofNat (0x80 + bits)) = true :=
  accepts_octet (by omega) (by omega) small

theorem announce?_two {code : Nat} (start : Nat)
    (atLeast : 0x80 ≤ code) (below : code < 0x800) :
    announce? start (UInt8.ofNat (0xC0 + code / 64)) =
      some ⟨start, UInt8.ofNat (0xC0 + code / 64), 1, 0x80, 0xBF, code / 64⟩ := by
  have lead := toNat_ofNat_octet (show 0xC0 + code / 64 < 256 by omega)
  simp only [announce?, lead]
  rw [if_neg (by omega), if_pos (by omega)]
  simp

/--
The lead octet of three announces the high bits, and bounds for the second octet that the
second octet of any code point keeps that is neither too small nor a surrogate.
-/
theorem announce?_three {code : Nat} (start : Nat)
    (atLeast : 0x800 ≤ code) (below : code < 0x10000)
    (scalar : code < 0xD800 ∨ 0xDFFF < code) :
    ∃ low high,
      announce? start (UInt8.ofNat (0xE0 + code / 4096)) =
          some ⟨start, UInt8.ofNat (0xE0 + code / 4096), 2, low, high, code / 4096⟩ ∧
        low ≤ 0x80 + code / 64 % 64 ∧ 0x80 + code / 64 % 64 ≤ high := by
  have lead := toNat_ofNat_octet (show 0xE0 + code / 4096 < 256 by omega)
  simp only [announce?, lead]
  by_cases first : code / 4096 = 0
  · refine ⟨0xA0, 0xBF, ?_, by omega, by omega⟩
    rw [if_neg (by omega), if_neg (by omega), if_pos (by omega), first]
  by_cases thirteenth : code / 4096 = 13
  · refine ⟨0x80, 0x9F, ?_, by omega, by omega⟩
    rw [if_neg (by omega), if_neg (by omega), if_neg (by omega), if_pos (by omega), thirteenth]
  · refine ⟨0x80, 0xBF, ?_, by omega, by omega⟩
    rw [if_neg (by omega), if_neg (by omega), if_neg (by omega), if_neg (by omega),
      if_pos (by omega)]
    simp

/-- The lead octet of four, likewise: the code point is neither too small nor too large. -/
theorem announce?_four {code : Nat} (start : Nat)
    (atLeast : 0x10000 ≤ code) (below : code < 0x110000) :
    ∃ low high,
      announce? start (UInt8.ofNat (0xF0 + code / 262144)) =
          some ⟨start, UInt8.ofNat (0xF0 + code / 262144), 3, low, high, code / 262144⟩ ∧
        low ≤ 0x80 + code / 4096 % 64 ∧ 0x80 + code / 4096 % 64 ≤ high := by
  have lead := toNat_ofNat_octet (show 0xF0 + code / 262144 < 256 by omega)
  simp only [announce?, lead]
  by_cases first : code / 262144 = 0
  · refine ⟨0x90, 0xBF, ?_, by omega, by omega⟩
    rw [if_neg (by omega), if_neg (by omega), if_neg (by omega), if_neg (by omega),
      if_neg (by omega), if_pos (by omega), first]
  by_cases last : code / 262144 = 4
  · refine ⟨0x80, 0x8F, ?_, by omega, by omega⟩
    rw [if_neg (by omega), if_neg (by omega), if_neg (by omega), if_neg (by omega),
      if_neg (by omega), if_neg (by omega), if_neg (by omega), if_pos (by omega), last]
  · refine ⟨0x80, 0xBF, ?_, by omega, by omega⟩
    rw [if_neg (by omega), if_neg (by omega), if_neg (by omega), if_neg (by omega),
      if_neg (by omega), if_neg (by omega), if_pos (by omega)]
    simp

/-- The last octet of a pending character, by the bits that it carries. -/
theorem decodeFrom_last {pending : Pending} {bits : Nat} (position : Nat) (rest : Octets)
    (last : pending.missing = 1) (low : pending.low = 0x80) (high : pending.high = 0xBF)
    (small : bits < 64) :
    decodeFrom position (some pending) (UInt8.ofNat (0x80 + bits) :: rest) =
      (Char.ofNat (pending.bits * 64 + bits) :: ·) <$> decodeFrom (position + 1) none rest := by
  have octet := toNat_ofNat_octet (show 0x80 + bits < 256 by omega)
  have carried : (0x80 + bits) % 64 = bits := by
    omega
  rw [decodeFrom_finish _ _ last (accepts_continuation low high small), octet, carried]

/-- The last two octets of a pending character; the first of them may be bounded more narrowly. -/
theorem decodeFrom_lastTwo {pending : Pending} {first second : Nat} (position : Nat)
    (rest : Octets) (two : pending.missing = 2)
    (low : pending.low ≤ 0x80 + first) (high : 0x80 + first ≤ pending.high)
    (firstSmall : first < 64) (secondSmall : second < 64) :
    decodeFrom position (some pending)
        (UInt8.ofNat (0x80 + first) :: UInt8.ofNat (0x80 + second) :: rest) =
      (Char.ofNat ((pending.bits * 64 + first) * 64 + second) :: ·) <$>
        decodeFrom (position + 2) none rest := by
  have octet := toNat_ofNat_octet (show 0x80 + first < 256 by omega)
  have carried : (0x80 + first) % 64 = first := by
    omega
  have accepted : pending.accepts (UInt8.ofNat (0x80 + first)) = true :=
    accepts_octet low high firstSmall
  have left : (pending.extend (UInt8.ofNat (0x80 + first))).missing = 1 := by
    simp [Pending.extend, two]
  rw [decodeFrom_continue _ _ (by omega) accepted, decodeFrom_last _ _ left rfl rfl secondSmall]
  simp only [Pending.extend, octet, carried]

theorem decodeFrom_lastThree {pending : Pending} {first second third : Nat} (position : Nat)
    (rest : Octets) (three : pending.missing = 3)
    (low : pending.low ≤ 0x80 + first) (high : 0x80 + first ≤ pending.high)
    (firstSmall : first < 64) (secondSmall : second < 64) (thirdSmall : third < 64) :
    decodeFrom position (some pending)
        (UInt8.ofNat (0x80 + first) :: UInt8.ofNat (0x80 + second) ::
          UInt8.ofNat (0x80 + third) :: rest) =
      (Char.ofNat (((pending.bits * 64 + first) * 64 + second) * 64 + third) :: ·) <$>
        decodeFrom (position + 3) none rest := by
  have octet := toNat_ofNat_octet (show 0x80 + first < 256 by omega)
  have carried : (0x80 + first) % 64 = first := by
    omega
  have accepted : pending.accepts (UInt8.ofNat (0x80 + first)) = true :=
    accepts_octet low high firstSmall
  have left : (pending.extend (UInt8.ofNat (0x80 + first))).missing = 2 := by
    simp [Pending.extend, three]
  have openLow : (pending.extend (UInt8.ofNat (0x80 + first))).low ≤ 0x80 + second := by
    simp [Pending.extend]
  have openHigh : 0x80 + second ≤ (pending.extend (UInt8.ofNat (0x80 + first))).high := by
    simp only [Pending.extend]
    omega
  rw [decodeFrom_continue _ _ (by omega) accepted,
    decodeFrom_lastTwo _ _ left openLow openHigh secondSmall thirdSmall]
  simp only [Pending.extend, octet, carried]

/-- The machine reads the octets of a code point as its character and is then where it was. -/
theorem decodeFrom_encodeCode {code : Nat} (position : Nat) (rest : Octets)
    (valid : code.isValidChar) :
    decodeFrom position none (encodeCode code ++ rest) =
      (Char.ofNat code :: ·) <$>
        decodeFrom (position + (encodeCode code).length) none rest := by
  have bound : code < 0xD800 ∨ 0xDFFF < code ∧ code < 0x110000 := valid
  -- One case for each number of octets; the arithmetic puts the bits together again.
  by_cases one : code < 0x80
  · have octet := toNat_ofNat_octet (show code < 256 by omega)
    simp only [encodeCode, if_pos one, List.cons_append, List.nil_append, List.length_singleton]
    rw [decodeFrom, octet, if_pos one]
  by_cases two : code < 0x800
  · have lead := toNat_ofNat_octet (show 0xC0 + code / 64 < 256 by omega)
    have whole : code / 64 * 64 + code % 64 = code := by
      omega
    simp only [encodeCode, if_neg one, if_pos two, List.cons_append, List.nil_append,
      List.length_cons, List.length_nil]
    rw [decodeFrom_announce _ _ (by omega) (announce?_two position (by omega) two),
      decodeFrom_last _ _ rfl rfl rfl (by omega), whole]
  by_cases three : code < 0x10000
  · have lead := toNat_ofNat_octet (show 0xE0 + code / 4096 < 256 by omega)
    have whole : (code / 4096 * 64 + code / 64 % 64) * 64 + code % 64 = code := by
      omega
    rcases announce?_three position (by omega) three (by omega) with
      ⟨low, high, announced, lowBound, highBound⟩
    simp only [encodeCode, if_neg one, if_neg two, if_pos three, List.cons_append,
      List.nil_append, List.length_cons, List.length_nil]
    rw [decodeFrom_announce _ _ (by omega) announced,
      decodeFrom_lastTwo _ _ rfl lowBound highBound (by omega) (by omega), whole]
  · have lead := toNat_ofNat_octet (show 0xF0 + code / 262144 < 256 by omega)
    have whole :
        ((code / 262144 * 64 + code / 4096 % 64) * 64 + code / 64 % 64) * 64 + code % 64 =
          code := by
      omega
    rcases announce?_four position (by omega) (show code < 0x110000 by omega) with
      ⟨low, high, announced, lowBound, highBound⟩
    simp only [encodeCode, if_neg one, if_neg two, if_neg three, List.cons_append,
      List.nil_append, List.length_cons, List.length_nil]
    rw [decodeFrom_announce _ _ (by omega) announced,
      decodeFrom_lastThree _ _ rfl lowBound highBound (by omega) (by omega) (by omega), whole]

theorem decodeFrom_encode (position : Nat) (text : List Char) :
    decodeFrom position none (encode text) = .ok text := by
  induction text generalizing position with
  | nil => simp [decodeFrom]
  | cons character rest ih =>
      have valid : character.toNat.isValidChar := character.valid
      rw [encode_cons, encodeChar, decodeFrom_encodeCode _ _ valid, ih, Char.ofNat_toNat]
      rfl

/-- Decoding reads back the text that was encoded. -/
theorem decode_encode (text : List Char) :
    decode (encode text) = .ok text :=
  decodeFrom_encode 0 text

/-! ## The lossy decoder -/

/-- Where a pending character began does not matter to the lossy decoder. -/
theorem decodeLossyFrom_start (pending : Pending) (start : Nat) (octets : Octets) :
    decodeLossyFrom (some { pending with start := start }) octets =
      decodeLossyFrom (some pending) octets := by
  induction octets generalizing pending with
  | nil => simp [decodeLossyFrom]
  | cons octet rest ih =>
      have moved :
          ({ pending with start := start } : Pending).extend octet =
            { pending.extend octet with start := start } := rfl
      have same :
          ({ pending with start := start } : Pending).accepts octet = pending.accepts octet := rfl
      simp only [decodeLossyFrom, same, moved, ih]

theorem decodeLossyFrom_announce? (position : Nat) (octet : UInt8) (rest : Octets) :
    decodeLossyFrom (announce? position octet) rest =
      decodeLossyFrom (announce? 0 octet) rest := by
  have moved :
      announce? position octet =
        (announce? 0 octet).map fun pending => { pending with start := position } := by
    simp only [announce?]
    split_ifs <;> rfl
  rw [moved]
  cases announce? 0 octet with
  | none => rfl
  | some pending => exact decodeLossyFrom_start pending position rest

theorem exists_of_cons_map_eq_ok {character : Char} {read : Except Fault (List Char)}
    {text : List Char} (decoded : (character :: ·) <$> read = .ok text) :
    ∃ rest, read = .ok rest ∧ text = character :: rest := by
  cases read with
  | error fault => contradiction
  | ok rest =>
      simp only [Functor.map, Except.map, Except.ok.injEq] at decoded
      exact ⟨rest, rfl, decoded.symm⟩

/-- Octets without a fault are read alike by both decoders, whatever comes after them. -/
theorem decodeLossyFrom_append {position : Nat} {pending : Option Pending}
    {octets : Octets} {text : List Char}
    (decoded : decodeFrom position pending octets = .ok text) (tail : Octets) :
    decodeLossyFrom pending (octets ++ tail) = text ++ decodeLossyFrom none tail := by
  induction octets generalizing position pending text with
  | nil =>
      cases pending with
      | none =>
          simp only [decodeFrom, Except.ok.injEq] at decoded
          simp [← decoded]
      | some pending => simp [decodeFrom] at decoded
  | cons octet rest ih =>
      rw [List.cons_append]
      cases pending with
      | none =>
          simp only [decodeFrom] at decoded
          split_ifs at decoded with ascii
          · rcases exists_of_cons_map_eq_ok decoded with ⟨others, restDecoded, rfl⟩
            simp [decodeLossyFrom, ascii, ih restDecoded]
          · cases announced : announce? position octet with
            | none => simp [announced] at decoded
            | some pending =>
                simp only [announced] at decoded
                simp only [decodeLossyFrom, if_neg ascii]
                rw [← decodeLossyFrom_announce? position, announced]
                exact ih decoded
      | some pending =>
          simp only [decodeFrom] at decoded
          split_ifs at decoded with accepted complete
          · rcases exists_of_cons_map_eq_ok decoded with ⟨others, restDecoded, rfl⟩
            simp [decodeLossyFrom, accepted, complete, ih restDecoded]
          · simp only [decodeLossyFrom, if_pos accepted, if_neg complete]
            exact ih decoded

theorem decodeLossy_encode_append (text : List Char) (tail : Octets) :
    decodeLossy (encode text ++ tail) = text ++ decodeLossy tail :=
  decodeLossyFrom_append (decode_encode text) tail

theorem decodeLossy_encode (text : List Char) :
    decodeLossy (encode text) = text := by
  simpa [decodeLossy, decodeLossyFrom] using decodeLossy_encode_append text []

/-! ## Boundaries -/

/-- The offsets at which a character of a text begins, and the end of the text. -/
def boundaries : List Char → List Nat
  | [] => [0]
  | character :: rest => 0 :: (boundaries rest).map ((encodeChar character).length + ·)

/-- A boundary is the size of some front part of the text. -/
theorem mem_boundaries_iff {text : List Char} {offset : Nat} :
    offset ∈ boundaries text ↔
      ∃ before after, text = before ++ after ∧ (encode before).length = offset := by
  induction text generalizing offset with
  | nil =>
      simp only [boundaries, List.mem_singleton]
      constructor
      · rintro rfl
        exact ⟨[], [], rfl, rfl⟩
      · rintro ⟨before, after, empty, size⟩
        have none : before = [] := (List.append_eq_nil_iff.mp empty.symm).1
        rw [← size, none]
        rfl
  | cons character rest ih =>
      simp only [boundaries, List.mem_cons, List.mem_map]
      constructor
      · rintro (rfl | ⟨inner, member, rfl⟩)
        · exact ⟨[], character :: rest, rfl, rfl⟩
        · rcases ih.mp member with ⟨before, after, rfl, size⟩
          exact ⟨character :: before, after, rfl, by simp [size]⟩
      · rintro ⟨before, after, split, size⟩
        cases before with
        | nil => exact Or.inl size.symm
        | cons head tail =>
            simp only [List.cons_append, List.cons.injEq] at split
            rcases split with ⟨rfl, rfl⟩
            refine Or.inr ⟨(encode tail).length, ih.mpr ⟨tail, after, rfl, rfl⟩, ?_⟩
            simpa using size

theorem le_length_of_mem_boundaries {text : List Char} {offset : Nat}
    (boundary : offset ∈ boundaries text) :
    offset ≤ (encode text).length := by
  rcases mem_boundaries_iff.mp boundary with ⟨before, after, rfl, rfl⟩
  simp

/-- Octets cut at a boundary are the octets of the two parts of the text. -/
theorem exists_encode_of_append {text : List Char} {front back : Octets}
    (cut : encode text = front ++ back) (boundary : front.length ∈ boundaries text) :
    ∃ before after, text = before ++ after ∧ encode before = front ∧ encode after = back := by
  rcases mem_boundaries_iff.mp boundary with ⟨before, after, rfl, size⟩
  rw [encode_append] at cut
  rcases List.append_inj cut size with ⟨frontEqual, backEqual⟩
  exact ⟨before, after, rfl, frontEqual, backEqual⟩

theorem encodeChar_ne_nil (character : Char) :
    encodeChar character ≠ [] := by
  simp only [encodeChar, encodeCode]
  split_ifs <;> simp

theorem encode_eq_nil_iff {text : List Char} :
    encode text = [] ↔ text = [] := by
  cases text with
  | nil => simp
  | cons character rest => simp [encodeChar_ne_nil]

/-- A later boundary is a boundary of what stands after an earlier one. -/
theorem mem_boundaries_append {before after : List Char} {offset : Nat}
    (boundary : offset ∈ boundaries (before ++ after))
    (later : (encode before).length ≤ offset) :
    offset - (encode before).length ∈ boundaries after := by
  rcases mem_boundaries_iff.mp boundary with ⟨front, back, split, size⟩
  rcases List.append_eq_append_iff.mp split with ⟨middle, rfl, afterEqual⟩ | ⟨middle, rfl, -⟩
  · refine mem_boundaries_iff.mpr ⟨middle, back, afterEqual, ?_⟩
    rw [← size]
    simp
  · -- The part between the two cuts has no octets, so it has no characters either.
    have none : middle = [] := by
      rw [← encode_eq_nil_iff, ← List.length_eq_zero_iff]
      simp only [encode_append, List.length_append] at later
      omega
    refine mem_boundaries_iff.mpr ⟨[], after, rfl, ?_⟩
    rw [← size, none]
    simp

/-- How many characters of a text begin before an offset. -/
def characterIndex (text : List Char) (offset : Nat) : Nat :=
  (boundaries text).countP (· < offset)

@[simp]
theorem characterIndex_zero (text : List Char) :
    characterIndex text 0 = 0 := by
  simp [characterIndex]

theorem characterIndex_append (before after : List Char) :
    characterIndex (before ++ after) (encode before).length = before.length := by
  induction before with
  | nil => exact characterIndex_zero after
  | cons character rest ih =>
      have nonempty := List.length_pos_iff.mpr (encodeChar_ne_nil character)
      have begins :
          decide (0 < (encodeChar character).length + (encode rest).length) = true := by
        rw [decide_eq_true_eq]
        omega
      have shifted :
          ((fun boundary => decide
              (boundary < (encodeChar character).length + (encode rest).length)) ∘
            ((encodeChar character).length + ·)) =
            fun boundary => decide (boundary < (encode rest).length) := by
        funext boundary
        simp
      rw [characterIndex] at ih ⊢
      rw [List.cons_append, boundaries, encode_cons, List.length_append,
        List.countP_cons, List.countP_map, shifted, ih, if_pos begins, List.length_cons]

/-- The characters from a boundary on are encoded by the octets from there on. -/
theorem encode_drop_characterIndex {text : List Char} {offset : Nat}
    (boundary : offset ∈ boundaries text) :
    encode (text.drop (characterIndex text offset)) = (encode text).drop offset := by
  rcases mem_boundaries_iff.mp boundary with ⟨before, after, rfl, rfl⟩
  rw [characterIndex_append, List.drop_left, encode_append, List.drop_left]

/-- The characters between two boundaries are encoded by the octets between them. -/
theorem encode_extract_characterIndex {text : List Char} {start stop : Nat}
    (startBoundary : start ∈ boundaries text) (stopBoundary : stop ∈ boundaries text)
    (forward : start ≤ stop) :
    encode (text.extract (characterIndex text start) (characterIndex text stop)) =
      (encode text).extract start stop := by
  rcases mem_boundaries_iff.mp startBoundary with ⟨before, after, rfl, rfl⟩
  rcases mem_boundaries_iff.mp (mem_boundaries_append stopBoundary forward) with
    ⟨middle, tail, rfl, size⟩
  have stopSize : stop = (encode (before ++ middle)).length := by
    rw [encode_append, List.length_append]
    omega
  have stopIndex :
      characterIndex (before ++ (middle ++ tail)) stop = (before ++ middle).length := by
    rw [stopSize, ← List.append_assoc, characterIndex_append]
  rw [stopIndex, characterIndex_append, stopSize]
  simp [List.extract_eq_take_drop]

/-! ## Single octets -/

/-- All octets of a character of more than one octet are beyond the ASCII range. -/
theorem le_of_mem_encodeCode {code : Nat} (beyond : 0x80 ≤ code) (isCode : code < 0x110000) :
    ∀ octet ∈ encodeCode code, 0x80 ≤ octet.toNat := by
  have large {number : Nat} (low : 0x80 ≤ number) (high : number < 256) :
      0x80 ≤ (UInt8.ofNat number).toNat := by
    rwa [toNat_ofNat_octet high]
  rw [encodeCode, if_neg (Nat.not_lt.mpr beyond)]
  split_ifs with two three
  · rw [List.forall_mem_cons, List.forall_mem_cons]
    exact ⟨large (by omega) (by omega), large (by omega) (by omega), List.forall_mem_nil _⟩
  · rw [List.forall_mem_cons, List.forall_mem_cons, List.forall_mem_cons]
    exact ⟨large (by omega) (by omega), large (by omega) (by omega), large (by omega) (by omega),
      List.forall_mem_nil _⟩
  · rw [List.forall_mem_cons, List.forall_mem_cons, List.forall_mem_cons, List.forall_mem_cons]
    exact ⟨large (by omega) (by omega), large (by omega) (by omega), large (by omega) (by omega),
      large (by omega) (by omega), List.forall_mem_nil _⟩

/-- An ASCII octet stands for nothing but its character. -/
theorem mem_of_mem_encode {octet : UInt8} {text : List Char} (ascii : octet.toNat < 0x80)
    (member : octet ∈ encode text) :
    Char.ofNat octet.toNat ∈ text := by
  rcases List.mem_flatMap.mp member with ⟨character, among, inside⟩
  have valid : character.toNat < 0xD800 ∨
      0xDFFF < character.toNat ∧ character.toNat < 0x110000 := character.valid
  have short : character.toNat < 0x80 := by
    rw [← Nat.not_le]
    intro long
    have beyond := le_of_mem_encodeCode long (by omega) octet inside
    omega
  rw [encodeChar, encodeCode, if_pos short, List.mem_singleton] at inside
  rw [inside, toNat_ofNat_octet (by omega), Char.ofNat_toNat]
  exact among

/-! ## Cuts inside a character -/

/-- Are the octets acceptable one after the other to the pending character? -/
def Pending.Continues (pending : Pending) : Octets → Prop
  | [] => True
  | octet :: rest => pending.accepts octet = true ∧ (pending.extend octet).Continues rest

theorem Pending.Continues.of_isPrefix {pending : Pending} {front octets : Octets}
    (continues : pending.Continues octets) (isFront : front <+: octets) :
    pending.Continues front := by
  induction front generalizing pending octets with
  | nil => trivial
  | cons octet rest ih =>
      cases octets with
      | nil => simp at isFront
      | cons other others =>
          rcases List.cons_prefix_cons.mp isFront with ⟨rfl, restFront⟩
          exact ⟨continues.1, ih continues.2 restFront⟩

/-- A pending character that is never completed leaves nothing behind. -/
theorem decodeLossyFrom_of_unfinished {pending : Pending} {octets : Octets}
    (continues : pending.Continues octets) (short : octets.length < pending.missing) :
    decodeLossyFrom (some pending) octets = [] := by
  induction octets generalizing pending with
  | nil => rfl
  | cons octet rest ih =>
      rcases continues with ⟨accepted, restContinues⟩
      rw [List.length_cons] at short
      have left : rest.length < (pending.extend octet).missing := by
        simp only [Pending.extend]
        omega
      have unfinished : (pending.extend octet).missing ≠ 0 := by
        omega
      simp only [decodeLossyFrom, if_pos accepted, if_neg unfinished]
      exact ih restContinues left

/-- The first octet of a longer character announces it, and the others complete it. -/
theorem exists_announced {code : Nat} (beyond : 0x80 ≤ code) (valid : code.isValidChar) :
    ∃ lead pending octets, encodeCode code = lead :: octets ∧ announce? 0 lead = some pending ∧
      pending.missing = octets.length ∧ pending.Continues octets := by
  have bound : code < 0xD800 ∨ 0xDFFF < code ∧ code < 0x110000 := valid
  simp only [encodeCode, if_neg (Nat.not_lt.mpr beyond)]
  split_ifs with two three
  · refine ⟨_, _, _, rfl, announce?_two 0 beyond two, rfl, ?_⟩
    exact ⟨accepts_continuation rfl rfl (by omega), trivial⟩
  · rcases announce?_three 0 (by omega) three (by omega) with
      ⟨low, high, announced, lowBound, highBound⟩
    refine ⟨_, _, _, rfl, announced, rfl, ?_⟩
    exact ⟨accepts_octet lowBound highBound (by omega),
      accepts_continuation rfl rfl (by omega), trivial⟩
  · rcases announce?_four 0 (by omega) (show code < 0x110000 by omega) with
      ⟨low, high, announced, lowBound, highBound⟩
    refine ⟨_, _, _, rfl, announced, rfl, ?_⟩
    exact ⟨accepts_octet lowBound highBound (by omega), accepts_continuation rfl rfl (by omega),
      accepts_continuation rfl rfl (by omega), trivial⟩

/-- Some of the octets of the first character of a text, from the first on, but not all. -/
inductive IsFragment : Octets → List Char → Prop where
  | atEnd : IsFragment [] []
  | within {octets : Octets} {character : Char} {rest : List Char}
      (isFront : octets <+: encodeChar character)
      (short : octets.length < (encodeChar character).length) :
      IsFragment octets (character :: rest)

/-- Octets cut off anywhere are those of whole characters and a fragment of the next one. -/
theorem exists_take_encode (text : List Char) (size : Nat) :
    ∃ before after fragment, text = before ++ after ∧ IsFragment fragment after ∧
      (encode text).take size = encode before ++ fragment := by
  induction text generalizing size with
  | nil => exact ⟨[], [], [], rfl, .atEnd, List.take_nil⟩
  | cons character rest ih =>
      rw [encode_cons, List.take_append]
      by_cases fits : (encodeChar character).length ≤ size
      · rcases ih (size - (encodeChar character).length) with
          ⟨before, after, fragment, rfl, isFragment, taken⟩
        refine ⟨character :: before, after, fragment, rfl, isFragment, ?_⟩
        rw [List.take_of_length_le fits, taken, encode_cons, List.append_assoc]
      · have beyond : size - (encodeChar character).length = 0 := by
          omega
        refine ⟨[], character :: rest, (encodeChar character).take size, rfl, ?_, ?_⟩
        · apply IsFragment.within (List.take_prefix size (encodeChar character))
          rw [List.length_take]
          omega
        · rw [beyond, List.take_zero, List.append_nil]
          rfl

theorem le_of_one_lt_length {character : Char} (long : 1 < (encodeChar character).length) :
    0x80 ≤ character.toNat := by
  rw [← Nat.not_lt]
  intro ascii
  rw [encodeChar, encodeCode, if_pos ascii, List.length_singleton] at long
  omega

/-- Only a longer character has a fragment with any octets, and all of these are beyond ASCII. -/
theorem IsFragment.le_of_mem {fragment : Octets} {after : List Char} {octet : UInt8}
    (isFragment : IsFragment fragment after) (member : octet ∈ fragment) :
    0x80 ≤ octet.toNat := by
  cases isFragment with
  | atEnd => contradiction
  | @within _ character _ isFront short =>
      have valid : character.toNat < 0xD800 ∨
          0xDFFF < character.toNat ∧ character.toNat < 0x110000 := character.valid
      have some := List.length_pos_of_mem member
      exact le_of_mem_encodeCode (le_of_one_lt_length (by omega)) (by omega) octet
        (isFront.subset member)

/-- The lossy decoder drops a fragment. -/
theorem IsFragment.decodeLossy_eq {fragment : Octets} {after : List Char}
    (isFragment : IsFragment fragment after) :
    decodeLossy fragment = [] := by
  cases fragment with
  | nil => rfl
  | cons lead octets =>
      have high := isFragment.le_of_mem List.mem_cons_self
      cases isFragment with
      | @within _ character _ isFront short =>
          rw [List.length_cons] at short
          rcases exists_announced (le_of_one_lt_length (by omega)) character.valid with
            ⟨first, pending, others, split, announced, size, continues⟩
          rw [encodeChar] at isFront short
          rw [split] at isFront short
          rcases List.cons_prefix_cons.mp isFront with ⟨rfl, othersFront⟩
          rw [decodeLossy, decodeLossyFrom]
          simp only [if_neg (Nat.not_lt.mpr high), announced]
          apply decodeLossyFrom_of_unfinished (continues.of_isPrefix othersFront)
          rw [size]
          exact Nat.lt_of_succ_lt_succ short

/-! ## Line feeds -/

theorem count_lineFeed_encodeChar (character : Char) :
    (encodeChar character).count 10 = if character = '\n' then 1 else 0 := by
  split_ifs with lineFeed
  · rw [lineFeed]
    rfl
  · rw [List.count_eq_zero]
    intro member
    have single : (10 : UInt8) ∈ encode [character] := by
      simpa using member
    have same := mem_of_mem_encode (by decide) single
    exact lineFeed (List.mem_singleton.mp same).symm

/-- A line feed is the octet 10, and no other character has this octet. -/
theorem count_lineFeed_encode (text : List Char) :
    (encode text).count 10 = text.count '\n' := by
  induction text with
  | nil => rfl
  | cons character rest ih =>
      rw [encode_cons, List.count_append, count_lineFeed_encodeChar, ih, List.count_cons,
        Nat.add_comm]
      simp

end CasingLint.Text.Utf8
