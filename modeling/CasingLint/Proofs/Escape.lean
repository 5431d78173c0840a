import CasingLint.Escape
import CasingLint.Proofs.Outcome

/-!
# When a spelling has a value

Decoding breaks off only at an escape beyond the last code point, so a spelling has a
value exactly when its escapes are all in range.  A spelling without verbatim mark and
escapes is its own value.
-/

namespace CasingLint.Escape

/-- Does every escape of a spelling name a code point? -/
def isInRange : List Char → Bool
  | [] => true
  | character :: rest =>
      (character != '\\' ||
        (escapeAt? rest).all fun escape => decide (escape.1 < 0x110000)) && isInRange rest

theorem isInRange_cons {character : Char} {rest : List Char}
    (inRange : isInRange (character :: rest) = true) :
    (∀ number size,
      (if character = '\\' then escapeAt? rest else none) = some (number, size) →
        number < 0x110000) ∧
      isInRange rest = true := by
  rw [isInRange, Bool.and_eq_true, Bool.or_eq_true] at inRange
  refine ⟨?_, inRange.2⟩
  intro number size found
  split at found
  · rename_i backslash
    rcases inRange.1 with other | bounded
    · simp [backslash] at other
    · simpa [found] using bounded
  · contradiction

theorem exists_decodeFrom {spelling : List Char} (skipped : Nat)
    (inRange : isInRange spelling = true) :
    ∃ points, decodeFrom skipped spelling = .ok points := by
  induction spelling generalizing skipped with
  | nil => exact ⟨[], rfl⟩
  | cons character rest ih =>
      rcases isInRange_cons inRange with ⟨bounded, restInRange⟩
      cases skipped with
      | succ remaining => exact ih remaining restInRange
      | zero =>
          rw [decodeFrom]
          split
          · rename_i number size found
            rcases ih size restInRange with ⟨others, decoded⟩
            have point := bounded number size found
            exact ⟨⟨number, point⟩ :: others, by rw [codePoint, dif_pos point, decoded]; rfl⟩
          · rcases ih 0 restInRange with ⟨others, decoded⟩
            exact ⟨ofChar character :: others, by rw [decoded]; rfl⟩

/-- A spelling whose escapes are in range has a value. -/
theorem exists_value {spelling : String}
    (inRange : isInRange spelling.toList = true) :
    ∃ name, value spelling = .ok name := by
  have decoded : ∃ points, decode spelling.toList = .ok points := by
    unfold decode
    split
    · rename_i name verbatim
      rw [verbatim] at inRange
      exact exists_decodeFrom 0 (isInRange_cons inRange).2
    · exact exists_decodeFrom 0 inRange
  rcases decoded with ⟨points, equal⟩
  exact ⟨String.ofList (points.map toChar), by rw [value, equal]; rfl⟩

/-! ## Spellings with a value -/

theorem not_mem_of_hexNumber? {count number : Nat} {text : List Char}
    (written : hexNumber? count text = some number) :
    '\\' ∉ text.take count := by
  intro member
  simp only [hexNumber?] at written
  split at written
  · rcases Option.map_eq_some_iff.mp written with ⟨values, readAll, -⟩
    generalize text.take count = digits at member readAll
    induction digits generalizing values with
    | nil => contradiction
    | cons digit rest ih =>
        rw [List.mapM_cons, Option.bind_eq_bind, Option.bind_eq_some_iff] at readAll
        rcases readAll with ⟨value, readDigit, readRest⟩
        rcases Option.bind_eq_some_iff.mp readRest with ⟨others, readOthers, -⟩
        rcases List.mem_cons.mp member with rfl | later
        · contradiction
        · exact ih others later readOthers
  · contradiction

/-- No further escape begins inside an escape. -/
theorem not_mem_of_escapeAt? {text : List Char} {number size : Nat}
    (found : escapeAt? text = some (number, size)) :
    '\\' ∉ text.take size := by
  rw [escapeAt?.eq_def] at found
  split at found
  · rcases Option.map_eq_some_iff.mp found with ⟨written, digits, same⟩
    cases same
    simpa using not_mem_of_hexNumber? digits
  · rcases Option.map_eq_some_iff.mp found with ⟨written, digits, same⟩
    cases same
    simpa using not_mem_of_hexNumber? digits
  · contradiction

theorem lt_of_codePoint {number : Nat} {point : CodePoint}
    (named : codePoint number = .ok point) :
    number < 0x110000 := by
  rw [codePoint] at named
  split at named
  · assumption
  · split at named
    · contradiction
    · contradiction

theorem isInRange_of_decodeFrom {spelling : List Char} {skipped : Nat} {points : List CodePoint}
    (passed : '\\' ∉ spelling.take skipped)
    (decoded : decodeFrom skipped spelling = .ok points) :
    isInRange spelling = true := by
  induction spelling generalizing skipped points with
  | nil => rfl
  | cons character rest ih =>
      cases skipped with
      | succ remaining =>
          rw [List.take_succ_cons, List.mem_cons, not_or] at passed
          rw [isInRange, ih passed.2 decoded]
          simp [Ne.symm passed.1]
      | zero =>
          rw [decodeFrom] at decoded
          split at decoded
          · rename_i number size found
            rcases Outcome.bind_eq_ok_iff.mp decoded with ⟨point, named, ends⟩
            rcases Outcome.bind_eq_ok_iff.mp ends with ⟨others, decodedRest, -⟩
            split at found
            · rw [isInRange, found, ih (not_mem_of_escapeAt? found) decodedRest]
              simp [lt_of_codePoint named]
            · contradiction
          · rename_i plain
            rcases Outcome.bind_eq_ok_iff.mp decoded with ⟨others, decodedRest, -⟩
            rw [isInRange, ih (by simp) decodedRest, Bool.and_true]
            by_cases backslash : character = '\\'
            · rw [if_pos backslash] at plain
              simp [plain]
            · simp [backslash]

/-- A spelling has a value exactly if its escapes are in range. -/
theorem exists_value_iff {spelling : String} :
    (∃ name, value spelling = .ok name) ↔ isInRange spelling.toList = true := by
  constructor
  · rintro ⟨name, denoted⟩
    rcases Outcome.map_eq_ok_iff.mp denoted with ⟨points, decoded, -⟩
    unfold decode at decoded
    split at decoded
    · rename_i tail verbatim
      rw [verbatim, isInRange, isInRange_of_decodeFrom (by simp) decoded]
      rfl
    · exact isInRange_of_decodeFrom (by simp) decoded
  · exact exists_value

/-! ## Spellings that denote themselves -/

@[simp]
theorem toChar_ofChar (character : Char) :
    toChar (ofChar character) = character := by
  have valid := character.valid
  have small : character.toNat < 0x110000 := by
    rcases valid with low | high
    · exact Nat.lt_trans low (by decide)
    · exact high.2
  have point : (ofChar character).val = character.toNat := by
    simp [ofChar, Fin.ofNat, Nat.mod_eq_of_lt small]
  have notSurrogate : ¬ (0xD800 ≤ character.toNat ∧ character.toNat < 0xE000) := by
    rcases valid with low | high
    · have below : character.toNat < 0xD800 := low
      omega
    · have above : 0xDFFF < character.toNat := high.1
      omega
  rw [toChar, point, if_neg notSurrogate, Char.ofNat_toNat]

theorem isInRange_of_not_mem {spelling : List Char}
    (unescaped : '\\' ∉ spelling) :
    isInRange spelling = true := by
  induction spelling with
  | nil => rfl
  | cons character rest ih =>
      rcases not_or.mp (mt List.mem_cons.mpr unescaped) with ⟨other, restUnescaped⟩
      simp [isInRange, Ne.symm other, ih restUnescaped]

theorem decodeFrom_of_not_mem {spelling : List Char}
    (unescaped : '\\' ∉ spelling) :
    decodeFrom 0 spelling = .ok (spelling.map ofChar) := by
  induction spelling with
  | nil => rfl
  | cons character rest ih =>
      rcases not_or.mp (mt List.mem_cons.mpr unescaped) with ⟨other, restUnescaped⟩
      rw [decodeFrom, if_neg (Ne.symm other), ih restUnescaped]
      rfl

theorem decode_of_head?_ne {spelling : List Char}
    (notVerbatim : spelling.head? ≠ some '@') :
    decode spelling = decodeFrom 0 spelling := by
  unfold decode
  split
  · exact absurd rfl notVerbatim
  · rfl

/-- A spelling without verbatim mark and escapes is its own value. -/
theorem value_eq_self {spelling : String}
    (notVerbatim : spelling.toList.head? ≠ some '@')
    (unescaped : '\\' ∉ spelling.toList) :
    value spelling = .ok spelling := by
  rw [value, decode_of_head?_ne notVerbatim, decodeFrom_of_not_mem unescaped]
  have same : (spelling.toList.map ofChar).map toChar = spelling.toList := by
    rw [List.map_map]
    exact List.map_id'' toChar_ofChar spelling.toList
  simp only [Except.map, same, String.ofList_toList]

end CasingLint.Escape
