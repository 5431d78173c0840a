import CasingLint.Proofs.Escape
import Mathlib.Data.Nat.Digits.Defs
import Mathlib.Tactic.IntervalCases

/-!
# Every spelling of a name is read back

A code point can be written in up to three ways: as itself, with four hexadecimal digits or
with eight.  `Spells` says which texts write given code points, without looking at how they
are read.  The main statement is that reading any of them gives the code points back.

It rests on one step: after a written code point the rest of the text is read as if it stood
alone.  So neither literal digits behind an escape nor a backslash that an escape denotes can
become part of another escape.
-/

namespace CasingLint

/-! ## Hexadecimal digits -/

namespace Text

/-- The value of a hexadecimal digit does not depend on its case. -/
theorem hexValue?_toLower (character : Char) :
    hexValue? character.toLower = hexValue? character := by
  by_cases isUpper : 65 ≤ character.toNat ∧ character.toNat ≤ 90
  · rw [← Char.ofNat_toNat character]
    generalize character.toNat = code at isUpper
    rcases isUpper with ⟨low, high⟩
    interval_cases code <;> rfl
  · have same : character.toLower = character := dif_neg isUpper
    rw [same]

theorem hexValue?_digitChar {digit : Nat} (small : digit < 16) :
    hexValue? digit.digitChar = some digit := by
  interval_cases digit <;> rfl

/-- The digits of a number have values that make up the number. -/
theorem exists_values_toDigits (number : Nat) :
    ∃ values, (Nat.toDigits 16 number).mapM hexValue? = some values ∧
      values.foldl (fun total digit => 16 * total + digit) 0 = number := by
  induction number using Nat.strong_induction_on with
  | h number ih =>
      rw [Nat.toDigits_eq_if (by decide)]
      split_ifs with small
      · exact ⟨[number], by simp [hexValue?_digitChar small], by simp⟩
      · rcases ih (number / 16) (by omega) with ⟨values, read, made⟩
        have last := hexValue?_digitChar (Nat.mod_lt number (show 0 < 16 by decide))
        refine ⟨values ++ [number % 16], by simp [read, last], ?_⟩
        rw [List.foldl_append, made]
        exact Nat.div_add_mod number 16

/-- Zeros in front change nothing. -/
theorem exists_values_hexDigits (width number : Nat) :
    ∃ values, (hexDigits width number).mapM hexValue? = some values ∧
      values.foldl (fun total digit => 16 * total + digit) 0 = number := by
  simp only [hexDigits]
  induction width - (Nat.toDigits 16 number).length with
  | zero => exact exists_values_toDigits number
  | succ padding ih =>
      rcases ih with ⟨values, read, made⟩
      have zero : hexValue? '0' = some 0 := rfl
      exact ⟨0 :: values, by simp [List.replicate_succ, zero, read], made⟩

theorem length_hexDigits {width number : Nat} (room : 0 < width) (small : number < 16 ^ width) :
    (hexDigits width number).length = width := by
  have fits := (Nat.length_toDigits_le_iff (by decide) room).mpr small
  simp only [hexDigits, List.length_append, List.length_replicate]
  omega

end Text

namespace Escape

open CasingLint.Text

/-! ## Written code points -/

/--
The ways to write a code point.  A backslash cannot stand for itself.  The digits of an escape
may be written in either case, and a surrogate, which is no character, can only be escaped.
-/
inductive Writes : CodePoint → List Char → Prop where
  | itself {character : Char} (notBackslash : character ≠ '\\') :
      Writes (ofChar character) [character]
  | short {point : CodePoint} {digits : List Char} (small : point.val < 0x10000)
      (written : digits.map Char.toLower = hexDigits 4 point.val) :
      Writes point ('\\' :: 'u' :: digits)
  | long {point : CodePoint} {digits : List Char}
      (written : digits.map Char.toLower = hexDigits 8 point.val) :
      Writes point ('\\' :: 'U' :: digits)

/--
A text spells code points if it writes one after the other.  The verbatim mark may stand in
front; without it the text does not begin with the character that is this mark.
-/
inductive Spells : List CodePoint → List Char → Prop where
  | plain {points : List CodePoint} {pieces : List (List Char)}
      (written : List.Forall₂ Writes points pieces)
      (unmarked : pieces.flatten.head? ≠ some '@') :
      Spells points pieces.flatten
  | verbatim {points : List CodePoint} {pieces : List (List Char)}
      (written : List.Forall₂ Writes points pieces) :
      Spells points ('@' :: pieces.flatten)

/-! ## Reading -/

section

variable {width number : Nat} {digits : List Char}

theorem length_of_written (room : 0 < width) (small : number < 16 ^ width)
    (written : digits.map Char.toLower = hexDigits width number) :
    digits.length = width := by
  rw [← List.length_map Char.toLower, written, length_hexDigits room small]

theorem hexNumber?_of_written (rest : List Char) (room : 0 < width) (small : number < 16 ^ width)
    (written : digits.map Char.toLower = hexDigits width number) :
    hexNumber? width (digits ++ rest) = some number := by
  have size := length_of_written room small written
  rcases exists_values_hexDigits width number with ⟨values, read, made⟩
  have readDigits : digits.mapM hexValue? = some values := by
    rw [← read, ← written, List.mapM_map]
    congr 1
    funext character
    exact (hexValue?_toLower character).symm
  simp [hexNumber?, ← size, readDigits, made]

end

theorem decodeFrom_length_append (front rest : List Char) :
    decodeFrom front.length (front ++ rest) = decodeFrom 0 rest := by
  induction front with
  | nil => rfl
  | cons character others ih => exact ih

/-- An escape is read as its code point, and then the rest of the text as if it stood alone. -/
theorem decodeFrom_escape {point : CodePoint} {escape rest : List Char}
    (found : escapeAt? (escape ++ rest) = some (point.val, escape.length)) :
    decodeFrom 0 ('\\' :: escape ++ rest) = (point :: ·) <$> decodeFrom 0 rest := by
  have named : codePoint point.val = .ok point := dif_pos point.isLt
  rw [List.cons_append, decodeFrom, if_pos rfl, found]
  simp only [named, decodeFrom_length_append]
  rfl

theorem decodeFrom_of_writes {point : CodePoint} {piece : List Char} (rest : List Char)
    (writes : Writes point piece) :
    decodeFrom 0 (piece ++ rest) = (point :: ·) <$> decodeFrom 0 rest := by
  cases writes with
  | itself notBackslash =>
      rw [List.singleton_append, decodeFrom, if_neg notBackslash]
      rfl
  | @short _ digits small written =>
      have number := hexNumber?_of_written rest (by decide) small written
      have size : digits.length = 4 := length_of_written (by decide) small written
      apply decodeFrom_escape
      rw [List.cons_append, escapeAt?, number, List.length_cons, size]
      rfl
  | @long _ digits written =>
      have small : point.val < 16 ^ 8 := Nat.lt_trans point.isLt (by decide)
      have number := hexNumber?_of_written rest (by decide) small written
      have size : digits.length = 8 := length_of_written (by decide) small written
      apply decodeFrom_escape
      rw [List.cons_append, escapeAt?, number, List.length_cons, size]
      rfl

theorem decodeFrom_flatten {points : List CodePoint} {pieces : List (List Char)}
    (written : List.Forall₂ Writes points pieces) :
    decodeFrom 0 pieces.flatten = .ok points := by
  induction written with
  | nil => rfl
  | cons writes _ ih =>
      rw [List.flatten_cons, decodeFrom_of_writes _ writes, ih]
      rfl

/--
Whatever the spelling, the code points are read back.  A written code point is not read again:
what follows it is read as if it stood alone, even if the two would make up an escape.  A text
without verbatim mark and backslash is its own value.
-/
theorem decode_eq_of_spells :
    (∀ {points : List CodePoint} {spelling : List Char},
      Spells points spelling → decode spelling = .ok points) ∧
      (∀ {point : CodePoint} {piece : List Char} (rest : List Char), Writes point piece →
        decodeFrom 0 (piece ++ rest) = (point :: ·) <$> decodeFrom 0 rest) ∧
      ∀ text : String, text.toList.head? ≠ some '@' → '\\' ∉ text.toList →
        decode text.toList = .ok (text.toList.map ofChar) ∧ value text = .ok text := by
  refine ⟨?_, fun rest writes => decodeFrom_of_writes rest writes, ?_⟩
  · intro points spelling spells
    cases spells with
    | plain written unmarked =>
        rw [decode_of_head?_ne unmarked]
        exact decodeFrom_flatten written
    | verbatim written => exact decodeFrom_flatten written
  · intro text unmarked unescaped
    refine ⟨?_, value_eq_self unmarked unescaped⟩
    rw [decode_of_head?_ne unmarked]
    exact decodeFrom_of_not_mem unescaped

/--
A verbatim name that begins with the mark itself.  The backslash that its first escape denotes
does not make an escape of the digits behind it; the second escape is a surrogate.
-/
theorem decode_eq_of_spells_backslash :
    decode "@@\\u005Cu0061\\U0000dc00".toList =
      .ok ("@\\u0061".toList.map ofChar ++ [(0xDC00 : CodePoint)]) := by
  apply decode_eq_of_spells.1
  have written : List.Forall₂ Writes ("@\\u0061".toList.map ofChar ++ [(0xDC00 : CodePoint)])
      ["@".toList, "\\u005C".toList, "u".toList, "0".toList, "0".toList, "6".toList, "1".toList,
        "\\U0000dc00".toList] := by
    refine .cons (.itself (by decide)) (.cons (.short (by decide) (by decide)) ?_)
    refine .cons (.itself (by decide)) (.cons (.itself (by decide)) ?_)
    refine .cons (.itself (by decide)) (.cons (.itself (by decide)) ?_)
    exact .cons (.itself (by decide)) (.cons (.long (by decide)) .nil)
  exact .verbatim written

end Escape

end CasingLint
