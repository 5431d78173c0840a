import CasingLint.Name

/-!
# How the case tables fit together

The case of a character is changed by table look-up, and whether a character is
upper-case, lower-case or a letter is decided by other tables.  This module
proves the laws that tie the tables to each other, for every character:

* a character that a case mapping changes lands in that case, and a character
  that already has the case is left alone, so both mappings are idempotent;
* neither mapping leads out of the letters and numerals, nor out of the letters;
* an upper-case character that is lowered, raised and lowered again is where it
  was after the first step.

A table law is decided entry by entry: spans are compared as wholes, which takes
far fewer steps than a look at every code point.
-/

namespace CasingLint.Text

/-! ## Spans as sets of code points -/

namespace Span

theorem contains_iff {span : Span} {code : Nat} :
    span.contains code = true ↔
      span.first ≤ code ∧ code ≤ span.last ∧ (code - span.first) % span.stride = 0 := by
  simp [contains, and_assoc]

/-- Are the members of the span all even or all odd? -/
def isSparse (span : Span) : Bool :=
  span.stride.beq 2 || span.first.beq span.last

/--
A test for spans without a common member: one ends before the other begins, or the
members of one are even and those of the other odd.
-/
def apart (left right : Span) : Bool :=
  left.last.blt right.first || right.last.blt left.first ||
    (left.isSparse && right.isSparse && ((left.first + right.first) % 2).beq 1)

theorem parity_of_isSparse {span : Span} {code : Nat}
    (sparse : span.isSparse = true) (member : span.contains code = true) :
    code % 2 = span.first % 2 := by
  rcases contains_iff.mp member with ⟨lower, upper, step⟩
  simp only [isSparse, Nat.beq_eq, Bool.or_eq_true] at sparse
  rcases sparse with stride | single
  · rw [stride] at step
    omega
  · omega

theorem not_contains_of_apart {left right : Span} {code : Nat}
    (separate : left.apart right = true) (member : left.contains code = true) :
    right.contains code = false := by
  rw [Bool.eq_false_iff]
  intro other
  rcases contains_iff.mp member with ⟨leftLower, leftUpper, -⟩
  rcases contains_iff.mp other with ⟨rightLower, rightUpper, -⟩
  simp only [apart, Nat.blt_eq, Nat.beq_eq, Bool.or_eq_true, Bool.and_eq_true] at separate
  rcases separate with (before | after) | ⟨⟨leftSparse, rightSparse⟩, odd⟩
  · omega
  · omega
  · have leftParity := parity_of_isSparse leftSparse member
    have rightParity := parity_of_isSparse rightSparse other
    omega

/-- A test for a span that holds all members of another one. -/
def covers (outer inner : Span) : Bool :=
  outer.first.ble inner.first && inner.last.ble outer.last &&
    ((inner.first - outer.first) % outer.stride).beq 0 &&
    (inner.first.beq inner.last || (inner.stride % outer.stride).beq 0)

theorem contains_of_covers {outer inner : Span} {code : Nat}
    (covering : outer.covers inner = true) (member : inner.contains code = true) :
    outer.contains code = true := by
  rcases contains_iff.mp member with ⟨lower, upper, step⟩
  simp only [covers, Nat.ble_eq, Nat.beq_eq, Bool.or_eq_true, Bool.and_eq_true] at covering
  rcases covering with ⟨⟨⟨below, above⟩, offset⟩, strides⟩
  have split : code - outer.first = (inner.first - outer.first) + (code - inner.first) := by
    omega
  have innerStep : outer.stride ∣ code - inner.first := by
    rcases strides with single | multiple
    · have none : code - inner.first = 0 := by
        omega
      rw [none]
      exact Nat.dvd_zero _
    · exact Nat.dvd_trans (Nat.dvd_of_mod_eq_zero multiple) (Nat.dvd_of_mod_eq_zero step)
  refine contains_iff.mpr ⟨by omega, by omega, ?_⟩
  rw [split]
  exact Nat.mod_eq_zero_of_dvd
    (Nat.dvd_add (Nat.dvd_of_mod_eq_zero offset) innerStep)

/-- The members of a span one by one. -/
def codes (span : Span) : List Nat :=
  (List.range ((span.last - span.first) / span.stride + 1)).map
    (span.first + span.stride * ·)

theorem mem_codes {span : Span} {code : Nat}
    (member : span.contains code = true) :
    code ∈ span.codes := by
  rcases contains_iff.mp member with ⟨lower, upper, step⟩
  refine List.mem_map.mpr ⟨(code - span.first) / span.stride, ?_, ?_⟩
  · rw [List.mem_range]
    have quotients : (code - span.first) / span.stride ≤ (span.last - span.first) / span.stride :=
      Nat.div_le_div_right (by omega)
    omega
  · have whole := Nat.mul_div_cancel' (Nat.dvd_of_mod_eq_zero step)
    omega

/-- A test for a span that lies in a set of spans, be it in one of them or in several. -/
def within (span : Span) (spans : List Span) : Bool :=
  spans.any (·.covers span) || span.codes.all fun code => spans.any (·.contains code)

theorem any_contains_of_within {span : Span} {spans : List Span} {code : Nat}
    (inside : span.within spans = true) (member : span.contains code = true) :
    spans.any (·.contains code) = true := by
  rw [within, Bool.or_eq_true] at inside
  rcases inside with covered | listed
  · rcases List.any_eq_true.mp covered with ⟨outer, outerMember, covering⟩
    exact List.any_eq_true.mpr ⟨outer, outerMember, contains_of_covers covering member⟩
  · exact List.all_eq_true.mp listed code (mem_codes member)

end Span

/-! ## Shifts as functions on code points -/

namespace Shift

/-- The span onto which a shift maps its own. -/
def imageSpan (shift : Shift) : Span :=
  ⟨shift.target, shift.target + (shift.span.last - shift.span.first), shift.span.stride⟩

theorem imageSpan_contains {shift : Shift} {code : Nat}
    (member : shift.span.contains code = true) :
    shift.imageSpan.contains (shift.target + (code - shift.span.first)) = true := by
  rcases Span.contains_iff.mp member with ⟨lower, upper, step⟩
  refine Span.contains_iff.mpr ⟨?_, ?_, ?_⟩
  · exact Nat.le_add_right _ _
  · simp only [imageSpan]
    omega
  · simpa [imageSpan] using step

/-- Are all images of the shift characters? -/
def isValid (shift : Shift) : Bool :=
  shift.imageSpan.last.blt 0xD800 ||
    (Nat.blt 0xDFFF shift.target && shift.imageSpan.last.blt 0x110000)

theorem isValidChar_of_isValid {shift : Shift} {code : Nat}
    (valid : shift.isValid = true) (member : shift.span.contains code = true) :
    (shift.target + (code - shift.span.first)).isValidChar := by
  rcases Span.contains_iff.mp (imageSpan_contains member) with ⟨lower, upper, -⟩
  simp only [isValid, Nat.blt_eq, Bool.or_eq_true, Bool.and_eq_true] at valid
  simp only [imageSpan] at upper valid
  rcases valid with low | ⟨above, below⟩
  · exact Or.inl (by omega)
  · exact Or.inr ⟨by omega, by omega⟩

end Shift

/-- The image of a code point under the first shift that applies, or itself. -/
def shiftCode (shifts : List Shift) (code : Nat) : Nat :=
  (shifts.findSome? (·.image? code)).getD code

/-- A look-up either finds no shift and changes nothing, or applies one of the shifts. -/
theorem shiftCode_cases (shifts : List Shift) (code : Nat) :
    shiftCode shifts code = code ∧ (∀ shift ∈ shifts, shift.span.contains code = false) ∨
      ∃ shift ∈ shifts, shift.span.contains code = true ∧
        shiftCode shifts code = shift.target + (code - shift.span.first) := by
  cases found : shifts.findSome? (·.image? code) with
  | none =>
      refine Or.inl ⟨by simp [shiftCode, found], ?_⟩
      intro shift member
      have missed := List.findSome?_eq_none_iff.mp found shift member
      simpa [Shift.image?] using missed
  | some image =>
      rcases List.exists_of_findSome?_eq_some found with ⟨shift, member, applied⟩
      simp only [Shift.image?] at applied
      split at applied
      case isTrue holds =>
        refine Or.inr ⟨shift, member, holds, ?_⟩
        simp only [Option.some.injEq] at applied
        simp [shiftCode, found, applied]
      case isFalse => contradiction

/-- Looking a character up is looking its code point up, as long as all images are characters. -/
theorem toNat_shiftChar {shifts : List Shift}
    (valid : shifts.all Shift.isValid = true) (character : Char) :
    (shiftChar shifts character).toNat = shiftCode shifts character.toNat := by
  cases found : shifts.findSome? (·.image? character.toNat) with
  | none => simp [shiftChar, shiftCode, found]
  | some image =>
      have applied : shiftCode shifts character.toNat = image := by
        simp [shiftCode, found]
      rcases shiftCode_cases shifts character.toNat with
        ⟨-, untouched⟩ | ⟨shift, member, contained, shifted⟩
      · rcases List.exists_of_findSome?_eq_some found with ⟨shift, member, someImage⟩
        simp [Shift.image?, untouched shift member] at someImage
      · have validImage : image.isValidChar := by
          rw [← applied, shifted]
          exact Shift.isValidChar_of_isValid (List.all_eq_true.mp valid shift member) contained
        have shiftedChar : shiftChar shifts character = Char.ofNat image := by
          simp [shiftChar, found]
        rw [applied, shiftedChar, Char.ofNat, dif_pos validImage]
        rfl

/-! ## Laws of a shift table

Each law is stated for any table and any set of spans, under a test on the entries
that the evaluation of the actual tables decides.
-/

section Laws

variable {shifts : List Shift} {spans : List Span} {code : Nat}

theorem shiftCode_of_contains
    (clear : (shifts.all fun shift => spans.all shift.span.apart) = true)
    (member : spans.any (·.contains code) = true) :
    shiftCode shifts code = code := by
  rcases shiftCode_cases shifts code with ⟨unchanged, -⟩ | ⟨shift, shiftMember, contained, -⟩
  · exact unchanged
  · rcases List.any_eq_true.mp member with ⟨span, spanMember, holds⟩
    have separate := List.all_eq_true.mp
      (List.all_eq_true.mp clear shift shiftMember) span spanMember
    have missed := Span.not_contains_of_apart separate contained
    rw [missed] at holds
    contradiction

theorem contains_shiftCode_of_ne
    (landing : (shifts.all fun shift => shift.imageSpan.within spans) = true)
    (changed : shiftCode shifts code ≠ code) :
    spans.any (·.contains (shiftCode shifts code)) = true := by
  rcases shiftCode_cases shifts code with ⟨unchanged, -⟩ | ⟨shift, member, contained, shifted⟩
  · exact absurd unchanged changed
  · rw [shifted]
    exact Span.any_contains_of_within (List.all_eq_true.mp landing shift member)
      (Shift.imageSpan_contains contained)

/-- Each shift keeps its members in the set, unless it has none there. -/
theorem contains_shiftCode
    (kept : (shifts.all fun shift =>
      shift.imageSpan.within spans || spans.all shift.span.apart) = true)
    (member : spans.any (·.contains code) = true) :
    spans.any (·.contains (shiftCode shifts code)) = true := by
  rcases shiftCode_cases shifts code with ⟨unchanged, -⟩ | ⟨shift, shiftMember, contained, shifted⟩
  · rw [unchanged]
    exact member
  · have entry := List.all_eq_true.mp kept shift shiftMember
    rw [Bool.or_eq_true] at entry
    rcases entry with landing | clear
    · rw [shifted]
      exact Span.any_contains_of_within landing (Shift.imageSpan_contains contained)
    · rcases List.any_eq_true.mp member with ⟨span, spanMember, holds⟩
      have missed := Span.not_contains_of_apart
        (List.all_eq_true.mp clear span spanMember) contained
      rw [missed] at holds
      contradiction

theorem shiftCode_of_mem {shift : Shift}
    (separate : shifts.Pairwise fun left right => left.span.apart right.span = true)
    (member : shift ∈ shifts) (contained : shift.span.contains code = true) :
    shiftCode shifts code = shift.target + (code - shift.span.first) := by
  induction shifts with
  | nil => contradiction
  | cons head tail ih =>
      rcases List.pairwise_cons.mp separate with ⟨headApart, tailSeparate⟩
      rcases List.mem_cons.mp member with rfl | later
      · simp [shiftCode, Shift.image?, contained]
      · have missed : head.span.contains code = false := by
          rw [Bool.eq_false_iff]
          intro headContains
          have shiftMissed :=
            Span.not_contains_of_apart (headApart shift later) headContains
          rw [shiftMissed] at contained
          contradiction
        have skipped : shiftCode (head :: tail) code = shiftCode tail code := by
          simp [shiftCode, Shift.image?, missed]
        rw [skipped]
        exact ih tailSeparate later

/-- Does one shift undo the other? -/
def Shift.undoes (back shift : Shift) : Bool :=
  back.span.covers shift.imageSpan &&
    (back.target + (shift.target - back.span.first)).beq shift.span.first

/--
If every shift of one table is undone by a shift of another, or else starts where the
other table never leads, then the images of the other table survive the round trip.
-/
theorem shiftCode_round_trip {others : List Shift}
    (separate : others.Pairwise fun left right => left.span.apart right.span = true)
    (undone : (shifts.all fun shift =>
      others.any (·.undoes shift) || others.all (·.imageSpan.apart shift.span)) = true)
    (changed : shiftCode others code ≠ code)
    (settled : shiftCode others (shiftCode others code) = shiftCode others code) :
    shiftCode others (shiftCode shifts (shiftCode others code)) = shiftCode others code := by
  rcases shiftCode_cases others code with ⟨unchanged, -⟩ | ⟨other, otherMember, inOther, image⟩
  · exact absurd unchanged changed
  rcases shiftCode_cases shifts (shiftCode others code) with
    ⟨unchanged, -⟩ | ⟨shift, member, contained, shifted⟩
  · rw [unchanged]
    exact settled
  have entry := List.all_eq_true.mp undone shift member
  rw [Bool.or_eq_true] at entry
  rcases entry with returning | clear
  · rcases List.any_eq_true.mp returning with ⟨back, backMember, undoes⟩
    simp only [Shift.undoes, Bool.and_eq_true, Nat.beq_eq] at undoes
    rcases undoes with ⟨covering, offset⟩
    have inBack := Span.contains_of_covers covering (Shift.imageSpan_contains contained)
    rcases Span.contains_iff.mp contained with ⟨shiftLower, -, -⟩
    have backLower : back.span.first ≤ shift.target := by
      simp only [Span.covers, Shift.imageSpan, Bool.and_eq_true, Nat.ble_eq] at covering
      exact covering.1.1.1
    rw [shifted, shiftCode_of_mem separate backMember inBack]
    omega
  · have missed := Span.not_contains_of_apart
      (List.all_eq_true.mp clear other otherMember) (Shift.imageSpan_contains inOther)
    rw [← image, contained] at missed
    contradiction

end Laws

/-! ## The tables of the two cases -/

/-- The code points of letters and numerals. -/
def wordSpans : List Span :=
  letterSpans ++ numeralSpans

/--
The laws of the table of one case: all images are characters, no member of the case is
shifted, every shift leads into the case, and none leads out of the letters and numerals.
-/
class IsCaseTable (shifts : List Shift) (spans : List Span) : Prop where
  valid : shifts.all Shift.isValid = true
  clear : (shifts.all fun shift => spans.all shift.span.apart) = true
  landing : (shifts.all fun shift => shift.imageSpan.within spans) = true
  kept : (shifts.all fun shift =>
    shift.imageSpan.within wordSpans || wordSpans.all shift.span.apart) = true

instance (shifts : List Shift) (spans : List Span) : Decidable (IsCaseTable shifts spans) :=
  decidable_of_iff (_ ∧ _ ∧ _ ∧ _)
    ⟨fun ⟨valid, clear, landing, kept⟩ => ⟨valid, clear, landing, kept⟩,
      fun ⟨valid, clear, landing, kept⟩ => ⟨valid, clear, landing, kept⟩⟩

instance upperShifts_isCaseTable : IsCaseTable upperShifts upperSpans := by
  decide +kernel

instance lowerShifts_isCaseTable : IsCaseTable lowerShifts lowerSpans := by
  decide +kernel

theorem lowerShifts_pairwise_apart :
    lowerShifts.Pairwise fun left right => left.span.apart right.span = true := by
  decide +kernel

theorem upperShifts_undone :
    (upperShifts.all fun shift =>
      lowerShifts.any (·.undoes shift) ||
        lowerShifts.all (·.imageSpan.apart shift.span)) = true := by
  decide +kernel

theorem upperShifts_keepLetters :
    (upperShifts.all fun shift =>
      shift.imageSpan.within letterSpans || letterSpans.all shift.span.apart) = true := by
  decide +kernel

theorem lowerShifts_keepLetters :
    (lowerShifts.all fun shift =>
      shift.imageSpan.within letterSpans || letterSpans.all shift.span.apart) = true := by
  decide +kernel

/-! ## Laws of characters -/

theorem toNat_oneUpper (character : Char) :
    (oneUpper character).toNat = shiftCode upperShifts character.toNat :=
  toNat_shiftChar upperShifts_isCaseTable.valid character

theorem toNat_oneLower (character : Char) :
    (oneLower character).toNat = shiftCode lowerShifts character.toNat :=
  toNat_shiftChar lowerShifts_isCaseTable.valid character

theorem oneUpper_of_isUpper {character : Char}
    (upper : isUpper character = true) :
    oneUpper character = character := by
  apply Char.toNat_inj.mp
  rw [toNat_oneUpper]
  exact shiftCode_of_contains upperShifts_isCaseTable.clear upper

theorem oneLower_of_isLower {character : Char}
    (lower : isLower character = true) :
    oneLower character = character := by
  apply Char.toNat_inj.mp
  rw [toNat_oneLower]
  exact shiftCode_of_contains lowerShifts_isCaseTable.clear lower

theorem isUpper_oneUpper {character : Char}
    (changed : oneUpper character ≠ character) :
    isUpper (oneUpper character) = true := by
  have codeChanged : shiftCode upperShifts character.toNat ≠ character.toNat := by
    rw [← toNat_oneUpper]
    exact fun same => changed (Char.toNat_inj.mp same)
  change upperSpans.any (·.contains (oneUpper character).toNat) = true
  rw [toNat_oneUpper]
  exact contains_shiftCode_of_ne upperShifts_isCaseTable.landing codeChanged

theorem isLower_oneLower {character : Char}
    (changed : oneLower character ≠ character) :
    isLower (oneLower character) = true := by
  have codeChanged : shiftCode lowerShifts character.toNat ≠ character.toNat := by
    rw [← toNat_oneLower]
    exact fun same => changed (Char.toNat_inj.mp same)
  change lowerSpans.any (·.contains (oneLower character).toNat) = true
  rw [toNat_oneLower]
  exact contains_shiftCode_of_ne lowerShifts_isCaseTable.landing codeChanged

/-- Raising a character twice is raising it once. -/
@[simp]
theorem oneUpper_oneUpper (character : Char) :
    oneUpper (oneUpper character) = oneUpper character := by
  by_cases same : oneUpper character = character
  · rw [same, same]
  · exact oneUpper_of_isUpper (isUpper_oneUpper same)

/-- Lowering a character twice is lowering it once. -/
@[simp]
theorem oneLower_oneLower (character : Char) :
    oneLower (oneLower character) = oneLower character := by
  by_cases same : oneLower character = character
  · rw [same, same]
  · exact oneLower_of_isLower (isLower_oneLower same)

/--
An upper-case character that is lowered survives being raised and lowered again.
A lower-case character need not: a dotless `ı` comes back with a dot.
-/
theorem oneLower_oneUpper_oneLower {character : Char}
    (upper : isUpper character = true) :
    oneLower (oneUpper (oneLower character)) = oneLower character := by
  by_cases same : oneLower character = character
  · rw [same, oneUpper_of_isUpper upper, same]
  · have changed : shiftCode lowerShifts character.toNat ≠ character.toNat := by
      rw [← toNat_oneLower]
      exact fun equal => same (Char.toNat_inj.mp equal)
    have settled :
        shiftCode lowerShifts (shiftCode lowerShifts character.toNat) =
          shiftCode lowerShifts character.toNat := by
      rw [← toNat_oneLower, ← toNat_oneLower, oneLower_oneLower]
    apply Char.toNat_inj.mp
    rw [toNat_oneLower, toNat_oneUpper, toNat_oneLower]
    exact shiftCode_round_trip lowerShifts_pairwise_apart upperShifts_undone changed settled

theorem isLetter_oneUpper {character : Char}
    (letter : isLetter character = true) :
    isLetter (oneUpper character) = true := by
  change letterSpans.any (·.contains (oneUpper character).toNat) = true
  rw [toNat_oneUpper]
  exact contains_shiftCode upperShifts_keepLetters letter

theorem isLetter_oneLower {character : Char}
    (letter : isLetter character = true) :
    isLetter (oneLower character) = true := by
  change letterSpans.any (·.contains (oneLower character).toNat) = true
  rw [toNat_oneLower]
  exact contains_shiftCode lowerShifts_keepLetters letter

end CasingLint.Text

namespace CasingLint.Name

open CasingLint.Text

theorem isWord_eq_contains (character : Char) :
    isWord character = wordSpans.any (·.contains character.toNat) := by
  simp [isWord, isLetter, isNumeral, inSpans, wordSpans]

theorem isWord_oneUpper {character : Char}
    (word : isWord character = true) :
    isWord (oneUpper character) = true := by
  rw [isWord_eq_contains] at word ⊢
  rw [toNat_oneUpper]
  exact contains_shiftCode upperShifts_isCaseTable.kept word

theorem isWord_oneLower {character : Char}
    (word : isWord character = true) :
    isWord (oneLower character) = true := by
  rw [isWord_eq_contains] at word ⊢
  rw [toNat_oneLower]
  exact contains_shiftCode lowerShifts_isCaseTable.kept word

end CasingLint.Name
