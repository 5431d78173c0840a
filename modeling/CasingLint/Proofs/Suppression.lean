import CasingLint.Proofs.Position
import CasingLint.Suppression

/-!
# Suppression by line

A finding is shown on the line of its first octet, and a comment suppresses it from the same
line.  The line of the report is counted in the characters before the finding, the line of the
comment in the octets before it, and the lines themselves come from cutting the text at its
line feeds.  The three agree for every offset, be it negative, inside a character or behind
the end of the text.  Hence whether a finding is suppressed depends on nothing but its rule and
the line on which it is shown.
-/

namespace CasingLint.Suppression

open CasingLint.Text

/-- Lines are counted alike for comments and for reports. -/
theorem lineOf_eq_line (text : String) (offset : Int) :
    lineOf text offset = (Position.ofOffset text offset).line := by
  rw [lineOf, Position.count_lineFeed_take]
  rfl

/-- Does a comment on the line list a pattern that is the rule itself or matches it? -/
def Silences (line : List Char) (rule : String) : Prop :=
  ∃ comment ∈ insidesFrom 0 line, ∃ pattern ∈ listed comment,
    rule = String.ofList pattern ∨ Glob.isMatch (String.ofList pattern) rule = true

theorem isListed_linePatterns_iff {line : List Char} {rule : String} :
    isListed rule (linePatterns line) = true ↔ Silences line rule := by
  simp [isListed, linePatterns, Silences]

/-- The line of a text on which a report shows an offset. -/
def shownLine? (text : String) (offset : Int) : Option (List Char) :=
  (splitAt '\n' text.toList)[(Position.ofOffset text offset).line - 1]?

theorem exists_shownLine? (text : String) (offset : Int) :
    ∃ line, shownLine? text offset = some line := by
  have first := Position.line_pos text offset
  have last := Position.line_le_length text offset
  exact ⟨_, List.getElem?_eq_getElem (by omega)⟩

theorem isSuppressed_iff_of_shownLine? {text rule : String} {offset : Int} {line : List Char}
    (shown : shownLine? text offset = some line) :
    isSuppressed text rule offset = true ↔ Silences line rule := by
  rw [shownLine?] at shown
  rw [isSuppressed, patterns, lineOf_eq_line, List.getElem?_map, shown]
  exact isListed_linePatterns_iff

/--
Every offset is shown on a line that the text has.  A rule is suppressed there exactly if a
comment on that line lists it, and no other line makes a difference.
-/
theorem isSuppressed_iff_silences (text rule : String) (offset : Int) :
    1 ≤ (Position.ofOffset text offset).line ∧
      ∃ line, shownLine? text offset = some line ∧
        (isSuppressed text rule offset = true ↔ Silences line rule) ∧
        ∀ (other : String) (place : Int), shownLine? other place = some line →
          isSuppressed other rule place = isSuppressed text rule offset := by
  rcases exists_shownLine? text offset with ⟨line, shown⟩
  have suppressed : isSuppressed text rule offset = true ↔ Silences line rule :=
    isSuppressed_iff_of_shownLine? shown
  refine ⟨Position.line_pos text offset, line, shown, suppressed, ?_⟩
  intro other place otherShown
  rw [Bool.eq_iff_iff, suppressed]
  exact isSuppressed_iff_of_shownLine? otherShown

/-- A comment counts from inside its first character to its line feed, and not behind it. -/
example :
    let text := "é // namecheck: ignore[naming.*]\nclass foo { }\n"
    isSuppressed text "naming.conventions" (-2) = true ∧
      isSuppressed text "naming.conventions" 1 = true ∧
      isSuppressed text "naming.conventions" 33 = true ∧
      isSuppressed text "naming.conventions" 34 = false := by
  decide +kernel

end CasingLint.Suppression
