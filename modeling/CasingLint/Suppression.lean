import CasingLint.Position
import CasingLint.Text.Blank
import CasingLint.Text.Glob
import CasingLint.Text.Lines

/-!
# Suppression comments

A comment such as `// namecheck: ignore[naming.*]` suppresses findings on its own
line.  It lists glob patterns for rules, separated by commas.  The two words may be
written in any case, blanks may stand between the parts, and a line may hold several
such comments.
-/

namespace CasingLint.Suppression

open CasingLint.Text

/-- Does a character stand for a lower-case letter when case is ignored? -/
def matchesLetter (letter character : Char) : Bool :=
  character.toLower == letter ||
    (letter == 'k' && character == '\u212a') ||
    (letter == 'i' && (character == '\u0130' || character == '\u0131'))

/-- The rest of a text after a word written in any case. -/
def afterWord? : List Char → List Char → Option (List Char)
  | [], text => some text
  | _ :: _, [] => none
  | letter :: word, character :: text =>
    if matchesLetter letter character then afterWord? word text else none

/-- The words before the bracket of a comment. -/
def words : List (List Char) :=
  ["//".toList, "namecheck:".toList, "ignore".toList, "[".toList]

/-- The rest of a text after the given words, with blanks allowed between them. -/
def afterWords? : List (List Char) → List Char → Option (List Char)
  | [], text => some text
  | [word], text => afterWord? word text
  | word :: more, text =>
    match afterWord? word text with
    | some rest => afterWords? more (trimFront rest)
    | none => none

/-- The inside of the brackets of a comment that starts the text, which is never empty. -/
def insideAt? (text : List Char) : Option (List Char) :=
  match afterWords? words text with
  | none => none
  | some rest =>
    let inside := rest.takeWhile (· ≠ ']')
    if inside.isEmpty ∨ inside.length = rest.length then none else some inside

/-- How much of a text is taken up by the comment that starts it, up to its closing bracket. -/
def sizeAt (text : List Char) : Nat :=
  match afterWords? words text with
  | none => 0
  | some rest => text.length - rest.length + (rest.takeWhile (· ≠ ']')).length + 1

/-- The insides of the comments of a line, read from left to right after `skipped` characters. -/
def insidesFrom (skipped : Nat) : List Char → List (List Char)
  | [] => []
  | character :: rest =>
    match skipped with
    | remaining + 1 => insidesFrom remaining rest
    | 0 =>
      match insideAt? (character :: rest) with
      | some inside => inside :: insidesFrom (sizeAt (character :: rest) - 1) rest
      | none => insidesFrom 0 rest

/-- The patterns listed inside the brackets of a comment. -/
def listed (inside : List Char) : List (List Char) :=
  ((splitAt ',' inside).map trim).filter (!·.isEmpty)

/-- The patterns that a line lists. -/
def linePatterns (line : List Char) : List String :=
  ((insidesFrom 0 line).flatMap listed).map String.ofList

/-- The patterns of every line of a text. -/
def patterns (text : String) : List (List String) :=
  (splitAt '\n' text.toList).map linePatterns

/-- The line, counted from one, on which an octet offset lies. -/
def lineOf (text : String) (offset : Int) : Nat :=
  ((Utf8.encode text.toList).take offset.toNat).count 10 + 1

/-- Is a rule suppressed by one of the patterns? -/
def isListed (rule : String) (listed : List String) : Bool :=
  listed.any fun pattern => rule == pattern || Glob.isMatch pattern rule

/-- Is a finding of a rule at an octet offset suppressed? -/
def isSuppressed (text rule : String) (offset : Int) : Bool :=
  isListed rule ((patterns text)[lineOf text offset - 1]?.getD [])

end CasingLint.Suppression
