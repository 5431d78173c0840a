/-!
# Sets of code points as sorted spans

The character classes of this library are tables of spans.  A span of stride one
is an interval; a span of stride two holds every other code point of an interval,
which is how scripts lay out alternating upper-case and lower-case letters.
Membership is a plain scan, so a statement about a whole class reduces to a
statement about each entry of its table.
-/

namespace CasingLint.Text

/--
The code points from `first` to `last` inclusive that lie a multiple of `stride`
after `first`.
-/
structure Span where
  first : Nat
  last : Nat
  stride : Nat
  deriving DecidableEq

/-- Does the span hold the code point? -/
def Span.contains (span : Span) (code : Nat) : Bool :=
  decide (span.first ≤ code) && decide (code ≤ span.last) && (code - span.first) % span.stride == 0

/-- Is the character in one of the spans? -/
def inSpans (spans : List Span) (character : Char) : Bool :=
  spans.any (·.contains character.toNat)

@[simp]
theorem inSpans_nil (character : Char) :
    inSpans [] character = false := rfl

theorem inSpans_iff (spans : List Span) (character : Char) :
    inSpans spans character = true ↔ ∃ span ∈ spans, span.contains character.toNat = true := by
  simp [inSpans]

end CasingLint.Text
