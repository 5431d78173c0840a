import CasingLint.Proofs.Text.Lines
import CasingLint.Suppression
import Mathlib.Data.List.Forall2
import Mathlib.Tactic.IntervalCases

/-!
# Comments are read back

A comment is described by what may vary in it: the case of its two words, the blanks between
its parts and the patterns with the blanks around them.  The main statement is that a line with
one comment lists exactly the patterns of this comment, whatever these choices and whatever
stands around it, as long as nothing there begins another comment.

Reading looks for a comment at every place of the line.  It fails at every place before the
comment: two slashes are found there only if the text before the comment ends with a slash,
and then the third slash stands where the first word should be.
-/

namespace CasingLint.Text

/-! ## Trimming -/

/-- Only the capital letters of ASCII are changed. -/
theorem toLower_cases (character : Char) :
    character.toLower = character ∨
      65 ≤ character.toNat ∧ character.toNat ≤ 90 ∧
        character.toLower.toNat = character.toNat + 32 := by
  by_cases upper : 65 ≤ character.toNat ∧ character.toNat ≤ 90
  · right
    refine ⟨upper.1, upper.2, ?_⟩
    rw [← Char.ofNat_toNat character]
    generalize character.toNat = code at upper
    rcases upper with ⟨low, high⟩
    interval_cases code <;> rfl
  · exact Or.inl (dif_neg upper)

theorem toLower_of_isBlank {character : Char} (blank : isBlank character = true) :
    character.toLower = character := by
  rcases toLower_cases character with same | ⟨low, high, -⟩
  · exact same
  · -- No table entry reaches into the capital letters.
    rcases (inSpans_iff blankSpans character).mp blank with ⟨span, member, inside⟩
    have apart : ∀ span ∈ blankSpans, span.last < 65 ∨ 90 < span.first := by
      decide
    have outside := apart span member
    simp only [Span.contains, Bool.and_eq_true, decide_eq_true_eq] at inside
    omega

theorem trimFront_append {blanks : List Char} (rest : List Char)
    (blank : ∀ character ∈ blanks, isBlank character = true) :
    trimFront (blanks ++ rest) = trimFront rest :=
  List.dropWhile_append_of_pos blank

theorem trimBack_append {blanks : List Char} (rest : List Char)
    (blank : ∀ character ∈ blanks, isBlank character = true) :
    trimBack (rest ++ blanks) = trimBack rest := by
  rw [trimBack, List.reverse_append, List.dropWhile_append_of_pos]
  · rfl
  · simpa using blank

theorem length_trimBack_le (text : List Char) :
    (trimBack text).length ≤ text.length := by
  have shorter := (List.dropWhile_suffix isBlank (l := text.reverse)).length_le
  rwa [List.length_reverse, ← List.length_reverse] at shorter

theorem trimFront_of_trim {text : List Char} (trimmed : trim text = text) :
    trimFront text = text := by
  have size : text.length ≤ (trimFront text).length := by
    have shorter := length_trimBack_le (trimFront text)
    rwa [← trim, trimmed] at shorter
  exact (List.dropWhile_suffix isBlank).eq_of_length_le size

theorem trimFront_of_head {character : Char} (rest : List Char)
    (notBlank : isBlank character = false) :
    trimFront (character :: rest) = character :: rest := by
  simp [trimFront, notBlank]

/-- Blanks around a trimmed text are trimmed away. -/
theorem trim_surrounded {lead text trail : List Char} (some : text ≠ [])
    (trimmed : trim text = text)
    (leadBlank : ∀ character ∈ lead, isBlank character = true)
    (trailBlank : ∀ character ∈ trail, isBlank character = true) :
    trim (lead ++ text ++ trail) = text := by
  have noFront := trimFront_of_trim trimmed
  have noBack : trimBack text = text := by
    rwa [trim, noFront] at trimmed
  have goesOn : trimFront (text ++ trail) = text ++ trail := by
    cases text with
    | nil => contradiction
    | cons character rest =>
        have notBlank : isBlank character = false := by
          by_contra blank
          rw [Bool.not_eq_false] at blank
          have shorter := (List.dropWhile_suffix isBlank (l := rest)).length_le
          rw [trimFront, List.dropWhile_cons_of_pos blank] at noFront
          rw [noFront, List.length_cons] at shorter
          omega
        exact trimFront_of_head _ notBlank
  rw [List.append_assoc, trim, trimFront_append _ leadBlank, goesOn,
    trimBack_append _ trailBlank, noBack]

end CasingLint.Text

namespace CasingLint.Suppression

open CasingLint.Text

/-! ## Comments by their parts -/

/-- A pattern as a comment lists it: with blanks around it, and without what ends it. -/
structure Entry where
  lead : List Char
  pattern : List Char
  trail : List Char
  lead_blank : ∀ character ∈ lead, isBlank character = true
  trail_blank : ∀ character ∈ trail, isBlank character = true
  pattern_ne_nil : pattern ≠ []
  trim_pattern : trim pattern = pattern
  not_mem_comma : ',' ∉ pattern
  not_mem_bracket : ']' ∉ pattern

/-- An entry as it is written. -/
def Entry.text (entry : Entry) : List Char :=
  entry.lead ++ entry.pattern ++ entry.trail

/--
Is a character a letter in some case?  Besides the capital letters of ASCII these are the sign
of kelvin for a k, and the dotted capital and the dotless small one for an i.
-/
def IsCaseOf (letter character : Char) : Prop :=
  character.toLower = letter ∨ letter = 'k' ∧ character = '\u212a' ∨
    letter = 'i' ∧ (character = '\u0130' ∨ character = '\u0131')

instance (letter character : Char) : Decidable (IsCaseOf letter character) :=
  inferInstanceAs (Decidable (_ ∨ _))

/-- Is a text a word, each letter of it in some case? -/
def IsCasing (word spelled : List Char) : Prop :=
  List.Forall₂ IsCaseOf word spelled

instance (word spelled : List Char) : Decidable (IsCasing word spelled) :=
  inferInstanceAs (Decidable (List.Forall₂ _ _ _))

/--
A comment: its two words in whatever case, the blanks in front of the words and in front of the
bracket, and at least one entry.
-/
structure Comment where
  beforeName : List Char
  name : List Char
  beforeVerb : List Char
  verb : List Char
  beforeList : List Char
  entries : List Entry
  beforeName_blank : ∀ character ∈ beforeName, isBlank character = true
  name_casing : IsCasing "namecheck".toList name
  beforeVerb_blank : ∀ character ∈ beforeVerb, isBlank character = true
  verb_casing : IsCasing "ignore".toList verb
  beforeList_blank : ∀ character ∈ beforeList, isBlank character = true
  entries_ne_nil : entries ≠ []

namespace Comment

variable (comment : Comment)

/-- What stands between the brackets. -/
def inside : List Char :=
  [','].intercalate (comment.entries.map Entry.text)

/-- What stands before the inside. -/
def opening : List Char :=
  "//".toList ++ (comment.beforeName ++ (comment.name ++ ":".toList ++
    (comment.beforeVerb ++ (comment.verb ++ (comment.beforeList ++ "[".toList)))))

/-- A comment as it is written. -/
def text : List Char :=
  comment.opening ++ comment.inside ++ "]".toList

/-- The patterns that a comment lists. -/
def patterns : List String :=
  comment.entries.map fun entry => String.ofList entry.pattern

end Comment

/-! ## The words of a comment -/

theorem matchesLetter_of_isCaseOf {letter character : Char}
    (isCase : IsCaseOf letter character) :
    matchesLetter letter character = true := by
  rcases isCase with lower | ⟨rfl, rfl⟩ | ⟨rfl, rfl | rfl⟩
  · simp [matchesLetter, lower]
  · rfl
  · rfl
  · rfl

theorem afterWord?_append {word spelled : List Char} (rest : List Char)
    (casing : IsCasing word spelled) :
    afterWord? word (spelled ++ rest) = some rest := by
  induction casing with
  | nil => rfl
  | cons isCase _ ih =>
      rw [List.cons_append, afterWord?, if_pos (matchesLetter_of_isCaseOf isCase), ih]

theorem isBlank_eq_false_of_isCaseOf {letter character : Char} (isCase : IsCaseOf letter character)
    (notBlank : isBlank letter = false) :
    isBlank character = false := by
  rcases isCase with lower | ⟨rfl, rfl⟩ | ⟨rfl, rfl | rfl⟩
  · by_contra blank
    rw [Bool.not_eq_false] at blank
    rw [← lower, toLower_of_isBlank blank, blank] at notBlank
    contradiction
  · rfl
  · rfl
  · rfl

/-- A word that begins with a letter begins with one in every case. -/
theorem trimFront_spelled {word spelled : List Char} (rest : List Char)
    (casing : IsCasing word spelled) (letter : word.head?.all isBlank = false) :
    trimFront (spelled ++ rest) = spelled ++ rest := by
  cases casing with
  | nil => contradiction
  | cons isCase _ =>
      exact trimFront_of_head _ (isBlank_eq_false_of_isCaseOf isCase (by simpa using letter))

theorem afterWords?_cons {word spelled blanks : List Char} (next : List Char)
    (more : List (List Char)) (rest : List Char) (casing : IsCasing word spelled)
    (blank : ∀ character ∈ blanks, isBlank character = true) :
    afterWords? (word :: next :: more) (spelled ++ (blanks ++ rest)) =
      afterWords? (next :: more) (trimFront rest) := by
  simp only [afterWords?, afterWord?_append _ casing, trimFront_append _ blank]

theorem afterWords?_comment (comment : Comment) (rest : List Char) :
    afterWords? words (comment.opening ++ rest) = some rest := by
  have nameCasing : IsCasing "namecheck:".toList (comment.name ++ ":".toList) :=
    List.rel_append comment.name_casing (show IsCasing ":".toList ":".toList by decide)
  have bracket : IsCasing "[".toList "[".toList := by
    decide
  have parts : comment.opening ++ rest =
      "//".toList ++ (comment.beforeName ++ (comment.name ++ ":".toList ++
        (comment.beforeVerb ++ (comment.verb ++ (comment.beforeList ++ ("[".toList ++ rest)))))) := by
    simp only [Comment.opening, List.append_assoc]
  rw [parts, words, afterWords?_cons _ _ _ (by decide) comment.beforeName_blank,
    trimFront_spelled _ nameCasing (by decide),
    afterWords?_cons _ _ _ nameCasing comment.beforeVerb_blank,
    trimFront_spelled _ comment.verb_casing (by decide),
    afterWords?_cons _ _ _ comment.verb_casing comment.beforeList_blank,
    trimFront_spelled _ bracket (by decide), afterWords?, afterWord?_append _ bracket]

/-! ## Where no comment begins -/

theorem eq_slash_of_matchesLetter {character : Char}
    (matched : matchesLetter '/' character = true) :
    character = '/' := by
  have lower : character.toLower = '/' := by
    simpa [matchesLetter] using matched
  rcases toLower_cases character with same | ⟨low, -, code⟩
  · rw [← same, lower]
  · rw [lower] at code
    simp at code
    omega

/-- A comment begins with two slashes. -/
theorem insideAt?_of_not_isPrefix {text : List Char} (other : ¬ ['/', '/'] <+: text) :
    insideAt? text = none := by
  have noSlashes : afterWord? ['/', '/'] text = none := by
    match text with
    | [] => rfl
    | [character] => simp [afterWord?]
    | first :: second :: rest =>
        simp only [afterWord?, ite_eq_right_iff]
        intro firstMatches secondMatches
        obtain rfl := eq_slash_of_matchesLetter firstMatches
        obtain rfl := eq_slash_of_matchesLetter secondMatches
        exact absurd ⟨rest, rfl⟩ other
  have noWords : afterWords? words text = none := by
    rw [words, afterWords?, show "//".toList = ['/', '/'] from rfl, noSlashes]
    exact fun same => absurd same (by decide)
  rw [insideAt?, noWords]

/-- Where the first word should be there is a third slash. -/
theorem insideAt?_slashes (rest : List Char) :
    insideAt? ('/' :: '/' :: '/' :: rest) = none := by
  rfl

theorem insidesFrom_cons {character : Char} {rest : List Char}
    (nothing : insideAt? (character :: rest) = none) :
    insidesFrom 0 (character :: rest) = insidesFrom 0 rest := by
  rw [insidesFrom, nothing]

theorem insidesFrom_of_not_isInfix {line : List Char} (free : ¬ ['/', '/'] <:+: line) :
    insidesFrom 0 line = [] := by
  induction line with
  | nil => rfl
  | cons character rest ih =>
      rw [insidesFrom_cons (insideAt?_of_not_isPrefix fun begins => free begins.isInfix)]
      exact ih fun inside => free (List.infix_cons inside)

theorem insidesFrom_append {front : List Char} (free : ¬ ['/', '/'] <:+: front)
    (rest : List Char) :
    insidesFrom 0 (front ++ (['/', '/'] ++ rest)) = insidesFrom 0 (['/', '/'] ++ rest) := by
  induction front with
  | nil => rfl
  | cons character others ih =>
      have nothing : insideAt? (character :: (others ++ (['/', '/'] ++ rest))) = none := by
        by_cases begins : ['/', '/'] <+: character :: (others ++ (['/', '/'] ++ rest))
        · -- Both slashes in front are excluded, so the second is the first of the comment.
          rcases begins with ⟨tail, same⟩
          cases others with
          | nil =>
              obtain rfl : '/' = character := (List.cons.inj same).1
              exact insideAt?_slashes rest
          | cons second others =>
              simp only [List.cons_append, List.cons.injEq] at same
              rcases same with ⟨rfl, rfl, -⟩
              exact absurd ⟨[], others, rfl⟩ free
        · exact insideAt?_of_not_isPrefix begins
      rw [List.cons_append, insidesFrom_cons nothing]
      exact ih fun inside => free (List.infix_cons inside)

theorem insidesFrom_length_append (front rest : List Char) :
    insidesFrom front.length (front ++ rest) = insidesFrom 0 rest := by
  induction front with
  | nil => rfl
  | cons character others ih => exact ih

/-! ## Reading a comment -/

theorem not_mem_intercalate {character : Char} {separator : List Char} {pieces : List (List Char)}
    (notSeparator : character ∉ separator) (free : ∀ piece ∈ pieces, character ∉ piece) :
    character ∉ separator.intercalate pieces := by
  induction pieces with
  | nil => simp [List.intercalate]
  | cons first rest ih =>
      rcases List.forall_mem_cons.mp free with ⟨freeFirst, freeRest⟩
      cases rest with
      | nil => rwa [List.intercalate_singleton]
      | cons second others =>
          simp only [List.intercalate_cons_cons, List.mem_append, not_or]
          exact ⟨⟨freeFirst, notSeparator⟩, ih freeRest⟩

/-- What is neither blank nor in the pattern is not in the entry. -/
theorem Entry.not_mem_text {entry : Entry} {character : Char}
    (notBlank : isBlank character = false) (notInside : character ∉ entry.pattern) :
    character ∉ entry.text := by
  have outside {blanks : List Char} (blank : ∀ other ∈ blanks, isBlank other = true) :
      character ∉ blanks := by
    intro member
    rw [blank character member] at notBlank
    contradiction
  simp only [Entry.text, List.mem_append, not_or]
  exact ⟨⟨outside entry.lead_blank, notInside⟩, outside entry.trail_blank⟩

namespace Comment

variable (comment : Comment)

theorem inside_ne_nil : comment.inside ≠ [] := by
  rcases List.exists_cons_of_ne_nil comment.entries_ne_nil with ⟨entry, others, entries⟩
  have some : entry.text ≠ [] := by
    simp [Entry.text, entry.pattern_ne_nil]
  rw [inside, entries, List.map_cons]
  cases others with
  | nil => simpa using some
  | cons second others => simp [List.intercalate_cons_cons, some]

theorem not_mem_inside : ']' ∉ comment.inside := by
  apply not_mem_intercalate (by decide)
  intro piece member
  rcases List.mem_map.mp member with ⟨entry, -, rfl⟩
  exact entry.not_mem_text (by decide) entry.not_mem_bracket

theorem takeWhile_inside (back : List Char) :
    (comment.inside ++ ']' :: back).takeWhile (· ≠ ']') = comment.inside := by
  have before : ∀ character ∈ comment.inside, decide (character ≠ ']') = true := by
    intro character member
    rw [decide_eq_true_eq]
    rintro rfl
    exact comment.not_mem_inside member
  rw [List.takeWhile_append_of_pos before]
  simp

theorem insidesFrom_text (back : List Char) :
    insidesFrom 0 (comment.text ++ back) = comment.inside :: insidesFrom 0 back := by
  have parts : comment.text ++ back = comment.opening ++ (comment.inside ++ ']' :: back) := by
    simp [text]
  have found : insideAt? (comment.text ++ back) = some comment.inside := by
    rw [parts, insideAt?, afterWords?_comment]
    simp only [takeWhile_inside]
    simp [comment.inside_ne_nil]
  have size : sizeAt (comment.text ++ back) = comment.text.length := by
    rw [parts, sizeAt, afterWords?_comment]
    simp only [takeWhile_inside, text, List.length_append, List.length_cons]
    simp
  obtain ⟨rest, begins⟩ : ∃ rest, comment.text = '/' :: rest := ⟨_, rfl⟩
  rw [begins, List.cons_append] at found size ⊢
  rw [insidesFrom, found]
  simp only [size, List.length_cons, Nat.add_sub_cancel, insidesFrom_length_append]

theorem map_listed_inside :
    (listed comment.inside).map String.ofList = comment.patterns := by
  have pieces : splitAt ',' comment.inside = comment.entries.map Entry.text := by
    apply splitAt_intercalate
    · intro piece member
      rcases List.mem_map.mp member with ⟨entry, -, rfl⟩
      exact entry.not_mem_text (by decide) entry.not_mem_comma
    · simpa using comment.entries_ne_nil
  have trimmed : (comment.entries.map Entry.text).map trim = comment.entries.map Entry.pattern := by
    rw [List.map_map]
    apply List.map_congr_left
    intro entry _
    exact trim_surrounded entry.pattern_ne_nil entry.trim_pattern entry.lead_blank
      entry.trail_blank
  have kept : (comment.entries.map Entry.pattern).filter (!·.isEmpty) =
      comment.entries.map Entry.pattern := by
    rw [List.filter_eq_self]
    intro pattern member
    rcases List.mem_map.mp member with ⟨entry, -, rfl⟩
    simp [entry.pattern_ne_nil]
  rw [listed, pieces, trimmed, kept, List.map_map]
  rfl

end Comment

/--
A line that holds one comment lists the patterns of this comment, and a line without two
slashes in a row lists none.  What a text lists on a line is what the line lists.
-/
theorem linePatterns_comment :
    (∀ (comment : Comment) (front back : List Char), ¬ ['/', '/'] <:+: front →
      ¬ ['/', '/'] <:+: back →
        linePatterns (front ++ comment.text ++ back) = comment.patterns) ∧
      (∀ line : List Char, ¬ ['/', '/'] <:+: line → linePatterns line = []) ∧
      ∀ (text : String) (number : Nat) (line : List Char),
        (splitAt '\n' text.toList)[number]? = some line →
          (patterns text)[number]? = some (linePatterns line) := by
  refine ⟨?_, ?_, ?_⟩
  · intro comment front back frontFree backFree
    have begins : comment.text ++ back = ['/', '/'] ++ (comment.text.drop 2 ++ back) := rfl
    rw [linePatterns, List.append_assoc, begins, insidesFrom_append frontFree, ← begins,
      comment.insidesFrom_text, insidesFrom_of_not_isInfix backFree, List.flatMap_cons,
      List.flatMap_nil, List.append_nil, comment.map_listed_inside]
  · intro line free
    rw [linePatterns, insidesFrom_of_not_isInfix free]
    rfl
  · intro text number line found
    rw [patterns, List.getElem?_map, found]
    rfl

/-- Two entries in a comment with capital letters and various blanks. -/
def sampleComment : Comment where
  beforeName := ['\u3000']
  name := "NameChec\u212a".toList
  beforeVerb := ['\t']
  verb := "IGNORE".toList
  beforeList := []
  entries := [
    { lead := [' '], pattern := "a[b c".toList, trail := ['\x0b'],
      lead_blank := List.all_eq_true.mp rfl, trail_blank := List.all_eq_true.mp rfl,
      pattern_ne_nil := by decide, trim_pattern := by decide,
      not_mem_comma := by decide, not_mem_bracket := by decide },
    { lead := [], pattern := "naming.*".toList, trail := [' '],
      lead_blank := List.all_eq_true.mp rfl, trail_blank := List.all_eq_true.mp rfl,
      pattern_ne_nil := by decide, trim_pattern := by decide,
      not_mem_comma := by decide, not_mem_bracket := by decide }]
  beforeName_blank := List.all_eq_true.mp rfl
  name_casing := by decide
  beforeVerb_blank := List.all_eq_true.mp rfl
  verb_casing := by decide
  beforeList_blank := List.all_eq_true.mp rfl
  entries_ne_nil := by decide

/-- There is a third slash in front of this comment and a bracket behind it. -/
theorem linePatterns_comment_sample :
    linePatterns "int a; ///\u3000NameChec\u212a:\tIGNORE[ a[b c\x0b,naming.* ] [x".toList =
      ["a[b c", "naming.*"] :=
  linePatterns_comment.1 sampleComment "int a; /".toList " [x".toList (by decide +kernel)
    (by decide +kernel)

end CasingLint.Suppression
