import CasingLint.Catalogue
import CasingLint.Proofs.Path.Extension
import CasingLint.Proofs.Text.LowerText
import CasingLint.Store.Sources

/-!
# Source files and their front end

Whether a file is collected is decided by the end of its path, and whether the standard front end
takes it by its extension in lower case.  The two agree except for two kinds of files: those with
another casing of the extension have a front end but are not collected, and those whose name
is made of dots in front of `cs` are collected but have no front end.
-/

namespace CasingLint

open CasingLint.Text

/-- The ways to write the extension of source files. -/
def Store.sourceExtensions : List (List Char) :=
  [['.', 'c', 's'], ['.', 'c', 'S'], ['.', 'C', 's'], ['.', 'C', 'S']]

namespace Path

/-- Is the extension that of source files with an upper-case letter in it? -/
def HasRaisedExtension (path : String) : Prop :=
  extension path ∈ Store.sourceExtensions ∧ extension path ≠ Store.sourceSuffix

instance (path : String) : Decidable (HasRaisedExtension path) :=
  inferInstanceAs (Decidable (_ ∧ _))

/-- Is the file name the ending of source files with nothing but more dots before it? -/
def IsBareEnding (path : String) : Prop :=
  ∃ dots, fileName path = dots ++ Store.sourceSuffix ∧ ∀ character ∈ dots, character = '.'

end Path

/-- Is the standard front end the first that takes source files? -/
def Catalogue.HasStandard (catalogue : Catalogue) : Prop :=
  (catalogue.frontEnds.map Prod.snd).find? (·.extensions.contains ".cs") = some .standard

instance (catalogue : Catalogue) : Decidable catalogue.HasStandard :=
  inferInstanceAs (Decidable (_ = _))

/-! ## Extensions in lower case -/

theorem isOnlyFrom_source :
    isOnlyFrom lowerShifts '.'.toNat '.'.toNat = true ∧
      isOnlyFrom lowerShifts 'C'.toNat 'c'.toNat = true ∧
      isOnlyFrom lowerShifts 'S'.toNat 's'.toNat = true := by
  decide +kernel

theorem lowerText_eq_sourceSuffix_iff {text : List Char} :
    lowerText text = Store.sourceSuffix ↔ text ∈ Store.sourceExtensions := by
  constructor
  · intro lowered
    rcases exists_of_lowerAfter_eq_cons (by decide) lowered with
      ⟨dot, afterDot, rfl, isDot, loweredTail⟩
    rcases exists_of_lowerAfter_eq_cons (by decide) loweredTail with
      ⟨c, afterC, rfl, isC, loweredEnd⟩
    rcases exists_of_lowerAfter_eq_cons (by decide) loweredEnd with
      ⟨s, afterS, rfl, isS, ending⟩
    cases eq_nil_of_lowerAfter ending
    rcases isOnlyFrom_source with ⟨onlyDot, onlyC, onlyS⟩
    rcases or_self_iff.mp (eq_or_eq_of_oneLower onlyDot isDot) with rfl
    rcases eq_or_eq_of_oneLower onlyC isC with rfl | rfl
    · rcases eq_or_eq_of_oneLower onlyS isS with rfl | rfl
      · decide
      · decide
    · rcases eq_or_eq_of_oneLower onlyS isS with rfl | rfl
      · decide
      · decide
  · have each : ∀ text ∈ Store.sourceExtensions, lowerText text = Store.sourceSuffix := by
      decide +kernel
    exact each text

/-! ## The two decisions -/

theorem Store.sources_eq_iff {store : Store} {path : String} (isFile : store.isFile path = true) :
    (store.sources [path]).1 = [path] ↔ isSource path = true := by
  rw [Store.isFile, Option.any_eq_true] at isFile
  rcases isFile with ⟨entry, found, isFile⟩
  cases entry with
  | directory entries => cases isFile
  | file content =>
      simp only [sources, List.flatMap_singleton, sourcesAt, found]
      cases isSource path with
      | true => simp
      | false => simp

theorem Catalogue.frontEndFor?_eq_standard_iff {catalogue : Catalogue} {path : String}
    (registered : catalogue.HasStandard) :
    catalogue.frontEndFor? path = some .standard ↔
      Path.extension path ∈ Store.sourceExtensions := by
  rw [← lowerText_eq_sourceSuffix_iff, frontEndFor?]
  constructor
  · intro found
    have taken := List.find?_some found
    have same : String.ofList (lowerText (Path.extension path)) = ".cs" := by
      simpa [FrontEnd.standard] using taken
    exact String.ofList_injective same
  · intro lowered
    rw [lowered]
    exact registered

theorem Store.isSource_iff {path : String} :
    isSource path = true ↔ Path.extension path = sourceSuffix ∨ Path.IsBareEnding path := by
  rw [isSource, List.isSuffixOf_iff_suffix, ← Path.suffix_fileName_iff (by decide), sourceSuffix,
    Path.extension_eq_iff (by decide)]
  constructor
  · rintro ⟨front, split⟩
    -- Whether the ending is an extension is decided by what stands before it.
    by_cases dots : ∀ character ∈ front, character = '.'
    · exact Or.inr ⟨front, split.symm, dots⟩
    · exact Or.inl ⟨front, split.symm, by simpa using dots⟩
  · rintro (⟨front, split, -⟩ | ⟨front, split, -⟩)
    · exact ⟨front, split.symm⟩
    · exact ⟨front, split.symm⟩

/-- Dots at the front of a file name do not start an extension. -/
theorem Path.IsBareEnding.extension_notMem {path : String} (bare : IsBareEnding path) :
    extension path ∉ Store.sourceExtensions := by
  intro member
  rcases bare with ⟨dots, split, onlyDots⟩
  have shapes : ∀ ending ∈ Store.sourceExtensions, ending = '.' :: ending.tail ∧
      '.' ∉ ending.tail ∧ ('.' :: ending.tail).length = Store.sourceSuffix.length := by
    decide
  -- All casings have the same length, so the two ways to split the file name are one.
  rcases shapes _ member with ⟨isEnding, plain, length⟩
  rcases (extension_eq_iff plain).mp isEnding with ⟨front, otherSplit, character, among, notDot⟩
  rcases List.append_inj_left' (otherSplit.symm.trans split) length with rfl
  exact notDot (onlyDots character among)

/--
The files that are collected are those that the standard front end takes, but for two kinds of
names.
-/
theorem Catalogue.sources_agree_iff {store : Store} {catalogue : Catalogue} {path : String}
    (isFile : store.isFile path = true) (registered : catalogue.HasStandard) :
    ((store.sources [path]).1 = [path] ↔ catalogue.frontEndFor? path = some .standard) ↔
      ¬ Path.HasRaisedExtension path ∧ ¬ Path.IsBareEnding path := by
  have lowerCase : Path.extension path = Store.sourceSuffix →
      Path.extension path ∈ Store.sourceExtensions := by
    intro same
    rw [same]
    decide
  rw [Store.sources_eq_iff isFile, Catalogue.frontEndFor?_eq_standard_iff registered,
    Store.isSource_iff, Path.HasRaisedExtension]
  constructor
  · intro agree
    constructor
    · rintro ⟨taken, raised⟩
      rcases agree.mpr taken with same | bare
      · exact raised same
      · exact bare.extension_notMem taken
    · exact fun bare => bare.extension_notMem (agree.mp (Or.inr bare))
  · rintro ⟨notRaised, notBare⟩
    constructor
    · rintro (same | bare)
      · exact lowerCase same
      · exact absurd bare notBare
    · exact fun taken => Or.inl (not_not.mp fun raised => notRaised ⟨taken, raised⟩)

namespace Catalogue

namespace Sample

def store : Store where
  root := [("Program.cs", .file (.ok [])), ("A.CS", .file (.ok [])), (".cs", .file (.ok []))]

def catalogue : Catalogue :=
  registerFrontEnd {} Rule.Naming.language .standard

theorem hasStandard : catalogue.HasStandard := by
  decide +kernel

end Sample

theorem sources_agree_iff_each :
    ((Sample.store.sources ["/Program.cs"]).1 = ["/Program.cs"] ↔
        Sample.catalogue.frontEndFor? "/Program.cs" = some .standard) ∧
      ¬ ((Sample.store.sources ["/.cs"]).1 = ["/.cs"] ↔
        Sample.catalogue.frontEndFor? "/.cs" = some .standard) := by
  constructor
  · refine (sources_agree_iff (by decide +kernel) Sample.hasStandard).mpr ⟨?_, ?_⟩
    · decide +kernel
    · intro bare
      refine bare.extension_notMem ?_
      decide +kernel
  · intro agree
    have named := ((sources_agree_iff (by decide +kernel) Sample.hasStandard).mp agree).2
    refine named ⟨[], ?_, by simp⟩
    decide +kernel

/-- A file with a raised extension has a front end, but is passed over without a log row. -/
theorem sources_raised :
    Sample.store.isFile "/A.CS" = true ∧ Sample.catalogue.HasStandard ∧
      Sample.store.sources ["/A.CS"] = ([], []) ∧
      Sample.catalogue.frontEndFor? "/A.CS" = some .standard ∧
      ¬ ((Sample.store.sources ["/A.CS"]).1 = ["/A.CS"] ↔
        Sample.catalogue.frontEndFor? "/A.CS" = some .standard) := by
  decide +kernel

end Catalogue

end CasingLint
