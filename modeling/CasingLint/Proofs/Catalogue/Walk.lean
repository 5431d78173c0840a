import CasingLint.Catalogue.Discovery
import CasingLint.Proofs.Text.Lines
import Mathlib.Data.String.Basic

/-!
# The modules that discovery visits

Below a package lie the modules whose dotted name goes on where that of the package ends, with a
package at every dot between.  Discovery visits the package and then all of these, in the order of
their names part by part.
-/

namespace CasingLint.RuleModule

/-- Does a module lie below a package, with nothing but packages on the way? -/
structure LiesBelow (modules : List RuleModule) (package inner : RuleModule) : Prop where
  within : nameParts package.name <+: nameParts inner.name
  deeper : (nameParts package.name).length < (nameParts inner.name).length
  packages : ∀ count, (nameParts package.name).length ≤ count →
    count < (nameParts inner.name).length →
      ∃ above, find? modules (".".intercalate ((nameParts inner.name).take count)) = some above ∧
        above.isPackage = true

theorem nameParts_ne_nil (name : String) : nameParts name ≠ [] := by
  intro empty
  exact Text.splitAt_ne_nil '.' name.toList (List.map_eq_nil_iff.mp empty)

/-- The names on the way to a module that are not before those of a package. -/
theorem mem_drop_chainNames_iff {name word : String} {outside : Nat} (positive : 0 < outside) :
    word ∈ (chainNames name).dropLast.drop (outside - 1) ↔
      ∃ count, outside ≤ count ∧ count < (nameParts name).length ∧
        ".".intercalate ((nameParts name).take count) = word := by
  simp only [chainNames, List.mem_iff_getElem, List.getElem_drop, List.getElem_dropLast,
    List.getElem_map, List.getElem_range, List.length_drop, List.length_dropLast, List.length_map,
    List.length_range]
  constructor
  · rintro ⟨place, bound, same⟩
    exact ⟨outside - 1 + place + 1, by omega, by omega, same⟩
  · rintro ⟨count, above, bound, same⟩
    refine ⟨count - outside, by omega, ?_⟩
    rw [← same]
    congr 2
    omega

theorem isReached_iff {modules : List RuleModule} {package inner : RuleModule} :
    isReached modules package inner = true ↔ LiesBelow modules package inner := by
  have parts : 0 < (nameParts package.name).length :=
    List.length_pos_iff.mpr (nameParts_ne_nil package.name)
  have chain : (((chainNames inner.name).dropLast.drop
        ((nameParts package.name).length - 1)).all fun name =>
          (find? modules name).any (·.isPackage)) = true ↔
      ∀ count, (nameParts package.name).length ≤ count →
        count < (nameParts inner.name).length →
          ∃ above,
            find? modules (".".intercalate ((nameParts inner.name).take count)) = some above ∧
              above.isPackage = true := by
    simp only [List.all_eq_true, mem_drop_chainNames_iff parts, Option.any_eq_true]
    constructor
    · intro each count above bound
      exact each _ ⟨count, above, bound, rfl⟩
    · rintro each _ ⟨count, above, bound, rfl⟩
      exact each count above bound
  simp only [isReached, Bool.and_eq_true, chain, List.isPrefixOf_iff_prefix, decide_eq_true_eq]
  constructor
  · rintro ⟨⟨within, deeper⟩, packages⟩
    exact ⟨within, deeper, packages⟩
  · rintro ⟨within, deeper, packages⟩
    exact ⟨⟨within, deeper⟩, packages⟩

/-! ## The order of names -/

theorem partsLe_cons_iff {left right : String} {lefts rights : List String} :
    partsLe (left :: lefts) (right :: rights) = true ↔
      left < right ∨ left = right ∧ partsLe lefts rights = true := by
  simp [partsLe]

theorem partsLe_trans {first second third : List String} (before : partsLe first second = true)
    (after : partsLe second third = true) :
    partsLe first third = true := by
  induction first generalizing second third with
  | nil => rfl
  | cons one ones ih =>
      cases second with
      | nil => cases before
      | cons two twos =>
          cases third with
          | nil => cases after
          | cons three threes =>
              rw [partsLe_cons_iff] at before after ⊢
              rcases before with less | ⟨rfl, before⟩
              · rcases after with lessStill | ⟨rfl, -⟩
                · exact Or.inl (String.lt_trans less lessStill)
                · exact Or.inl less
              · rcases after with less | ⟨rfl, after⟩
                · exact Or.inl less
                · exact Or.inr ⟨rfl, ih before after⟩

theorem partsLe_total (first second : List String) :
    (partsLe first second || partsLe second first) = true := by
  induction first generalizing second with
  | nil => rfl
  | cons one ones ih =>
      cases second with
      | nil => exact Bool.or_true _
      | cons two twos =>
          rw [Bool.or_eq_true, partsLe_cons_iff, partsLe_cons_iff]
          rcases lt_trichotomy one two with less | rfl | more
          · exact Or.inl (Or.inl less)
          · rcases Bool.or_eq_true_iff.mp (ih twos) with before | after
            · exact Or.inl (Or.inr ⟨rfl, before⟩)
            · exact Or.inr (Or.inr ⟨rfl, after⟩)
          · exact Or.inr (Or.inl more)

/--
A module that can be loaded is visited first, and after it the modules that lie below it, in the
order of their names.
-/
theorem visited_eq {modules : List RuleModule} {name : String} {found : RuleModule}
    (loads : load modules name = .ok found) :
    ∃ below : List RuleModule,
      Catalogue.Discovery.visited modules name = name :: below.map RuleModule.name ∧
      (∀ inner, inner ∈ below ↔ inner ∈ modules ∧ LiesBelow modules found inner) ∧
      below.Pairwise fun left right =>
        partsLe (nameParts left.name) (nameParts right.name) = true := by
  refine ⟨inside modules found, ?_, ?_, ?_⟩
  · rw [Catalogue.Discovery.visited, loads]
  · intro inner
    rw [inside, List.mem_mergeSort, List.mem_filter, isReached_iff]
  · apply List.pairwise_mergeSort
    · intro first second third
      exact partsLe_trans
    · intro first second
      exact partsLe_total _ _

end CasingLint.RuleModule
