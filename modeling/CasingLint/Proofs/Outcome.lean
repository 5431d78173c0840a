import Mathlib.Data.List.Forall2

/-!
# Outcomes of operations in sequence

An operation that can fail ends with a value or with a fault.  These are the rules for
what a sequence of such operations says about each of them.
-/

namespace CasingLint.Outcome

variable {fault input output : Type}

theorem bind_eq_ok_iff {first : Except fault input} {next : input → Except fault output}
    {result : output} :
    first >>= next = .ok result ↔ ∃ value, first = .ok value ∧ next value = .ok result := by
  cases first with
  | error wrong =>
      constructor
      · intro impossible
        cases impossible
      · rintro ⟨value, impossible, -⟩
        cases impossible
  | ok value =>
      constructor
      · intro ends
        exact ⟨value, rfl, ends⟩
      · rintro ⟨other, same, ends⟩
        cases same
        exact ends

theorem isOk_iff {outcome : Except fault output} :
    outcome.isOk = true ↔ ∃ result, outcome = .ok result := by
  cases outcome with
  | error wrong => simp [Except.isOk, Except.toBool]
  | ok result => simp [Except.isOk, Except.toBool]

theorem map_eq_ok_iff {first : Except fault input} {change : input → output} {result : output} :
    first.map change = .ok result ↔ ∃ value, first = .ok value ∧ change value = result := by
  cases first with
  | error wrong => simp [Except.map]
  | ok value => simp [Except.map]

/-- Reading each input gives results exactly when each of them is what its input reads as. -/
theorem mapM_eq_ok_iff {read : input → Except fault output} {inputs : List input}
    {results : List output} :
    inputs.mapM read = .ok results ↔
      List.Forall₂ (fun each result => read each = .ok result) inputs results := by
  induction inputs generalizing results with
  | nil =>
      rw [List.mapM_nil, List.forall₂_nil_left_iff]
      constructor
      · intro ends
        cases ends
        rfl
      · rintro rfl
        rfl
  | cons each rest ih =>
      rw [List.mapM_cons, List.forall₂_cons_left_iff, bind_eq_ok_iff]
      constructor
      · rintro ⟨result, readEach, ends⟩
        rcases bind_eq_ok_iff.mp ends with ⟨others, readRest, same⟩
        cases same
        exact ⟨result, others, readEach, ih.mp readRest, rfl⟩
      · rintro ⟨result, others, readEach, readRest, rfl⟩
        exact ⟨result, readEach, bind_eq_ok_iff.mpr ⟨others, ih.mpr readRest, rfl⟩⟩

/-- Reading each input gives a list of results where each input has one. -/
theorem mapM_eq_map {read : input → Except fault output} {value : input → output}
    {inputs : List input} (total : ∀ each ∈ inputs, read each = .ok (value each)) :
    inputs.mapM read = .ok (inputs.map value) := by
  rw [mapM_eq_ok_iff, List.forall₂_map_right_iff]
  exact List.forall₂_same.mpr total

theorem exists_of_forall₂ {left right : Type} {related : left → right → Prop}
    {lefts : List left} {rights : List right} (pairs : List.Forall₂ related lefts rights)
    {one : left} (member : one ∈ lefts) :
    ∃ other ∈ rights, related one other := by
  induction pairs with
  | nil => contradiction
  | cons first rest ih =>
      rcases List.mem_cons.mp member with rfl | later
      · exact ⟨_, List.mem_cons_self, first⟩
      · rcases ih later with ⟨other, otherMember, holds⟩
        exact ⟨other, List.mem_cons_of_mem _ otherMember, holds⟩

theorem exists_getElem?_of_forall₂ {left right : Type} {related : left → right → Prop}
    {lefts : List left} {rights : List right} (pairs : List.Forall₂ related lefts rights)
    {index : Nat} {one : left} (place : lefts[index]? = some one) :
    ∃ other, rights[index]? = some other ∧ related one other := by
  induction pairs generalizing index with
  | nil => contradiction
  | cons first rest ih =>
      cases index with
      | zero =>
          cases place
          exact ⟨_, rfl, first⟩
      | succ index => exact ih place

theorem exists_of_mapM_eq_ok {read : input → Except fault output} {inputs : List input}
    {results : List output} (ends : inputs.mapM read = .ok results)
    {each : input} (member : each ∈ inputs) :
    ∃ result ∈ results, read each = .ok result :=
  exists_of_forall₂ (mapM_eq_ok_iff.mp ends) member

theorem mem_of_mapM_eq_ok {read : input → Except fault output} {inputs : List input}
    {results : List output} (ends : inputs.mapM read = .ok results) {result : output} :
    result ∈ results ↔ ∃ each ∈ inputs, read each = .ok result := by
  constructor
  · intro member
    exact exists_of_forall₂ (mapM_eq_ok_iff.mp ends).flip member
  · rintro ⟨each, among, readsAs⟩
    rcases exists_of_mapM_eq_ok ends among with ⟨other, member, readsOther⟩
    rw [readsAs] at readsOther
    cases readsOther
    exact member

/-! ## Filters that can fail -/

section Filtering

variable {keep : input → Except fault Bool}

theorem filterAuxM_eq (inputs kept : List input) :
    inputs.filterAuxM keep kept = (inputs.filterAuxM keep []).map (· ++ kept) := by
  induction inputs generalizing kept with
  | nil => rfl
  | cons each rest ih =>
      rw [List.filterAuxM, List.filterAuxM]
      cases keep each with
      | error wrong => rfl
      | ok isKept =>
          change rest.filterAuxM keep (bif isKept then each :: kept else kept) =
            (rest.filterAuxM keep (bif isKept then [each] else [])).map (· ++ kept)
          rw [ih, ih (bif isKept then [each] else [])]
          cases rest.filterAuxM keep [] with
          | error wrong => rfl
          | ok more => cases isKept <;> simp [Except.map]

theorem filterM_cons (each : input) (rest : List input) :
    (each :: rest).filterM keep = (do
      let isKept ← keep each
      let more ← rest.filterM keep
      return if isKept then each :: more else more) := by
  rw [List.filterM, List.filterM, List.filterAuxM]
  cases keep each with
  | error wrong => rfl
  | ok isKept =>
      change (rest.filterAuxM keep (bif isKept then [each] else []) >>= fun more =>
        pure more.reverse) = _
      rw [filterAuxM_eq]
      cases rest.filterAuxM keep [] with
      | error wrong => rfl
      | ok more => cases isKept <;> simp [Except.map, bind, Except.bind, pure, Except.pure]

/-- A test that never fails makes a filter that never fails. -/
theorem filterM_eq_filter {holds : input → Bool} {inputs : List input}
    (total : ∀ each ∈ inputs, keep each = .ok (holds each)) :
    inputs.filterM keep = .ok (inputs.filter holds) := by
  induction inputs with
  | nil => rfl
  | cons each rest ih =>
      rcases List.forall_mem_cons.mp total with ⟨first, others⟩
      rw [filterM_cons, first, ih others, List.filter_cons]
      rfl

theorem sublist_of_filterM {inputs kept : List input} (ends : inputs.filterM keep = .ok kept) :
    kept.Sublist inputs := by
  induction inputs generalizing kept with
  | nil =>
      cases ends
      exact List.Sublist.slnil
  | cons each rest ih =>
      rw [filterM_cons, bind_eq_ok_iff] at ends
      rcases ends with ⟨isKept, -, endsRest⟩
      rcases bind_eq_ok_iff.mp endsRest with ⟨more, filtered, same⟩
      cases same
      cases isKept with
      | true => exact (ih filtered).cons_cons each
      | false => exact (ih filtered).cons each

theorem filterM_map {change : output → input} (inputs : List output) :
    (inputs.map change).filterM keep =
      (inputs.filterM fun each => keep (change each)).map (List.map change) := by
  induction inputs with
  | nil => rfl
  | cons each rest ih =>
      rw [List.map_cons, filterM_cons, filterM_cons, ih]
      simp only [bind, Except.bind]
      cases keep (change each) with
      | error wrong => rfl
      | ok isKept =>
          cases rest.filterM fun each => keep (change each) with
          | error wrong => rfl
          | ok more => cases isKept <;> rfl

end Filtering

/-! ## Expected faults -/

/-- Does an operation that fails do so only with a fault of the expected kind? -/
def FailsOnly (expected : fault → Prop) (outcome : Except fault output) : Prop :=
  ∀ wrong, outcome = .error wrong → expected wrong

variable {expected : fault → Prop}

theorem failsOnly_ok (result : output) :
    FailsOnly expected (.ok result) := by
  intro wrong impossible
  contradiction

theorem failsOnly_error_iff {wrong : fault} :
    FailsOnly expected (.error wrong : Except fault output) ↔ expected wrong := by
  constructor
  · intro only
    exact only wrong rfl
  · intro holds other same
    cases same
    exact holds

theorem failsOnly_iff {outcome : Except fault output} :
    FailsOnly expected outcome ↔
      (∃ result, outcome = .ok result) ∨ ∃ wrong, outcome = .error wrong ∧ expected wrong := by
  cases outcome with
  | ok result => exact iff_of_true (failsOnly_ok result) (Or.inl ⟨result, rfl⟩)
  | error wrong => simp [failsOnly_error_iff]

theorem failsOnly_bind_iff {first : Except fault input} {next : input → Except fault output} :
    FailsOnly expected (first >>= next) ↔
      FailsOnly expected first ∧
        ∀ value, first = .ok value → FailsOnly expected (next value) := by
  cases first with
  | error wrong =>
      constructor
      · intro only
        refine ⟨failsOnly_error_iff.mpr (only wrong rfl), ?_⟩
        intro value impossible
        contradiction
      · rintro ⟨only, -⟩ other same
        cases same
        exact failsOnly_error_iff.mp only
  | ok value =>
      constructor
      · intro only
        refine ⟨failsOnly_ok value, ?_⟩
        intro other same
        cases same
        exact only
      · rintro ⟨-, only⟩
        exact only value rfl

theorem failsOnly_map {first : Except fault input} (change : input → output)
    (only : FailsOnly expected first) :
    FailsOnly expected (first.map change) := by
  cases first with
  | error wrong => exact failsOnly_error_iff.mpr (only wrong rfl)
  | ok value => exact failsOnly_ok (change value)

/-- What each step fails with is what a run of them fails with. -/
theorem failsOnly_foldlM {step : output → input → Except fault output} {inputs : List input}
    (each : ∀ state, ∀ input ∈ inputs, FailsOnly expected (step state input)) (start : output) :
    FailsOnly expected (inputs.foldlM step start) := by
  induction inputs generalizing start with
  | nil => exact failsOnly_ok start
  | cons first rest ih =>
      rw [List.foldlM_cons, failsOnly_bind_iff]
      refine ⟨each start first List.mem_cons_self, ?_⟩
      intro state _
      apply ih
      intro other input member
      exact each other input (List.mem_cons_of_mem first member)

/-- What each step of a run keeps holds at its end. -/
theorem foldlM_invariant {step : output → input → Except fault output} {holds : output → Prop}
    (keeps : ∀ state input next, holds state → step state input = .ok next → holds next)
    {inputs : List input} {start final : output} (first : holds start)
    (ends : inputs.foldlM step start = .ok final) :
    holds final := by
  induction inputs generalizing start with
  | nil =>
      cases ends
      exact first
  | cons input rest ih =>
      rw [List.foldlM_cons, bind_eq_ok_iff] at ends
      rcases ends with ⟨next, stepped, endsRest⟩
      exact ih (keeps start input next first stepped) endsRest

theorem exists_step_of_foldlM {step : output → input → Except fault output}
    {inputs : List input} {start final : output} (ends : inputs.foldlM step start = .ok final)
    {input : input} (member : input ∈ inputs) :
    ∃ state next, step state input = .ok next := by
  induction inputs generalizing start with
  | nil => contradiction
  | cons first rest ih =>
      rw [List.foldlM_cons, bind_eq_ok_iff] at ends
      rcases ends with ⟨next, stepped, endsRest⟩
      rcases List.mem_cons.mp member with rfl | later
      · exact ⟨start, next, stepped⟩
      · exact ih endsRest later

/-- A run ends as before if each of its steps ends as before. -/
theorem foldlM_of_steps {step other : output → input → Except fault output}
    (same : ∀ state input next, step state input = .ok next → other state input = .ok next)
    {inputs : List input} {start final : output} (ends : inputs.foldlM step start = .ok final) :
    inputs.foldlM other start = .ok final := by
  induction inputs generalizing start with
  | nil => exact ends
  | cons input rest ih =>
      rw [List.foldlM_cons, bind_eq_ok_iff] at ends ⊢
      rcases ends with ⟨next, stepped, endsRest⟩
      exact ⟨next, same start input next stepped, ih endsRest⟩

end CasingLint.Outcome
