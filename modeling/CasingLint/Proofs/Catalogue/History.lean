import CasingLint.Catalogue.Discovery
import CasingLint.Proofs.FirstOccurrence
import CasingLint.Proofs.Outcome
import Mathlib.Data.List.DropRight

/-!
# The history of a catalogue

Rules and front ends are registered one by one or discovered in modules, and now and then a
catalogue is cleared.  Whatever is done to it, it holds the first of everything that was offered
since it was cleared last, in the order of the offers.  Discovery adds to it the rules of modules
up to the first fault, counts them, and finds nothing new when it is repeated.
-/

namespace CasingLint

open CasingLint.Text CasingLint.Outcome

/-- What modules offer one after the other: one that cannot be loaded offers the fault. -/
def RuleModule.offers (modules : List RuleModule) (names : List String) :
    List (Except Fault Rule) :=
  names.flatMap fun name =>
    match load modules name with
    | .error fault => [.error fault]
    | .ok found => found.rules

namespace Catalogue

/-- The rules that come before the first fault. -/
def beforeFault : List (Except Fault Rule) → List Rule
  | .ok rule :: rest => rule :: beforeFault rest
  | _ => []

/-- The first fault. -/
def firstFault? : List (Except Fault Rule) → Option Fault
  | [] => none
  | .ok _ :: rest => firstFault? rest
  | .error fault :: _ => some fault

/-- Something that is done to a catalogue. -/
inductive Action where
  | register (rule : Rule)
  | registerFrontEnd (language : String) (frontEnd : FrontEnd)
  | discover (modules : List RuleModule) (names : List String)
  | clear

namespace Action

/-- Is everything taken out? -/
def isClear : Action → Bool
  | clear => true
  | _ => false

/-- The rules that an action offers to the catalogue, in order. -/
def rules : Action → List Rule
  | register rule => [rule]
  | discover modules names =>
    beforeFault (RuleModule.offers modules (names.flatMap (Discovery.visited modules)))
  | _ => []

/-- The front ends that an action offers to the catalogue, with their languages. -/
def frontEnds : Action → List (String × FrontEnd)
  | registerFrontEnd language frontEnd => [(language, frontEnd)]
  | _ => []

end Action

/-- The catalogue after an action. -/
def perform (catalogue : Catalogue) : Action → Catalogue
  | .register rule => catalogue.register rule
  | .registerFrontEnd language frontEnd => catalogue.registerFrontEnd language frontEnd
  | .discover modules names => (catalogue.discover modules names).catalogue
  | .clear => catalogue.clear

/-- The catalogue after a sequence of actions, which starts empty. -/
def after (actions : List Action) : Catalogue :=
  actions.foldl perform {}

/-- The actions since everything was taken out last. -/
def sinceClear (actions : List Action) : List Action :=
  actions.rtakeWhile fun action => !action.isClear

/-- Does a catalogue hold the first of everything that the actions offer, in their order? -/
structure HoldsFirsts (catalogue : Catalogue) (actions : List Action) : Prop where
  distinct : catalogue.ruleIds.Nodup
  ruleIds : catalogue.ruleIds = ((actions.flatMap Action.rules).map Rule.id).eraseDups
  rule : ∀ id, catalogue.rules.find? (·.id == id) =
    (actions.flatMap Action.rules).find? (·.id == id)
  languages : catalogue.languages = ((actions.flatMap Action.frontEnds).map Prod.fst).eraseDups
  frontEnd : ∀ language, catalogue.frontEnd? language =
    (actions.flatMap Action.frontEnds).lookup language

/--
Does a discovery register the rules of the modules that it visits, up to the first fault, and tell
how many identifiers are new?
-/
structure DiscoversInOrder (catalogue : Catalogue) (modules : List RuleModule)
    (names : List String) (discovery : Discovery) : Prop where
  /--
  What is registered, when discovery reaches its end and when it does not: a module cannot be
  loaded, or a rule of the last module that was loaded cannot be made.
  -/
  registered : ∃ (visited skipped : List String) (loaded : List RuleModule) (made : List Rule)
      (failed : List (Except Fault Rule)),
    names.flatMap (Discovery.visited modules) = visited ++ skipped ∧
      visited.mapM (RuleModule.load modules) = .ok loaded ∧
      loaded.flatMap RuleModule.rules = made.map .ok ++ failed ∧
      discovery.catalogue = made.foldl register catalogue ∧
      match discovery.outcome catalogue with
      | .ok _ => skipped = [] ∧ failed = []
      | .error fault =>
        (failed = [] ∧ ∃ name, skipped.head? = some name ∧
          RuleModule.load modules name = .error fault) ∨
        (failed.head? = some (.error fault) ∧ ∃ last, loaded.getLast? = some last ∧
          failed <:+ last.rules)
  /-- The identifiers that are new, and their number. -/
  counted : ∃ newIds : List String, newIds.Nodup ∧ (∀ id ∈ newIds, id ∉ catalogue.ruleIds) ∧
    discovery.catalogue.ruleIds = catalogue.ruleIds ++ newIds ∧
    ∀ count, discovery.outcome catalogue = .ok count → count = newIds.length
  /-- After a discovery that reached its end, another one is without effect. -/
  repeated : ∀ count, discovery.outcome catalogue = .ok count →
    (discovery.catalogue.discover modules names).catalogue = discovery.catalogue ∧
      (discovery.catalogue.discover modules names).outcome discovery.catalogue = .ok 0

/-! ## Registration -/

theorem register_eq (catalogue : Catalogue) (rule : Rule) :
    catalogue.register rule =
      { catalogue with rules := keepFirst Rule.id catalogue.rules rule } := by
  rw [register, keepFirst, ruleIds]
  split
  · rfl
  · rfl

theorem registerFrontEnd_eq (catalogue : Catalogue) (language : String) (frontEnd : FrontEnd) :
    catalogue.registerFrontEnd language frontEnd =
      { catalogue with
        frontEnds := keepFirst Prod.fst catalogue.frontEnds (language, frontEnd) } := by
  rw [registerFrontEnd, keepFirst, languages]
  split
  · rfl
  · rfl

theorem foldl_register (catalogue : Catalogue) (rules : List Rule) :
    rules.foldl register catalogue =
      { catalogue with rules := keepFirsts Rule.id catalogue.rules rules } := by
  induction rules generalizing catalogue with
  | nil => rfl
  | cons rule rest ih =>
      rw [List.foldl_cons, ih, register_eq]
      rfl

/-! ## Discovery -/

section Offers

variable {offers : List (Except Fault Rule)}

theorem eq_map_of_firstFault?_eq_none (faultless : firstFault? offers = none) :
    offers = (beforeFault offers).map .ok := by
  induction offers with
  | nil => rfl
  | cons first rest ih =>
      cases first with
      | error fault => contradiction
      | ok rule => exact congrArg (.ok rule :: ·) (ih faultless)

theorem exists_eq_append_of_firstFault? {fault : Fault} (first : firstFault? offers = some fault) :
    ∃ rest, offers = (beforeFault offers).map .ok ++ .error fault :: rest := by
  induction offers with
  | nil => contradiction
  | cons offer others ih =>
      cases offer with
      | error other =>
          cases first
          exact ⟨others, rfl⟩
      | ok rule =>
          rcases ih first with ⟨rest, split⟩
          exact ⟨rest, congrArg (.ok rule :: ·) split⟩

theorem beforeFault_append (others : List (Except Fault Rule)) :
    beforeFault (offers ++ others) =
      match firstFault? offers with
      | some _ => beforeFault offers
      | none => beforeFault offers ++ beforeFault others := by
  induction offers with
  | nil => rfl
  | cons first rest ih =>
      cases first with
      | error fault => rfl
      | ok rule =>
          rw [List.cons_append, beforeFault, ih, firstFault?]
          cases firstFault? rest with
          | none => rfl
          | some fault => rfl

theorem firstFault?_append (others : List (Except Fault Rule)) :
    firstFault? (offers ++ others) = (firstFault? offers).or (firstFault? others) := by
  induction offers with
  | nil => rfl
  | cons first rest ih =>
      cases first with
      | error fault => rfl
      | ok rule => exact ih

end Offers

namespace Discovery

/-- Registration goes on up to the first fault, and ends with it. -/
theorem registerAll_eq {state : Discovery} (ongoing : state.fault? = none)
    (offers : List (Except Fault Rule)) :
    (state.registerAll offers).catalogue =
        (beforeFault offers).foldl register state.catalogue ∧
      (state.registerAll offers).fault? = firstFault? offers := by
  induction offers generalizing state with
  | nil => exact ⟨rfl, ongoing⟩
  | cons first rest ih =>
      cases first with
      | error fault => exact ⟨rfl, rfl⟩
      | ok rule =>
          rw [registerAll, beforeFault, firstFault?, List.foldl_cons]
          refine ih ?_
          exact ongoing

/-- Visits register what modules offer, up to the first fault. -/
theorem visitAll_eq {modules : List RuleModule} {state : Discovery} (ongoing : state.fault? = none)
    (names : List String) :
    (visitAll modules state names).catalogue =
        (beforeFault (RuleModule.offers modules names)).foldl register state.catalogue ∧
      (visitAll modules state names).fault? = firstFault? (RuleModule.offers modules names) := by
  induction names generalizing state with
  | nil => exact ⟨rfl, ongoing⟩
  | cons name rest ih =>
      rw [visitAll, RuleModule.offers, List.flatMap_cons, ← RuleModule.offers,
        beforeFault_append, firstFault?_append]
      cases RuleModule.load modules name with
      | error fault => exact ⟨rfl, rfl⟩
      | ok found =>
          dsimp only
          rcases registerAll_eq ongoing found.rules with ⟨registered, ended⟩
          rw [ended]
          cases first : firstFault? found.rules with
          | some fault => exact ⟨registered, ended.trans first⟩
          | none =>
              rw [List.foldl_append, ← registered]
              exact ih (ended.trans first)

/--
The modules that are visited, and what they offer.  The fault with which the visits end is that of
the first module that cannot be loaded, or that of a rule in the last module that was.
-/
theorem exists_visits (modules : List RuleModule) (names : List String) :
    ∃ visited skipped loaded failed, names = visited ++ skipped ∧
      visited.mapM (RuleModule.load modules) = .ok loaded ∧
      loaded.flatMap RuleModule.rules =
        (beforeFault (RuleModule.offers modules names)).map .ok ++ failed ∧
      match firstFault? (RuleModule.offers modules names) with
      | none => skipped = [] ∧ failed = []
      | some fault =>
        (failed = [] ∧ ∃ name, skipped.head? = some name ∧
          RuleModule.load modules name = .error fault) ∨
        (failed.head? = some (.error fault) ∧ ∃ last, loaded.getLast? = some last ∧
          failed <:+ last.rules) := by
  induction names with
  | nil => exact ⟨[], [], [], [], rfl, rfl, rfl, rfl, rfl⟩
  | cons name rest ih =>
      rw [RuleModule.offers, List.flatMap_cons, ← RuleModule.offers, beforeFault_append,
        firstFault?_append]
      cases load : RuleModule.load modules name with
      | error fault =>
          -- A module that cannot be loaded is the first of those that are skipped.
          exact ⟨[], name :: rest, [], [], rfl, rfl, rfl, Or.inl ⟨rfl, name, rfl, load⟩⟩
      | ok found =>
          dsimp only
          cases first : firstFault? found.rules with
          | some fault =>
              rcases exists_eq_append_of_firstFault? first with ⟨others, split⟩
              refine ⟨[name], rest, [found], .error fault :: others, rfl, ?_, ?_, ?_⟩
              · rw [List.mapM_cons, load]
                rfl
              · exact (List.flatMap_singleton _ _).trans split
              · refine Or.inr ⟨rfl, found, rfl, ?_⟩
                rw [split]
                exact List.suffix_append _ _
          | none =>
              rcases ih with ⟨visited, skipped, loaded, failed, split, read, offered, ending⟩
              refine ⟨name :: visited, skipped, found :: loaded, failed, congrArg _ split, ?_, ?_,
                ?_⟩
              · rw [List.mapM_cons, load, read]
                rfl
              · have all := eq_map_of_firstFault?_eq_none first
                rw [List.flatMap_cons, offered, List.map_append, ← all, List.append_assoc]
              · rw [Option.none_or]
                revert ending
                cases firstFault? (RuleModule.offers modules rest) with
                | none => exact id
                | some fault =>
                    rintro (missing | ⟨broken, last, isLast, suffix⟩)
                    · exact Or.inl missing
                    · refine Or.inr ⟨broken, last, ?_, suffix⟩
                      rw [List.getLast?_cons, isLast]
                      rfl

end Discovery

theorem discover_eq_visitAll (catalogue : Catalogue) (modules : List RuleModule)
    (names : List String) :
    (catalogue.discover modules names).catalogue =
        (Discovery.visitAll modules { catalogue := catalogue }
          (names.flatMap (Discovery.visited modules))).catalogue ∧
      (catalogue.discover modules names).fault? =
        (Discovery.visitAll modules { catalogue := catalogue }
          (names.flatMap (Discovery.visited modules))).fault? := by
  rw [discover]
  split
  · exact ⟨rfl, rfl⟩
  · exact ⟨rfl, rfl⟩

/-- Discovery offers the rules of all modules up to the first fault. -/
theorem catalogue_discover (catalogue : Catalogue) (modules : List RuleModule)
    (names : List String) :
    (catalogue.discover modules names).catalogue =
      { catalogue with
        rules := keepFirsts Rule.id catalogue.rules (Action.discover modules names).rules } := by
  have registered := (@Discovery.visitAll_eq modules { catalogue := catalogue } rfl
    (names.flatMap (Discovery.visited modules))).1
  rw [(discover_eq_visitAll catalogue modules names).1, registered, foldl_register, Action.rules]

/-- Whether discovery reaches its end does not depend on what has been registered. -/
theorem fault?_discover (catalogue : Catalogue) (modules : List RuleModule)
    (names : List String) :
    (catalogue.discover modules names).fault? =
      firstFault? (RuleModule.offers modules (names.flatMap (Discovery.visited modules))) :=
  (discover_eq_visitAll catalogue modules names).2.trans (Discovery.visitAll_eq rfl _).2

theorem outcome_eq_ok_iff {state : Discovery} {before : Catalogue} {count : Nat} :
    state.outcome before = .ok count ↔ state.fault? = none ∧ count = state.added before := by
  rw [Discovery.outcome]
  cases state.fault? with
  | none => simp [eq_comm]
  | some fault => simp

theorem ruleIds_discover (catalogue : Catalogue) (modules : List RuleModule)
    (names : List String) :
    (catalogue.discover modules names).catalogue.ruleIds = catalogue.ruleIds ++
      (((Action.discover modules names).rules.map Rule.id).filter
        fun id => !catalogue.ruleIds.contains id).eraseDups := by
  rw [catalogue_discover]
  exact map_keepFirsts Rule.id catalogue.rules _

/-- What discovery has found is known to the next one. -/
theorem discover_twice (catalogue : Catalogue) (modules : List RuleModule)
    (names : List String) :
    ((catalogue.discover modules names).catalogue.discover modules names).catalogue =
      (catalogue.discover modules names).catalogue := by
  simp only [catalogue_discover, keepFirsts_twice]

theorem discoversInOrder (catalogue : Catalogue) (modules : List RuleModule)
    (names : List String) :
    DiscoversInOrder catalogue modules names (catalogue.discover modules names) where
  registered := by
    rcases Discovery.exists_visits modules (names.flatMap (Discovery.visited modules)) with
      ⟨visited, skipped, loaded, failed, split, read, offered, ending⟩
    refine ⟨visited, skipped, loaded, _, failed, split, read, offered, ?_, ?_⟩
    · rw [catalogue_discover, foldl_register]
      rfl
    · rw [Discovery.outcome, fault?_discover]
      revert ending
      cases firstFault?
        (RuleModule.offers modules (names.flatMap (Discovery.visited modules))) with
      | none => exact id
      | some fault => exact id
  counted := by
    refine ⟨_, nodup_eraseDups _, ?_, ruleIds_discover catalogue modules names, ?_⟩
    · intro id member
      have fresh := (List.mem_filter.mp (List.mem_eraseDups.mp member)).2
      simpa using fresh
    · intro count ended
      have lengths := congrArg List.length (ruleIds_discover catalogue modules names)
      rw [List.length_append, ruleIds, ruleIds, List.length_map, List.length_map] at lengths
      rw [(outcome_eq_ok_iff.mp ended).2, Discovery.added, lengths, Nat.add_sub_cancel_left]
      rfl
  repeated := by
    intro count ended
    have same := discover_twice catalogue modules names
    refine ⟨same, outcome_eq_ok_iff.mpr ⟨?_, ?_⟩⟩
    · rw [fault?_discover, ← fault?_discover catalogue]
      exact (outcome_eq_ok_iff.mp ended).1
    · rw [Discovery.added, same, Nat.sub_self]

/-! ## Sequences of actions -/

theorem perform_eq (catalogue : Catalogue) (action : Action) (goesOn : action.isClear = false) :
    catalogue.perform action =
      { rules := keepFirsts Rule.id catalogue.rules action.rules
        frontEnds := keepFirsts Prod.fst catalogue.frontEnds action.frontEnds } := by
  cases action with
  | register rule => exact foldl_register catalogue [rule]
  | registerFrontEnd language frontEnd =>
      rw [perform, registerFrontEnd_eq]
      rfl
  | discover modules names => exact catalogue_discover catalogue modules names
  | clear => cases goesOn

theorem sinceClear_concat (actions : List Action) (action : Action) :
    sinceClear (actions ++ [action]) =
      if action.isClear then [] else sinceClear actions ++ [action] := by
  rw [sinceClear, List.rtakeWhile_concat]
  cases action.isClear with
  | true => rfl
  | false => rfl

/-- What is kept after a sequence of actions. -/
theorem after_eq (actions : List Action) :
    after actions =
      { rules := keepFirsts Rule.id [] ((sinceClear actions).flatMap Action.rules)
        frontEnds := keepFirsts Prod.fst [] ((sinceClear actions).flatMap Action.frontEnds) } := by
  -- From the last action backwards: it either clears, or adds to what the others left.
  induction actions using List.reverseRecOn with
  | nil => rfl
  | append_singleton actions action ih =>
      rw [after, List.foldl_concat, ← after, ih, sinceClear_concat]
      cases ending : action.isClear with
      | true =>
          cases action with
          | clear => rfl
          | _ => cases ending
      | false =>
          rw [perform_eq _ _ ending]
          simp only [Bool.false_eq_true, if_false, List.flatMap_append, List.flatMap_singleton,
            keepFirsts_append]

theorem lookup_eq_find? {value : Type} (entries : List (String × value)) (name : String) :
    entries.lookup name = (entries.find? (·.1 == name)).map Prod.snd := by
  induction entries with
  | nil => rfl
  | cons entry rest ih =>
      rw [List.lookup_cons, List.find?_cons, ih, Bool.beq_comm]
      cases entry.1 == name with
      | true => rfl
      | false => rfl

/-- A catalogue that starts with nothing keeps the first of everything. -/
theorem holdsFirsts_after (actions : List Action) :
    HoldsFirsts (after actions) (sinceClear actions) := by
  have ids : (after actions).ruleIds =
      (((sinceClear actions).flatMap Action.rules).map Rule.id).eraseDups := by
    rw [after_eq]
    exact (map_keepFirsts Rule.id [] _).trans (by simp)
  refine ⟨ids ▸ nodup_eraseDups _, ids, ?_, ?_, ?_⟩
  · intro id
    rw [after_eq]
    exact find?_keepFirsts Rule.id [] _ id
  · rw [after_eq]
    exact (map_keepFirsts Prod.fst [] _).trans (by simp)
  · intro language
    rw [after_eq, frontEnd?, lookup_eq_find?, lookup_eq_find?]
    exact congrArg _ (find?_keepFirsts Prod.fst [] _ language)

/-! ## Selection -/

theorem matchesAny_texts (id : String) (patterns : List String) :
    matchesAny id (patterns.map .text) = .ok (patterns.any (Glob.isMatch · id)) := by
  induction patterns with
  | nil => rfl
  | cons pattern rest ih =>
      rw [List.map_cons, matchesAny, ih, List.any_cons]
      cases Glob.isMatch pattern id with
      | true => rfl
      | false => rfl

/-- The rules that patterns select, in the order of the catalogue. -/
theorem enabled_texts (catalogue : Catalogue) {patterns : Value} {texts : List String}
    (read : patterns.elements = .ok (texts.map .text)) (language : String) :
    catalogue.enabled patterns language =
      .ok (catalogue.rules.filter fun rule =>
        rule.languages.contains language && texts.any (Glob.isMatch · rule.id)) := by
  refine bind_eq_ok_iff.mpr ⟨_, read, filterM_eq_filter fun rule _ => ?_⟩
  rw [matchesAny_texts]
  cases rule.languages.contains language with
  | true => rfl
  | false => rfl

/--
A catalogue holds the first of everything that was offered since it was cleared last.  Discovery
adds what it can load and counts it, and the patterns select rules in the order of the catalogue,
whatever their own order is.
-/
theorem registration_isOrderly :
    (∀ actions : List Action, HoldsFirsts (after actions) (sinceClear actions)) ∧
      (∀ (catalogue : Catalogue) (modules : List RuleModule) (names : List String),
        DiscoversInOrder catalogue modules names (catalogue.discover modules names)) ∧
      ∀ (catalogue : Catalogue) (language : String) (patterns : Value) (texts : List String),
        patterns.elements = .ok (texts.map .text) →
          catalogue.enabled patterns language =
              .ok (catalogue.rules.filter fun rule =>
                rule.languages.contains language && texts.any (Glob.isMatch · rule.id)) ∧
            ∀ (others : Value) (otherTexts : List String),
              others.elements = .ok (otherTexts.map .text) →
                (∀ text, text ∈ otherTexts ↔ text ∈ texts) →
                  catalogue.enabled others language = catalogue.enabled patterns language := by
  refine ⟨holdsFirsts_after, discoversInOrder, ?_⟩
  intro catalogue language patterns texts read
  refine ⟨enabled_texts catalogue read language, ?_⟩
  intro others otherTexts readOther sameMembers
  have sameMatches : ∀ id, otherTexts.any (Glob.isMatch · id) = texts.any (Glob.isMatch · id) := by
    intro id
    rw [Bool.eq_iff_iff, List.any_eq_true, List.any_eq_true]
    simp only [sameMembers]
  rw [enabled_texts catalogue readOther, enabled_texts catalogue read]
  simp only [sameMatches]

namespace Sample

def silent (id : String) : Rule where
  id := id
  languages := [Rule.Naming.language]
  visit := fun _ => .ok []

def modules : List RuleModule :=
  [{ name := "base", isPackage := true, rules := [.ok (silent "width"), .ok (silent "width")] },
    { name := "base.more",
      rules := [.ok (silent "depth"), .error (.raised "out of order"), .ok (silent "weight")] },
    { name := "late", rules := [.ok (silent "height")] }]

end Sample

-- The first rule is cleared away, and the discovery ends inside a module, before the last one.
example :
    (after [.register (Sample.silent "depth"), .clear, .register (Sample.silent "size"),
      .discover Sample.modules ["base", "late"]]).ruleIds =
        ["size", "width", "depth"] := by
  decide +kernel

end Catalogue

end CasingLint
