import CasingLint.Proofs.CommandLine.Survey
import CasingLint.Proofs.Fix.Convergence
import CasingLint.Proofs.Fix.Files

/-!
# What fixing does to the files

Files are read with their line ends unified, and what is written has the line ends of what
was read.  So the octets of a fixed file are those of the unified text with the new names in
place of the old ones.  Where the file has no carriage return that is the file itself with
nothing but the names changed; where it has any and a name changes, they are all lost.
-/

namespace CasingLint.CommandLine

open CasingLint.Text CasingLint.Outcome

/-! ## Writing -/

/-- What stands at the end of a way after fixes were written. -/
inductive IsWritten (store : Store) (fixes : List Fix) (written : Store) (names : List String) :
    Prop where
  | kept
      (same : (written.atNames? names).map Entry.content? =
        (store.atNames? names).map Entry.content?)
      (avoid : ∀ fix ∈ fixes, store.way fix.file ≠ .ok names)
  | changed {fix : Fix} (member : fix ∈ fixes) (leads : store.way fix.file = .ok names)
      (held : written.atNames? names = some (.file (.ok (Utf8.encode fix.after.toList))))

/-- Does the path of a fix lead to a file? -/
def LeadsToFile (store : Store) (fix : Fix) : Prop :=
  ∃ names content,
    store.way fix.file = .ok names ∧ store.atNames? names = some (.file (.ok content))

section Writing

variable {store : Store} {place : List String} {old : Utf8.Octets}

/-- Writing one file leaves all files in their places. -/
theorem LeadsToFile.putFile {fix : Fix} (leadsToFile : LeadsToFile store fix)
    (held : store.atNames? place = some (.file (.ok old))) (new : Utf8.Octets) :
    LeadsToFile (store.putFile place new) fix := by
  rcases leadsToFile with ⟨names, content, leads, heldThere⟩
  have leadsStill := ((Store.sameShape_putFile held new).way fix.file).trans leads
  have after := Store.map_content?_putFile held new names
  by_cases same : names = place
  · rw [if_pos same] at after
    exact ⟨names, new, leadsStill, Store.map_content?_eq_iff.mp after⟩
  · rw [if_neg same, heldThere] at after
    exact ⟨names, content, leadsStill, Store.map_content?_eq_iff.mp after⟩

/-- One fix written before others. -/
theorem IsWritten.cons {fix : Fix} {rest : List Fix} {written : Store} {names : List String}
    (leads : store.way fix.file = .ok place) (held : store.atNames? place = some (.file (.ok old)))
    (later : IsWritten (store.putFile place (Utf8.encode fix.after.toList)) rest written names) :
    IsWritten store (fix :: rest) written names := by
  have shape := Store.sameShape_putFile held (Utf8.encode fix.after.toList)
  rcases later with ⟨kept, avoid⟩ | ⟨member, otherLeads, otherHeld⟩
  · rw [Store.map_content?_putFile held] at kept
    by_cases same : names = place
    · rw [if_pos same] at kept
      exact .changed List.mem_cons_self (same ▸ leads) (Store.map_content?_eq_iff.mp kept)
    · rw [if_neg same] at kept
      refine .kept kept (List.forall_mem_cons.mpr ⟨?_, ?_⟩)
      · rw [leads]
        exact fun equal => same (Except.ok.inj equal).symm
      · intro other member
        rw [← shape.way]
        exact avoid other member
  · exact .changed (List.mem_cons_of_mem fix member) ((shape.way _).symm.trans otherLeads) otherHeld

/--
Writing fixes to files that are there succeeds.  A file that no fix leads to stays as it is,
and any other has the text of one of the fixes that lead to it.
-/
theorem exists_writeFixes {fixes : List Fix} (lead : ∀ fix ∈ fixes, LeadsToFile store fix) :
    ∃ written,
      writeFixes store fixes = (written, none) ∧
        ∀ names, IsWritten store fixes written names := by
  induction fixes generalizing store with
  | nil => exact ⟨store, rfl, fun names => .kept rfl (List.forall_mem_nil _)⟩
  | cons fix rest ih =>
      rcases List.forall_mem_cons.mp lead with ⟨⟨place, old, leads, held⟩, leadRest⟩
      rcases ih fun other member => (leadRest other member).putFile held _ with
        ⟨written, ends, later⟩
      refine ⟨written, ?_, fun names => (later names).cons leads held⟩
      rw [writeFixes, Store.writeText_of_way fix.after leads held]
      exact ends

end Writing

/-! ## The fix for a file -/

/-- What the fix for a file is made of: its edits, and the text before and after them. -/
structure IsFixOf (world : World) (found : Survey) (file text : String) (edits : List Edit)
    (after : String) : Prop where
  reads : world.store.readText file = .ok text
  suggested : ∀ edit, edit ∈ edits ↔
    ∃ finding ∈ found.findings, finding.file = file ∧ finding.suggestion? = some edit
  named : ∀ edit ∈ edits,
    ∃ violation ∈ (world.parse text).violations (Utf8.encode text.toList), violation.edit = edit
  rewrites : Edit.Rewrites 0 (Utf8.encode text.toList) edits (Utf8.encode after.toList)
  result : ∃ count,
    Fix.ofFile world.store.directory found.texts found.findings file =
      .ok (if after = text then none else some ⟨file, count, text, after⟩)

section Fixing

variable {world : World} {settings : Settings} {rules : List Rule} {files : List String}
  {found : Survey}

theorem IsSurvey.exists_isFixOf (surveyed : IsSurvey world settings rules files found)
    (parses : ∀ text, (world.parse text).IsTreeOf SyntaxTree.isNameType text)
    {file : String} (member : file ∈ Fix.files found.findings) :
    ∃ text edits after, IsFixOf world found file text edits after := by
  rcases Fix.mem_files.mp member with ⟨finding, reported, rfl⟩
  rcases surveyed.exists_analyzed reported with ⟨among, text, findings, analyzed, -⟩
  generalize finding.file = file at among analyzed
  have mend : ∀ own ∈ found.findings.filter (·.file == file),
      own.MendsOneOf ((world.parse text).violations (Utf8.encode text.toList)) := by
    intro own member
    rw [surveyed.mem_filter_iff among analyzed] at member
    exact analyzed.mendsOneOf surveyed.standard member
  rcases Finding.exists_applyAll (parses text) mend with ⟨after, applied, rewritten⟩
  refine ⟨text, _, after, analyzed.reads, ?_, ?_, rewritten, _,
    Fix.ofFile_eq (surveyed.textOf? among analyzed) applied⟩
  · intro edit
    rw [(Edit.ordered_perm _).mem_iff, Finding.mem_collectEdits]
    constructor
    · rintro ⟨own, member, held⟩
      rcases List.mem_filter.mp member with ⟨reported, isHere⟩
      exact ⟨own, reported, eq_of_beq isHere, (mend own member).mem_edits_iff.mp held⟩
    · rintro ⟨own, reported, rfl, suggested⟩
      have member : own ∈ found.findings.filter (·.file == own.file) :=
        List.mem_filter.mpr ⟨reported, beq_self_eq_true own.file⟩
      exact ⟨own, member, (mend own member).mem_edits_iff.mpr suggested⟩
  · intro edit member
    rw [(Edit.ordered_perm _).mem_iff] at member
    exact Finding.exists_violation_of_mem_collectEdits mend member

end Fixing

/-! ## The files after fixing -/

/--
What fixing makes of a file with the given text: the edits, which are the suggestions for it,
put new names in the place of names of its unified text.  If that does not change, the file
stays as it is.
-/
structure IsFixed (world : World) (found : Survey) (names : List String) (text : List Char)
    (edits : List Edit) (content : Utf8.Octets) : Prop where
  suggested : ∀ edit, edit ∈ edits ↔
    ∃ finding ∈ found.findings,
      world.store.way finding.file = .ok names ∧ finding.suggestion? = some edit
  named : ∀ edit ∈ edits,
    ∃ violation ∈ (world.parse (String.ofList (unifyLineEnds text))).violations
        (Utf8.encode (unifyLineEnds text)),
      violation.edit = edit
  rewritten : ∃ after,
    Edit.Rewrites 0 (Utf8.encode (unifyLineEnds text)) edits (Utf8.encode after) ∧
      content = if after = unifyLineEnds text then Utf8.encode text else Utf8.encode after

section Results

variable {world : World} {found : Survey} {names : List String} {text : List Char}
  {edits : List Edit} {content : Utf8.Octets}

/-- Without carriage returns nothing but the names changes. -/
theorem IsFixed.rewrites (fixed : IsFixed world found names text edits content)
    (free : '\r' ∉ text) :
    Edit.Rewrites 0 (Utf8.encode text) edits content := by
  rcases fixed.rewritten with ⟨after, rewritten, rfl⟩
  rw [unifyLineEnds_of_not_mem free] at rewritten ⊢
  split
  · rename_i same
    rw [same] at rewritten
    exact rewritten
  · exact rewritten

theorem isPlain_corrected {source : Utf8.Octets} {tree : SyntaxTree} {violation : Violation}
    (member : violation ∈ tree.violations source) :
    Name.isPlain violation.corrected.toList = true := by
  rcases List.mem_filterMap.mp member with ⟨binding, -, violated⟩
  rcases SyntaxTree.Binding.violation?_eq_some_iff.mp violated with
    ⟨token, convention, read, -, reported⟩
  rcases Violation.ofToken?_eq_some_iff.mp reported with ⟨changed, rfl⟩
  rcases SyntaxTree.token_eq_ok_iff.mp read with ⟨value, denoted, rfl⟩
  exact Token.isPlain_conform_text denoted changed

/-- No carriage return is written. -/
theorem IsFixed.eq_or_not_mem (fixed : IsFixed world found names text edits content) :
    content = Utf8.encode text ∨ 13 ∉ content := by
  rcases fixed.rewritten with ⟨after, rewritten, rfl⟩
  split
  · exact Or.inl rfl
  · right
    intro member
    rcases rewritten.mem_result member with before | ⟨edit, among, replaced⟩
    · exact not_mem_unifyLineEnds text (Utf8.mem_of_mem_encode (by decide) before)
    · rcases fixed.named edit among with ⟨violation, violated, rfl⟩
      have returned : '\r' ∈ violation.corrected.toList :=
        Utf8.mem_of_mem_encode (by decide) replaced
      rcases Name.isPlain_iff.mp (isPlain_corrected violated) '\r' returned with word | underscore
      · exact absurd word (by decide +kernel)
      · exact absurd underscore (by decide)

end Results

section Fixing

variable {world : World} {settings : Settings} {rules : List Rule} {files : List String}
  {found : Survey} {names : List String} {text : List Char}

theorem IsSurvey.exists_isFixed_of_mem (surveyed : IsSurvey world settings rules files found)
    (parses : ∀ text, (world.parse text).IsTreeOf SyntaxTree.isNameType text)
    (held : world.store.atNames? names = some (.file (.ok (Utf8.encode text))))
    {finding : Finding} (member : finding ∈ found.findings)
    (leads : world.store.way finding.file = .ok names) :
    ∃ edits after count,
      Fix.ofFile world.store.directory found.texts found.findings finding.file =
          .ok (if after.toList = unifyLineEnds text then none
            else some ⟨finding.file, count, String.ofList (unifyLineEnds text), after⟩) ∧
        IsFixed world found names text edits
          (if after.toList = unifyLineEnds text then Utf8.encode text
            else Utf8.encode after.toList) := by
  rcases surveyed.exists_isFixOf parses (Fix.mem_files.mpr ⟨finding, member, rfl⟩) with
    ⟨read, edits, after, fixOf⟩
  have reads : world.store.readText finding.file = .ok (String.ofList (unifyLineEnds text)) :=
    Store.readText_of_decode (Store.read_of_way leads held) (Utf8.decode_encode text)
  cases fixOf.reads.symm.trans reads
  have same : after = String.ofList (unifyLineEnds text) ↔ after.toList = unifyLineEnds text := by
    rw [← String.toList_inj, String.toList_ofList]
  rcases fixOf.result with ⟨count, result⟩
  refine ⟨edits, after, count, ?_, ?_, ?_, after.toList, ?_, rfl⟩
  · rw [result]
    simp only [same]
  · intro edit
    rw [fixOf.suggested, surveyed.suggested_iff member leads]
  · have named := fixOf.named
    rw [String.toList_ofList] at named
    exact named
  · have rewrites := fixOf.rewrites
    rw [String.toList_ofList] at rewrites
    exact rewrites

theorem IsSurvey.exists_isFixed (surveyed : IsSurvey world settings rules files found)
    (parses : ∀ text, (world.parse text).IsTreeOf SyntaxTree.isNameType text)
    (held : world.store.atNames? names = some (.file (.ok (Utf8.encode text))))
    {fixes : List Fix} {written : Store}
    (members : ∀ fix, fix ∈ fixes ↔
      ∃ file ∈ Fix.files found.findings,
        Fix.ofFile world.store.directory found.texts found.findings file = .ok (some fix))
    (result : IsWritten world.store fixes written names) :
    ∃ edits content,
      written.atNames? names = some (.file (.ok content)) ∧
        IsFixed world found names text edits content := by
  rcases result with ⟨kept, avoid⟩ | @⟨fix, member, leads, writtenThere⟩
  · rw [held] at kept
    have unchanged := Store.map_content?_eq_iff.mp kept
    by_cases named : ∃ finding ∈ found.findings, world.store.way finding.file = .ok names
    · rcases named with ⟨finding, reported, leads⟩
      rcases surveyed.exists_isFixed_of_mem parses held reported leads with
        ⟨edits, after, count, fixOf, fixed⟩
      by_cases same : after.toList = unifyLineEnds text
      · rw [if_pos same] at fixed
        exact ⟨edits, _, unchanged, fixed⟩
      · rw [if_neg same] at fixOf
        have among := (members _).mpr
          ⟨finding.file, Fix.mem_files.mpr ⟨finding, reported, rfl⟩, fixOf⟩
        exact absurd leads (avoid _ among)
    · refine ⟨[], _, unchanged, ?_, by simp, unifyLineEnds text, .done 0 _, (if_pos rfl).symm⟩
      intro edit
      refine iff_of_false List.not_mem_nil ?_
      rintro ⟨finding, reported, leads, -⟩
      exact named ⟨finding, reported, leads⟩
  · rcases (members fix).mp member with ⟨file, among, ofFile⟩
    rcases Fix.mem_files.mp among with ⟨finding, reported, rfl⟩
    rw [Fix.file_of_ofFile ofFile] at leads
    rcases surveyed.exists_isFixed_of_mem parses held reported leads with
      ⟨edits, after, count, fixOf, fixed⟩
    rw [fixOf] at ofFile
    by_cases same : after.toList = unifyLineEnds text
    · rw [if_pos same] at ofFile
      cases ofFile
    · rw [if_neg same] at ofFile fixed
      cases ofFile
      exact ⟨edits, _, writtenThere, fixed⟩

theorem exists_fixFiles {options : Options} {fixes : List Fix} {store : Store}
    (fixed : Fix.all world.store.directory found.texts found.findings = (fixes, none))
    (writes : writeFixes world.store fixes = (store, none)) (fixing : options.fix = true) :
    ∃ outcome, fixFiles world options found = (store, .ok outcome) := by
  rw [fixFiles, mendFiles, fixed, fixing]
  dsimp only
  rw [if_pos rfl, writes]
  exact ⟨_, rfl⟩

/--
A run that fixes goes on to its end, and every text file then has its new names.  Without
carriage returns in the file, all other octets are as they were; a file with carriage returns
that changes loses them all.
-/
theorem fixFiles_rewrites {catalogue : Catalogue} {patterns : Value} {paths : List String}
    {options : Options}
    (standard : ∀ rule ∈ catalogue.rules, rule = Rule.naming)
    (parses : ∀ text, (world.parse text).IsTreeOf SyntaxTree.isNameType text)
    (surveyed : survey world catalogue settings patterns paths = .ok found)
    (fixing : options.fix = true) :
    ∃ store outcome,
      fixFiles world options found = (store, .ok outcome) ∧
        ∀ names text, world.store.atNames? names = some (.file (.ok (Utf8.encode text))) →
          ∃ edits content,
            store.atNames? names = some (.file (.ok content)) ∧
              IsFixed world found names text edits content ∧
              ('\r' ∉ text → Edit.Rewrites 0 (Utf8.encode text) edits content) ∧
              (content = Utf8.encode text ∨ 13 ∉ content) := by
  rcases exists_isSurvey standard surveyed with ⟨rules, files, isSurvey⟩
  have each : ∀ file ∈ Fix.files found.findings, ∃ fix?,
      Fix.ofFile world.store.directory found.texts found.findings file = .ok fix? := by
    intro file member
    rcases isSurvey.exists_isFixOf parses member with ⟨text, edits, after, fixOf⟩
    rcases fixOf.result with ⟨count, result⟩
    exact ⟨_, result⟩
  rcases Fix.exists_inOrder each with ⟨fixes, inOrder, members⟩
  have lead : ∀ fix ∈ fixes, LeadsToFile world.store fix := by
    intro fix member
    rcases (members fix).mp member with ⟨file, among, ofFile⟩
    rw [LeadsToFile, Fix.file_of_ofFile ofFile]
    rcases isSurvey.exists_isFixOf parses among with ⟨text, edits, after, fixOf⟩
    exact Store.exists_way_of_readText fixOf.reads
  rcases exists_writeFixes lead with ⟨store, writes, results⟩
  rcases exists_fixFiles inOrder writes fixing with ⟨outcome, ends⟩
  refine ⟨store, outcome, ends, ?_⟩
  intro names text held
  rcases isSurvey.exists_isFixed parses held members (results names) with
    ⟨edits, content, written, fixed⟩
  exact ⟨edits, content, written, fixed, fixed.rewrites, fixed.eq_or_not_mem⟩

end Fixing

end CasingLint.CommandLine

namespace CasingLint

open CasingLint.Text

namespace Sample

/-- A text with a carriage return. -/
def returnText : String :=
  "class foo \x7b \x7d\r\n"

/-- The text as it is read. -/
def unifiedText : String :=
  "class foo \x7b \x7d\n"

/-- The syntax tree of the text as it is read. -/
def unifiedTree : SyntaxTree :=
  plain "compilation_unit" 0 14 [
    plain "class_declaration" 0 13 [
      plain "class" 0 5 [],
      name 6 9,
      plain "declaration_list" 10 13 [plain "\x7b" 10 11 [], plain "\x7d" 12 13 []]]]

/-- A parser that knows two texts and gives one node for any other. -/
def parse (read : String) : SyntaxTree :=
  if read = text then tree
  else if read = unifiedText then unifiedTree
  else plain "compilation_unit" 0 (Utf8.encode read.toList).length []

theorem isTreeOf_parse (read : String) :
    (parse read).IsTreeOf SyntaxTree.isNameType read := by
  rw [parse]
  split
  · rename_i same
    rw [same]
    decide +kernel
  · split
    · rename_i same
      rw [same]
      decide +kernel
    · refine ⟨?_, ?_, ?_⟩
      · intro found member
        cases List.mem_singleton.mp member
        exact ⟨Nat.zero_le _, List.forall_mem_nil _, List.Pairwise.nil⟩
      · intro found member
        cases List.mem_singleton.mp member
        exact ⟨rfl, Utf8.mem_boundaries_iff.mpr ⟨[], read.toList, rfl, rfl⟩,
          Utf8.mem_boundaries_iff.mpr ⟨read.toList, [], by simp, rfl⟩⟩
      · intro found member
        cases List.mem_singleton.mp member
        intro isName
        contradiction

/-- A world with the two texts in files. -/
def world : CommandLine.World where
  store := {
    root := [("a.cs", .file (.ok (Utf8.encode text.toList))),
      ("b.cs", .file (.ok (Utf8.encode returnText.toList)))] }
  parse := parse
  reader _ _ := .ok .null
  validate _ _ := none
  metrics := ⟨.int 0, .int 0, .int 0⟩

/-- A catalogue with the naming rule only. -/
def catalogue : Catalogue where
  rules := [Rule.naming]

/-- What a run finds in the world. -/
def survey (paths : List String) : Except Fault CommandLine.Survey :=
  CommandLine.survey world catalogue .default Settings.default.enabledRules paths

end Sample

namespace CommandLine

/-- A file that is analysed under two paths gets its new names, and nothing else changes. -/
theorem fixFiles_rewrites_sample :
    (∀ rule ∈ Sample.catalogue.rules, rule = Rule.naming) ∧
      (∀ read, (Sample.world.parse read).IsTreeOf SyntaxTree.isNameType read) ∧
      '\r' ∉ Sample.text.toList ∧
      ∃ found,
        Sample.survey ["a.cs", "./a.cs"] = .ok found ∧
          found.findings.map Finding.suggestion? =
            [some ⟨6, 11, "Été"⟩, some ⟨18, 21, "_baz"⟩, some ⟨34, 37, "Bar"⟩,
              some ⟨6, 11, "Été"⟩, some ⟨18, 21, "_baz"⟩, some ⟨34, 37, "Bar"⟩] ∧
          ∃ store outcome edits content,
            fixFiles Sample.world { fix := true } found = (store, .ok outcome) ∧
              store.atNames? ["a.cs"] = some (.file (.ok content)) ∧
              IsFixed Sample.world found ["a.cs"] Sample.text.toList edits content ∧
              Edit.Rewrites 0 (Utf8.encode Sample.text.toList) edits content := by
  have standard : ∀ rule ∈ Sample.catalogue.rules, rule = Rule.naming :=
    fun rule member => List.mem_singleton.mp member
  have free : '\r' ∉ Sample.text.toList := by
    decide +kernel
  have ends :
      (Sample.survey ["a.cs", "./a.cs"]).toOption.map
          (fun found => found.findings.map Finding.suggestion?) =
        some [some ⟨6, 11, "Été"⟩, some ⟨18, 21, "_baz"⟩, some ⟨34, 37, "Bar"⟩,
          some ⟨6, 11, "Été"⟩, some ⟨18, 21, "_baz"⟩, some ⟨34, 37, "Bar"⟩] := by
    decide +kernel
  refine ⟨standard, Sample.isTreeOf_parse, free, ?_⟩
  cases surveyed : Sample.survey ["a.cs", "./a.cs"] with
  | error fault =>
      rw [surveyed] at ends
      contradiction
  | ok found =>
      rw [surveyed] at ends
      rcases fixFiles_rewrites standard Sample.isTreeOf_parse surveyed
          (show ({ fix := true } : Options).fix = true from rfl) with
        ⟨store, outcome, fixed, files⟩
      rcases files ["a.cs"] Sample.text.toList rfl with ⟨edits, content, held, isFixed, exact, -⟩
      exact ⟨found, rfl, Option.some_inj.mp ends, store, outcome, edits, content, fixed, held,
        isFixed, exact free⟩

/-- The carriage return of a file is lost when its name is mended. -/
theorem fixFiles_lineEnd :
    Sample.world.store.atNames? ["b.cs"] =
        some (.file (.ok (Utf8.encode "class foo \x7b \x7d\r\n".toList))) ∧
      (Sample.survey ["b.cs"]).toOption.map
          (fun found => found.findings.map Finding.suggestion?) =
        some [some ⟨6, 9, "Foo"⟩] ∧
      (Sample.survey ["b.cs"]).toOption.map
          (fun found =>
            ((fixFiles Sample.world { fix := true } found).1.atNames? ["b.cs"]).bind
              Entry.content?) =
        some (some (.ok (Utf8.encode "class Foo \x7b \x7d\n".toList))) :=
  ⟨rfl, by decide +kernel, by decide +kernel⟩

end CommandLine

end CasingLint
