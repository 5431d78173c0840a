import CasingLint.CommandLine.Run
import CasingLint.Proofs.FirstOccurrence
import CasingLint.Proofs.Fix.Files
import CasingLint.Proofs.Store

/-!
# Fixing files one by one

The files of findings are fixed in the order in which findings first name them.  Each is written
as a whole or not at all, and the first one that cannot be fixed or written ends the work.  So
after any run, also one that ends early, every file has its old content or the complete result of
its own edits: those before the failing one are done, that one and those after it are untouched.
-/

namespace CasingLint

open CasingLint.Text CasingLint.Outcome

/-! ## The fix for a file -/

namespace Fix

section Files

variable (directory : String) (texts : Report.Texts) (findings : List Finding)

/-- The text of a file before and after all edits of its own findings. -/
structure Mends (file before after : String) : Prop where
  known : Report.textOf? texts (Path.resolve directory file) = some before
  applied : Edit.applyAll before (Finding.collectEdits (findings.filter (·.file == file))) =
    .ok after

/-- Why a file cannot be fixed: its text is not known, or its edits cannot be applied to it. -/
inductive IsBarred (file : String) : Fault → Prop where
  | uncached (unknown : Report.textOf? texts (Path.resolve directory file) = none) :
      IsBarred file (.uncached (Path.resolve directory file))
  | edit {before : String} {fault : Edit.Fault}
      (known : Report.textOf? texts (Path.resolve directory file) = some before)
      (refused : Edit.applyAll before
        (Finding.collectEdits (findings.filter (·.file == file))) = .error fault) :
      IsBarred file (.edit fault)

/-- Files that can be fixed, with a fix for each of them whose text changes, in their order. -/
inductive AreFixed : List String → List Fix → Prop where
  | none : AreFixed [] []
  | same {file text : String} {rest : List String} {fixes : List Fix}
      (mends : Mends directory texts findings file text text) (later : AreFixed rest fixes) :
      AreFixed (file :: rest) fixes
  | changed {fix : Fix} {rest : List String} {fixes : List Fix}
      (mends : Mends directory texts findings fix.file fix.before fix.after)
      (differs : fix.after ≠ fix.before) (later : AreFixed rest fixes) :
      AreFixed (fix.file :: rest) (fix :: fixes)

end Files

variable {directory : String} {texts : Report.Texts} {findings : List Finding}
  {file : String} {files done : List String} {fixes front back : List Fix} {fix : Fix}

theorem ofFile_cases (directory : String) (texts : Report.Texts) (findings : List Finding)
    (file : String) :
    (∃ before after, Mends directory texts findings file before after ∧
      ofFile directory texts findings file =
        .ok (if after = before then none
          else some ⟨file, (findings.filter (·.file == file)).length, before, after⟩)) ∨
      ∃ fault, IsBarred directory texts findings file fault ∧
        ofFile directory texts findings file = .error fault := by
  cases known : Report.textOf? texts (Path.resolve directory file) with
  | none =>
      refine Or.inr ⟨_, .uncached known, ?_⟩
      rw [ofFile, known]
      rfl
  | some before =>
      cases applied : Edit.applyAll before
          (Finding.collectEdits (findings.filter (·.file == file))) with
      | ok after => exact Or.inl ⟨before, after, ⟨known, applied⟩, ofFile_eq known applied⟩
      | error fault =>
          refine Or.inr ⟨_, .edit known applied, ?_⟩
          rw [ofFile, known]
          simp only [applied]
          rfl

theorem Mends.areFixed_cons {before after : String}
    (mends : Mends directory texts findings file before after)
    (fixed : AreFixed directory texts findings files fixes) :
    AreFixed directory texts findings (file :: files)
      ((if after = before then Option.none
        else some ⟨file, (findings.filter (·.file == file)).length, before, after⟩).toList ++
        fixes) := by
  split
  · rename_i same
    subst same
    exact .same mends fixed
  · rename_i differs
    exact @AreFixed.changed _ _ _ ⟨file, _, before, after⟩ _ _ mends differs fixed

/-- The work on files ends with fixes for all of them, or at the first that cannot be fixed. -/
theorem inOrder_cases (directory : String) (texts : Report.Texts) (findings : List Finding)
    (files : List String) :
    (∃ fixes, AreFixed directory texts findings files fixes ∧
      inOrder directory texts findings files = (fixes, none)) ∨
      ∃ done failing later fixes fault,
        files = done ++ failing :: later ∧ AreFixed directory texts findings done fixes ∧
          IsBarred directory texts findings failing fault ∧
          inOrder directory texts findings files = (fixes, some fault) := by
  induction files with
  | nil => exact Or.inl ⟨[], .none, rfl⟩
  | cons file rest ih =>
      rcases ofFile_cases directory texts findings file with
        ⟨before, after, mends, first⟩ | ⟨fault, barred, first⟩
      · rcases ih with
          ⟨fixes, fixed, ends⟩ | ⟨done, failing, later, fixes, fault, rfl, fixed, barred, ends⟩
        · refine Or.inl ⟨_, mends.areFixed_cons fixed, ?_⟩
          rw [inOrder, first]
          simp only [ends]
        · refine Or.inr
            ⟨file :: done, failing, later, _, fault, rfl, mends.areFixed_cons fixed, barred, ?_⟩
          rw [inOrder, first]
          simp only [ends]
      · refine Or.inr ⟨[], file, rest, [], fault, rfl, .none, barred, ?_⟩
        rw [inOrder, first]

/-- The files before one that has a fix are those of the fixes before it. -/
theorem AreFixed.split (fixed : AreFixed directory texts findings files (front ++ fix :: back)) :
    ∃ done later, files = done ++ fix.file :: later ∧
      AreFixed directory texts findings done front ∧
      Mends directory texts findings fix.file fix.before fix.after ∧ fix.after ≠ fix.before := by
  generalize split : front ++ fix :: back = fixes at fixed
  induction fixed generalizing front with
  | none => exact absurd split (by simp)
  | @same file text rest fixes mends later ih =>
      rcases ih split with ⟨done, others, rfl, fixed, own⟩
      exact ⟨file :: done, others, rfl, .same mends fixed, own⟩
  | @changed first rest fixes mends differs later ih =>
      cases front with
      | nil =>
          cases split
          exact ⟨[], rest, rfl, .none, mends, differs⟩
      | cons other front =>
          cases split
          rcases ih rfl with ⟨done, others, rfl, fixed, own⟩
          exact ⟨first.file :: done, others, rfl, .changed mends differs fixed, own⟩

theorem AreFixed.sublist (fixed : AreFixed directory texts findings files fixes) :
    (fixes.map Fix.file).Sublist files := by
  induction fixed with
  | none => exact .slnil
  | same mends later ih => exact ih.cons _
  | changed mends differs later ih => exact ih.cons_cons _

theorem AreFixed.mends (fixed : AreFixed directory texts findings files fixes)
    (member : fix ∈ fixes) :
    fix.file ∈ files ∧ Mends directory texts findings fix.file fix.before fix.after := by
  rcases List.append_of_mem member with ⟨front, back, rfl⟩
  rcases fixed.split with ⟨done, later, rfl, -, mends, -⟩
  exact ⟨List.mem_append_right done List.mem_cons_self, mends⟩

end Fix

namespace CommandLine

/-! ## Writing -/

/-- Do the two stores hold the same at the end of a way, which may be nothing or a directory? -/
def IsKept (store written : Store) (names : List String) : Prop :=
  (written.atNames? names).map Entry.content? = (store.atNames? names).map Entry.content?

/-- The new texts of the fixes stand in their files, and all else is as it was. -/
structure HoldsFixes (store : Store) (fixes : List Fix) (written : Store) : Prop where
  directory : written.directory = store.directory
  changed : ∀ fix ∈ fixes, written.atNames? (Path.names store.directory fix.file) =
    some (.file (.ok (Utf8.encode fix.after.toList)))
  kept : ∀ names, (∀ fix ∈ fixes, Path.names store.directory fix.file ≠ names) →
    IsKept store written names

section Writing

variable {store changed written : Store} {fix : Fix} {fixes : List Fix}

theorem HoldsFixes.nil (store : Store) :
    HoldsFixes store [] store :=
  ⟨rfl, List.forall_mem_nil _, fun _ _ => rfl⟩

/-- One file is written as a whole. -/
theorem holdsFixes_singleton (wrote : store.writeText fix.file fix.after = .ok changed) :
    HoldsFixes store [fix] changed := by
  rcases Store.writeText_eq_ok_iff.mp wrote with ⟨names, leads, admits, -, rfl⟩
  have place := Store.eq_names_of_way leads
  have content := admits.map_content?_putFile (Utf8.encode fix.after.toList)
  refine ⟨rfl, ?_, ?_⟩
  · intro other member
    cases List.mem_singleton.mp member
    rw [← place, ← Store.map_content?_eq_iff, content, if_pos rfl]
  · intro others avoid
    rw [IsKept, content, if_neg]
    rintro rfl
    exact avoid fix List.mem_cons_self place.symm

/-- Writing other files leaves a file that was written before them. -/
theorem HoldsFixes.cons (first : HoldsFixes store [fix] changed)
    (later : HoldsFixes changed fixes written)
    (apart : ∀ other ∈ fixes,
      Path.names store.directory other.file ≠ Path.names store.directory fix.file) :
    HoldsFixes store (fix :: fixes) written := by
  have kept := later.kept
  have changedLater := later.changed
  rw [first.directory] at kept changedLater
  refine ⟨later.directory.trans first.directory, ?_, ?_⟩
  · refine List.forall_mem_cons.mpr ⟨?_, changedLater⟩
    have stays := kept _ apart
    rw [IsKept, first.changed fix List.mem_cons_self] at stays
    exact Store.map_content?_eq_iff.mp stays
  · intro names avoid
    rcases List.forall_mem_cons.mp avoid with ⟨avoidFirst, avoidLater⟩
    exact (kept names avoidLater).trans
      (first.kept names (List.forall_mem_singleton.mpr avoidFirst))

/-- Writing fixes goes on to the end, or up to the first that the file system refuses. -/
theorem writeFixes_cases (store : Store) {fixes : List Fix}
    (apart : fixes.Pairwise fun left right =>
      Path.names store.directory left.file ≠ Path.names store.directory right.file) :
    (∃ written, writeFixes store fixes = (written, none) ∧ HoldsFixes store fixes written) ∨
      ∃ front fix back written fault,
        fixes = front ++ fix :: back ∧ writeFixes store fixes = (written, some fault) ∧
          HoldsFixes store front written ∧ written.writeText fix.file fix.after = .error fault := by
  induction fixes generalizing store with
  | nil => exact Or.inl ⟨store, rfl, .nil store⟩
  | cons fix rest ih =>
      rcases List.pairwise_cons.mp apart with ⟨apartFirst, apartRest⟩
      cases wrote : store.writeText fix.file fix.after with
      | error fault =>
          refine Or.inr ⟨[], fix, rest, store, fault, rfl, ?_, .nil store, wrote⟩
          rw [writeFixes, wrote]
      | ok changed =>
          have first := holdsFixes_singleton wrote
          have step : writeFixes store (fix :: rest) = writeFixes changed rest := by
            rw [writeFixes, wrote]
          rw [← first.directory] at apartRest
          rw [step]
          rcases ih changed apartRest with
            ⟨written, ends, later⟩ |
              ⟨front, failing, back, written, fault, rfl, ends, later, refused⟩
          · exact Or.inl ⟨written, ends,
              first.cons later fun other member => (apartFirst other member).symm⟩
          · refine Or.inr
              ⟨fix :: front, failing, back, written, fault, rfl, ends, first.cons later ?_, refused⟩
            intro other member
            exact (apartFirst other (List.mem_append_left _ member)).symm

end Writing

/-! ## Whole runs -/

section Runs

variable (store : Store) (texts : Report.Texts) (findings : List Finding) (written : Store)

/-- Of the files that findings name, in their order, some are done and the rest is untouched. -/
structure IsMendedUpTo (done rest : List String) (fixes : List Fix) : Prop where
  order : Fix.files findings = done ++ rest
  fixed : Fix.AreFixed store.directory texts findings done fixes
  holds : HoldsFixes store fixes written
  untouched : ∀ file ∈ rest, IsKept store written (Path.names store.directory file)

/--
How fixing files ends, and how it would end without writing: with all files done, at a file that
cannot be fixed, or at one that the file system refuses to write.
-/
inductive MendingEnds : Except Fault (List Fix) → Except Fault (List Fix) → Prop where
  | all {fixes : List Fix}
      (mended : IsMendedUpTo store texts findings written (Fix.files findings) [] fixes) :
      MendingEnds (.ok fixes) (.ok fixes)
  | barred {done later : List String} {failing : String} {fixes : List Fix} {fault : Fault}
      (mended : IsMendedUpTo store texts findings written done (failing :: later) fixes)
      (isBarred : Fix.IsBarred store.directory texts findings failing fault) :
      MendingEnds (.error fault) (.error fault)
  | refused {done later : List String} {failing before after : String} {fixes : List Fix}
      {fault : Fault} {shown : Except Fault (List Fix)}
      (mended : IsMendedUpTo store texts findings written done (failing :: later) fixes)
      (mends : Fix.Mends store.directory texts findings failing before after)
      (differs : after ≠ before) (refused : written.writeText failing after = .error fault) :
      MendingEnds (.error fault) shown

end Runs

section Mending

variable {store written : Store} {texts : Report.Texts} {findings : List Finding}
  {done rest : List String} {fixes : List Fix}

/-- Do different paths of findings lead to different files? -/
def ArePathsApart (directory : String) (findings : List Finding) : Prop :=
  ∀ left ∈ findings, ∀ right ∈ findings,
    Path.resolve directory left.file = Path.resolve directory right.file → left.file = right.file

instance (directory : String) (findings : List Finding) :
    Decidable (ArePathsApart directory findings) :=
  inferInstanceAs (Decidable (∀ left ∈ findings, ∀ right ∈ findings, _ → _))

theorem names_ne_of_ne (apart : ArePathsApart store.directory findings) {left right : String}
    (leftNamed : left ∈ Fix.files findings) (rightNamed : right ∈ Fix.files findings)
    (different : left ≠ right) :
    Path.names store.directory left ≠ Path.names store.directory right := by
  intro same
  rcases Fix.mem_files.mp leftNamed with ⟨leftFinding, leftMember, rfl⟩
  rcases Fix.mem_files.mp rightNamed with ⟨rightFinding, rightMember, rfl⟩
  exact different (apart _ leftMember _ rightMember (congrArg Path.ofNames same))

theorem pairwise_names_ne (apart : ArePathsApart store.directory findings)
    (order : Fix.files findings = done ++ rest)
    (fixed : Fix.AreFixed store.directory texts findings done fixes) :
    fixes.Pairwise fun left right =>
      Path.names store.directory left.file ≠ Path.names store.directory right.file := by
  have front : done.Sublist (Fix.files findings) := order ▸ List.sublist_append_left done rest
  have distinct : (fixes.map Fix.file).Nodup :=
    (fixed.sublist.trans front).nodup (nodup_eraseDups _)
  refine (List.pairwise_map.mp distinct).imp_of_mem fun leftMember rightMember different => ?_
  exact names_ne_of_ne apart (front.mem (fixed.mends leftMember).1)
    (front.mem (fixed.mends rightMember).1) different

/-- What was not yet done is untouched. -/
theorem isMendedUpTo_of_holdsFixes (apart : ArePathsApart store.directory findings)
    (order : Fix.files findings = done ++ rest)
    (fixed : Fix.AreFixed store.directory texts findings done fixes)
    (holds : HoldsFixes store fixes written) :
    IsMendedUpTo store texts findings written done rest fixes := by
  refine ⟨order, fixed, holds, ?_⟩
  intro file waiting
  refine holds.kept _ fun fix member => ?_
  have named := (fixed.mends member).1
  have distinct : (done ++ rest).Nodup := order ▸ nodup_eraseDups _
  refine names_ne_of_ne apart ?_ ?_ ((List.nodup_append.mp distinct).2.2 _ named _ waiting)
  · rw [order]
    exact List.mem_append_left rest named
  · rw [order]
    exact List.mem_append_right done waiting

/-- Where a file cannot be written, those before it are done. -/
theorem mendingEnds_of_refused (apart : ArePathsApart store.directory findings)
    {front back : List Fix} {fix : Fix} {fault : Fault}
    (order : Fix.files findings = done ++ rest)
    (fixed : Fix.AreFixed store.directory texts findings done (front ++ fix :: back))
    (holds : HoldsFixes store front written)
    (refused : written.writeText fix.file fix.after = .error fault)
    (shown : Except Fault (List Fix)) :
    MendingEnds store texts findings written (.error fault) shown := by
  rcases fixed.split with ⟨earlier, later, rfl, fixedEarlier, mends, differs⟩
  rw [List.append_assoc, List.cons_append] at order
  exact .refused (isMendedUpTo_of_holdsFixes apart order fixedEarlier holds) mends differs refused

theorem MendingEnds.exists_isMendedUpTo {result shown : Except Fault (List Fix)}
    (ends : MendingEnds store texts findings written result shown) :
    ∃ done rest fixes, IsMendedUpTo store texts findings written done rest fixes := by
  cases ends with
  | all mended => exact ⟨_, _, _, mended⟩
  | barred mended isBarred => exact ⟨_, _, _, mended⟩
  | refused mended mends differs refused => exact ⟨_, _, _, mended⟩

theorem mendFiles_eq (write : Bool) {fault? refusal? : Option Fault}
    (all : Fix.all store.directory texts findings = (fixes, fault?))
    (wrote : (if write then writeFixes store fixes else (store, none)) = (written, refusal?)) :
    mendFiles store texts findings write =
      (written, match refusal?.or fault? with
        | some fault => .error fault
        | none => .ok fixes) := by
  rw [mendFiles, all]
  dsimp only
  rw [wrote]
  dsimp only
  cases refusal?.or fault? with
  | none => rfl
  | some fault => rfl

/-- How fixing files ends, and how it would end without writing. -/
theorem exists_mendingEnds (apart : ArePathsApart store.directory findings) :
    ∃ written result shown,
      mendFiles store texts findings true = (written, result) ∧
        mendFiles store texts findings false = (store, shown) ∧
        MendingEnds store texts findings written result shown := by
  rcases Fix.inOrder_cases store.directory texts findings (Fix.files findings) with
    ⟨fixes, fixed, all⟩ | ⟨done, failing, later, fixes, fault, order, fixed, barred, all⟩
  · have order : Fix.files findings = Fix.files findings ++ [] := (List.append_nil _).symm
    rcases writeFixes_cases store (pairwise_names_ne apart order fixed) with
      ⟨written, wrote, holds⟩ | ⟨front, fix, back, written, refusal, rfl, wrote, holds, refused⟩
    · exact ⟨written, _, _, mendFiles_eq true all wrote, mendFiles_eq false all rfl,
        .all (isMendedUpTo_of_holdsFixes apart order fixed holds)⟩
    · exact ⟨written, _, _, mendFiles_eq true all wrote, mendFiles_eq false all rfl,
        mendingEnds_of_refused apart order fixed holds refused _⟩
  · rcases writeFixes_cases store (pairwise_names_ne apart order fixed) with
      ⟨written, wrote, holds⟩ | ⟨front, fix, back, written, refusal, rfl, wrote, holds, refused⟩
    · exact ⟨written, _, _, mendFiles_eq true all wrote, mendFiles_eq false all rfl,
        .barred (isMendedUpTo_of_holdsFixes apart order fixed holds) barred⟩
    · exact ⟨written, _, _, mendFiles_eq true all wrote, mendFiles_eq false all rfl,
        mendingEnds_of_refused apart order fixed holds refused _⟩

/--
Whether fixing files ends with a result or with a fault, every file has its old content or the
complete result of its own edits.
-/
theorem mendFiles_isAtomic (apart : ArePathsApart store.directory findings) :
    ∃ written result shown,
      mendFiles store texts findings true = (written, result) ∧
        mendFiles store texts findings false = (store, shown) ∧
        MendingEnds store texts findings written result shown ∧
        ∀ names, IsKept store written names ∨
          ∃ file before after, Fix.Mends store.directory texts findings file before after ∧
            Path.names store.directory file = names ∧
            written.atNames? names = some (.file (.ok (Utf8.encode after.toList))) := by
  rcases exists_mendingEnds apart with ⟨written, result, shown, writing, showing, ends⟩
  refine ⟨written, result, shown, writing, showing, ends, ?_⟩
  intro names
  rcases ends.exists_isMendedUpTo with ⟨done, rest, fixes, mended⟩
  by_cases among : ∃ fix ∈ fixes, Path.names store.directory fix.file = names
  · rcases among with ⟨fix, member, rfl⟩
    exact Or.inr ⟨fix.file, fix.before, fix.after, (mended.fixed.mends member).2, rfl,
      mended.holds.changed fix member⟩
  · refine Or.inl (mended.holds.kept names fun fix member same => ?_)
    exact among ⟨fix, member, same⟩

end Mending

end CommandLine

namespace Sample

/-- The texts of three files. -/
def threeTexts : Report.Texts :=
  [("/a.cs", "class foo"), ("/b.cs", "class bar"), ("/c.cs", "class baz")]

/-- The three files. -/
def threeFiles : Store where
  root := [("a.cs", .file (.ok (Utf8.encode "class foo".toList))),
    ("b.cs", .file (.ok (Utf8.encode "class bar".toList))),
    ("c.cs", .file (.ok (Utf8.encode "class baz".toList)))]

/-- A finding that would put a word in the place of a span. -/
def findingIn (file : String) (start stop : Int) (word : String) : Finding :=
  ⟨"r", "", file, start, stop, .text "warn", some [⟨start, stop, word⟩], none⟩

/-- Findings for the three files in turns, one of them behind the end of its file. -/
def threeFindings : List Finding :=
  [findingIn "a.cs" 6 9 "Foo", findingIn "b.cs" 6 99 "Bar", findingIn "./c.cs" 6 9 "Baz",
    findingIn "a.cs" 6 9 "Foo"]

end Sample

namespace CommandLine

/-- A fault in the second of three files leaves it and the third, and the first is complete. -/
theorem mendFiles_isAtomic_midway :
    ArePathsApart Sample.threeFiles.directory Sample.threeFindings ∧
      ∃ written fault shown,
        mendFiles Sample.threeFiles Sample.threeTexts Sample.threeFindings true =
            (written, .error fault) ∧
          MendingEnds Sample.threeFiles Sample.threeTexts Sample.threeFindings written
            (.error fault) shown ∧
          [["a.cs"], ["b.cs"], ["c.cs"]].map (fun names =>
              (written.atNames? names).bind Entry.content?) =
            [some (.ok (Utf8.encode "class Foo".toList)),
              some (.ok (Utf8.encode "class bar".toList)),
              some (.ok (Utf8.encode "class baz".toList))] := by
  have apart : ArePathsApart Sample.threeFiles.directory Sample.threeFindings := by
    decide +kernel
  have fails :
      (mendFiles Sample.threeFiles Sample.threeTexts Sample.threeFindings true).2.isOk = false := by
    decide +kernel
  have contents :
      [["a.cs"], ["b.cs"], ["c.cs"]].map (fun names =>
          ((mendFiles Sample.threeFiles Sample.threeTexts Sample.threeFindings true).1.atNames?
            names).bind Entry.content?) =
        [some (.ok (Utf8.encode "class Foo".toList)),
          some (.ok (Utf8.encode "class bar".toList)),
          some (.ok (Utf8.encode "class baz".toList))] := by
    decide +kernel
  rcases @mendFiles_isAtomic Sample.threeFiles Sample.threeTexts _ apart with
    ⟨written, result, shown, writing, -, ends, -⟩
  rw [writing] at fails contents
  cases result with
  | ok fixes => contradiction
  | error fault => exact ⟨apart, written, fault, shown, writing, ends, contents⟩

end CommandLine

end CasingLint
