import TsOutline.Proofs.Grouping
import TsOutline.Proofs.Project.Files

/-!
# Projects as Unions of Files

The analysis of a project is put together from the outlines of its files, and each file counts for
itself. The files are listed once each and every record carries the path of its file, so the records of
a project fall into one block per file; a file that changes, or cannot be read any more, takes nothing
with it but its own block.
-/

namespace TsOutline

/-! ## §1 Unions -/

/-- **An analysis that is the disjoint union of its files.** -/
structure Analysis.IsUnion (w : World) (c : Config) (r : Analysis) : Prop where
  nodup : r.files.Nodup
  /-- File after file, the callables of those that have an outline. -/
  functions : r.functions = r.files.flatMap fun f => (w.recordsOf c f).functions
  /-- The types likewise, if they are collected at all. -/
  types : r.types = if c.includeTypes then r.files.flatMap fun f => (w.recordsOf c f).types else []
  failed : r.failedFiles = r.files.filter (w.fails c)
  /-- A file is skipped for its own bytes, or because every file is. -/
  reasons : ∀ path ∈ r.files, ∃ p bytes, Discovery.IsFileAt w.fs path p bytes ∧
    (w.fails c path = true ↔ (Text.decode bytes).isOk = false ∨ c.typeDepth < 0)
  /-- The groups of the callables are the callables of the files that have some. -/
  groups : groupBy (·.filePath) r.functions =
    (r.files.filter fun f => !(w.recordsOf c f).functions.isEmpty).map
      fun f => (f, (w.recordsOf c f).functions)

/-- Two analyses that differ in one file at most. -/
structure Analysis.AgreeExcept (path : String) (r r' : Analysis) : Prop where
  root : r'.root = r.root
  files : r'.files = r.files
  functions : r'.functions.filter (fun f => f.filePath ≠ path) =
    r.functions.filter (fun f => f.filePath ≠ path)
  types : r'.types.filter (fun t => t.filePath ≠ path) =
    r.types.filter (fun t => t.filePath ≠ path)
  failed : r'.failedFiles.filter (· ≠ path) = r.failedFiles.filter (· ≠ path)

/-! ## §2 Other bytes in one file -/

/-- The world after other bytes were written to the file at a place. -/
def World.rewrite (w : World) (q : Place) (bytes : ByteArray) : World :=
  { w with fs := { w.fs with root := w.fs.root.put (.file bytes) q } }

namespace Discovery

variable {w : World} {q : Place} {old : ByteArray}

/-- Other bytes in one file leave the files where they were. -/
theorem folderOf_rewrite (hq : w.fs.root.at? q = some (.file old)) (bytes : ByteArray)
    {root : String} {place : Place} {folder : Entry}
    (hroot : folderOf w.fs root = .ok (place, folder)) :
    ∃ folder', folderOf (w.rewrite q bytes).fs root = .ok (place, folder') ∧
      folder'.places = folder.places := by
  obtain ⟨hresolve, hat, hfolder⟩ := folderOf_eq_ok_iff.mp hroot
  cases folder with
  | file b => cases hfolder
  | folder es =>
    obtain ⟨es', hat', hplaces⟩ := Entry.exists_folder_put hq hat bytes
    exact ⟨.folder es', folderOf_eq_ok_iff.mpr ⟨hresolve, hat', rfl⟩, hplaces⟩

theorem IsFileAt.rewrite (hq : w.fs.root.at? q = some (.file old)) (new : ByteArray)
    {path : String} {p : Place} {bytes : ByteArray} (h : IsFileAt w.fs path p bytes)
    (hne : p ≠ q) : IsFileAt (w.rewrite q new).fs path p bytes :=
  { h with file := Entry.at?_put_of_ne hq h.file hne new }

end Discovery

theorem World.rewrite_wellFormed {w : World} (hfs : w.fs.WellFormed) {q : Place} {old : ByteArray}
    (hq : w.fs.root.at? q = some (.file old)) (bytes : ByteArray) :
    (w.rewrite q bytes).fs.WellFormed where
  root := hfs.root.put hq
  cwd := hfs.cwd
  lookup := by
    intro place e hat
    -- something was there before, and could be looked up
    have hbefore : (w.fs.root.at? place).isSome = true :=
      (Entry.isSome_at?_put hq place).symm.trans (Option.isSome_of_eq_some hat)
    obtain ⟨c, hc⟩ := Option.isSome_iff_exists.mp hbefore
    exact hfs.lookup place c hc

/-! ## §3 Unions over the same files -/

namespace Analysis

variable {w w' : World} {c : Config} {r r' : Analysis}

/-- The analysis of files that are listed once each is a union. -/
theorem isUnion_ofFiles {files : List String} (root : String) (hnodup : files.Nodup)
    (hfiles : ∀ path ∈ files, ∃ p bytes, Discovery.IsFileAt w.fs path p bytes) :
    (ofFiles w c root files).IsUnion w c where
  nodup := hnodup
  functions := rfl
  types := rfl
  failed := rfl
  reasons := by
    intro path hpath
    obtain ⟨p, bytes, h⟩ := hfiles path hpath
    exact ⟨p, bytes, h, World.fails_iff h⟩
  groups := by
    apply groupBy_flatMap hnodup
    intro path hpath f hf
    obtain ⟨p, bytes, h⟩ := hfiles path hpath
    exact (World.recordsOf_stamped h c).1 f hf

/-- The records of every file carry its path. -/
theorem IsUnion.stamped (hr : r.IsUnion w c) {path : String} (hpath : path ∈ r.files) :
    (∀ f ∈ (w.recordsOf c path).functions, f.filePath = path) ∧
      ∀ t ∈ (w.recordsOf c path).types, t.filePath = path := by
  obtain ⟨p, bytes, h, _⟩ := hr.reasons path hpath
  exact World.recordsOf_stamped h c

/-- Unions over the same files agree except in the one whose outline differs. -/
theorem agreeExcept_of_isUnion {path : String} (hr : r.IsUnion w c) (hr' : r'.IsUnion w' c)
    (hroot : r'.root = r.root) (hfiles : r'.files = r.files)
    (hsame : ∀ f ∈ r.files, f ≠ path → w'.outlineUnder c f = w.outlineUnder c f) :
    AgreeExcept path r r' where
  root := hroot
  files := hfiles
  functions := by
    rw [hr.functions, hr'.functions, hfiles]
    apply filter_flatMap_congr FunctionSignature.filePath
    · exact fun f hf => (hr.stamped hf).1
    · exact fun f hf => (hr'.stamped (hfiles ▸ hf)).1
    · intro f hf hne
      rw [World.recordsOf, hsame f hf hne, World.recordsOf]
  types := by
    rw [hr.types, hr'.types, hfiles]
    split
    · apply filter_flatMap_congr TypeSignature.filePath
      · exact fun f hf => (hr.stamped hf).2
      · exact fun f hf => (hr'.stamped (hfiles ▸ hf)).2
      · intro f hf hne
        rw [World.recordsOf, hsame f hf hne, World.recordsOf]
    · rfl
  failed := by
    rw [hr.failed, hr'.failed, hfiles, List.filter_filter, List.filter_filter]
    apply List.filter_congr
    intro f hf
    by_cases hne : f = path
    · simp [hne]
    · simp [World.fails, hsame f hf hne]

end Analysis

/-! ## §4 Whole projects -/

/-- Below an existing root, with a blacklist that can be compiled, there is an analysis, and it is a
    union of the discovered files. -/
theorem Analyzer.analyze_isUnion {w : World} (hfs : w.fs.WellFormed) {c : Config} {a : Analyzer}
    (ha : a.settings = .ofConfig c) {root : String} {place : Place} {folder : Entry}
    (hroot : Discovery.folderOf w.fs root = .ok (place, folder)) {spec : Exclusion.Spec}
    (hspec : Exclusion.build c.blacklist = .ok spec) :
    ∃ p, a.analyze w (some root) = .ok p ∧ p.analysis.IsUnion w c ∧
      p.analysis.root = Path.normalText root ∧
      p.analysis.files = sorted (Discovery.keptFiles spec place folder) := by
  obtain ⟨_, hat, _⟩ := Discovery.folderOf_eq_ok_iff.mp hroot
  have hdiscover : Discovery.discover w.fs root c.blacklist =
      .ok (sorted (Discovery.keptFiles spec place folder)) := by
    rw [Discovery.discover_of_folderOf hroot, Discovery.discoverAt, hspec]
  -- the analysis keeps the normal form of the root, and discovers below that
  rw [← Discovery.discover_normalText] at hdiscover
  obtain ⟨p, hp, _, hanalysis⟩ := analyze_of_discover_ok ha (some root) rfl hdiscover
  refine ⟨p, hp, ?_, by rw [hanalysis]; rfl, by rw [hanalysis]; rfl⟩
  rw [hanalysis]
  apply Analysis.isUnion_ofFiles
  · exact nodup_sorted (Discovery.keptFiles_nodup hfs hat)
  · intro path hpath
    exact Discovery.exists_isFileAt_of_mem_keptFiles hfs hat (mem_sorted.mp hpath)

/-- **A project analysis is the disjoint union of the analyses of its files.** Below an existing root,
    an analysis succeeds whenever the files can be discovered, which only a blacklist can prevent. It
    lists the discovered files and is the union of their outlines; and after other bytes were written
    to one file anywhere, it is still a union, over the same files, and agrees with what it was before
    in everything that does not carry the path of that file. -/
theorem project_is_union_of_files (w : World) (hfs : w.fs.WellFormed) (c : Config) (a : Analyzer)
    (ha : a.settings = .ofConfig c) (root : String) (place : Place) (folder : Entry)
    (hroot : Discovery.folderOf w.fs root = .ok (place, folder)) :
    (∀ fault, Exclusion.build c.blacklist = .error fault →
      Discovery.discover w.fs root c.blacklist = .error (.badRange fault) ∧
        a.analyze w (some root) = .error (.discovery (.badRange fault))) ∧
    ∀ spec, Exclusion.build c.blacklist = .ok spec →
      ∃ p, a.analyze w (some root) = .ok p ∧
        Discovery.discover w.fs root c.blacklist = .ok p.analysis.files ∧
        p.analysis.IsUnion w c ∧
        ∀ q old bytes, w.fs.root.at? q = some (.file old) →
          (w.rewrite q bytes).fs.root.at? q = some (.file bytes) ∧
          ∃ p', a.analyze (w.rewrite q bytes) (some root) = .ok p' ∧
            p'.analysis.IsUnion (w.rewrite q bytes) c ∧
            Analysis.AgreeExcept (Path.placeText q) p.analysis p'.analysis := by
  have hdiscover := Discovery.discover_of_folderOf hroot c.blacklist
  constructor
  · intro fault hfault
    have herror : Discovery.discover w.fs root c.blacklist = .error (.badRange fault) := by
      rw [hdiscover, Discovery.discoverAt, hfault]
    refine ⟨herror, Analyzer.analyze_of_discover_error ha (some root) rfl ?_⟩
    rw [Discovery.discover_normalText, herror]
  · intro spec hspec
    obtain ⟨p, hp, hunion, hproot, hfiles⟩ := Analyzer.analyze_isUnion hfs ha hroot hspec
    have hok : Discovery.discover w.fs root c.blacklist = .ok p.analysis.files := by
      rw [hdiscover, Discovery.discoverAt, hspec, hfiles]
    refine ⟨p, hp, hok, hunion, ?_⟩
    intro q old bytes hq
    refine ⟨Entry.at?_put_self hq, ?_⟩
    obtain ⟨folder', hroot', hplaces⟩ := Discovery.folderOf_rewrite hq bytes hroot
    obtain ⟨p', hp', hunion', hproot', hfiles'⟩ :=
      Analyzer.analyze_isUnion (w.rewrite_wellFormed hfs hq bytes) ha hroot' hspec
    -- which files are kept depends on the places below the root only
    have hsameFiles : p'.analysis.files = p.analysis.files := by
      rw [hfiles, hfiles', Discovery.keptFiles_eq, Discovery.keptFiles_eq, hplaces]
    refine ⟨p', hp', hunion', Analysis.agreeExcept_of_isUnion hunion hunion'
      (hproot'.trans hproot.symm) hsameFiles ?_⟩
    -- a file under another path is at another place, where the bytes are what they were
    intro path hpath hne
    obtain ⟨place, content, hfile, _⟩ := hunion.reasons path hpath
    have hother : place ≠ q := by
      rintro rfl
      exact hne hfile.path
    exact World.outlineUnder_congr hfile (hfile.rewrite hq bytes hother) rfl

/-- The tree of `function f() {}`. -/
def functionProgram : Node :=
  .mk .program true none "function f() \x7b\x7d"
    [.mk .functionDeclaration true none "function f() \x7b\x7d"
      [.mk (.other "function") false none "function" [],
       .mk .identifier true (some .name) "f" [],
       .mk .formalParameters true (some .parameters) "()" [],
       .mk .statementBlock true (some .body) "\x7b\x7d" []]]

/-- A folder of two files: a function, and a byte that is no text. -/
def halfReadableFolder : Entry :=
  .folder [("a.ts", .file "function f() \x7b\x7d".toUTF8), ("b.ts", .file ⟨#[255]⟩)]

/-- A project in that folder. -/
def halfReadable : World where
  fs := ⟨.folder [("p", halfReadableFolder)], []⟩
  parse := fun _ source => if source = "" then .mk .program true none "" [] else functionProgram
  readData := fun _ => none

theorem halfReadable_wellFormed : halfReadable.fs.WellFormed := by
  decide

theorem halfReadable_files : ∃ spec, Exclusion.build [] = .ok spec ∧
    Discovery.keptFiles spec ["p"] halfReadableFolder = ["/p/a.ts", "/p/b.ts"] := by
  have hkept : (Exclusion.build []).toOption.map
      (fun spec => Discovery.keptFiles spec ["p"] halfReadableFolder) =
        some ["/p/a.ts", "/p/b.ts"] := by
    decide +kernel
  cases hbuild : Exclusion.build [] with
  | error fault =>
    rw [hbuild] at hkept
    cases hkept
  | ok spec =>
    rw [hbuild] at hkept
    exact ⟨spec, rfl, Option.some.inj hkept⟩

/-- The function is listed whether the other file can be read or not. -/
theorem halfReadable_union :
    halfReadable.fs.WellFormed ∧
    ∃ p p', (Analyzer.ofConfig .default true).analyze halfReadable (some "p/.") = .ok p ∧
      p.analysis.files = ["/p/a.ts", "/p/b.ts"] ∧
      p.analysis.functions.map (·.name) = ["f"] ∧ p.analysis.failedFiles = ["/p/b.ts"] ∧
      (Analyzer.ofConfig .default true).analyze (halfReadable.rewrite ["p", "b.ts"] "".toUTF8)
        (some "p/.") = .ok p' ∧
      p'.analysis.failedFiles = [] ∧ Analysis.AgreeExcept "/p/b.ts" p.analysis p'.analysis := by
  refine ⟨halfReadable_wellFormed, ?_⟩
  obtain ⟨spec, hspec, hkept⟩ := halfReadable_files
  have hroot : Discovery.folderOf halfReadable.fs "p/." = .ok (["p"], halfReadableFolder) :=
    Discovery.folderOf_eq_ok_iff.mpr ⟨by decide +kernel, by rfl, rfl⟩
  obtain ⟨p, hp, hfiles, hunion, hchange⟩ := (project_is_union_of_files halfReadable
    halfReadable_wellFormed .default (.ofConfig .default true) rfl "p/." _ _ hroot).2 spec hspec
  obtain ⟨_, p', hp', hunion', hagree⟩ := hchange ["p", "b.ts"] ⟨#[255]⟩ "".toUTF8 rfl
  have hpaths : p.analysis.files = ["/p/a.ts", "/p/b.ts"] := by
    have hdiscover : Discovery.discover halfReadable.fs "p/." Config.default.blacklist =
        .ok (sorted (Discovery.keptFiles spec ["p"] halfReadableFolder)) := by
      rw [Discovery.discover_of_folderOf hroot, Discovery.discoverAt]
      rw [show Config.default.blacklist = [] from rfl, hspec]
    rw [Except.ok.inj (hfiles.symm.trans hdiscover), hkept]
    exact List.mergeSort_of_pairwise (by decide)
  refine ⟨p, p', hp, hpaths, ?_, ?_, hp', ?_, hagree⟩
  · rw [hunion.functions, hpaths]
    decide +kernel
  · rw [hunion.failed, hpaths]
    decide +kernel
  · rw [hunion'.failed, hagree.files, hpaths]
    decide +kernel

end TsOutline
