import TsOutline.Proofs.Accounting.Project
import TsOutline.Proofs.Discovery
import TsOutline.Proofs.Project.Union
import TsOutline.Proofs.Report.Lines

/-!
# Headings of a Project

The report of a project heads the section of a file with its path as seen from the root, which it works
out from the text of both. Discovery knows the same file by its place below the root, and that is what
exclusions are compared with. The two agree, however the root is written (`headings_are_places`): the
text of a root may be relative and go up and down, but it means the place that was looked at, and the
way from there to a file only goes down.
-/

namespace TsOutline

/-! ## §1 Ways down -/

namespace Path

variable {cwd place below : Place} {root : String}

theorem afterCommon_append (start below : Place) :
    afterCommon start (start ++ below) = ([], below) := by
  induction start with
  | nil => cases below <;> rfl
  | cons name rest ih => rw [List.cons_append, afterCommon, if_pos rfl, ih]

/-- The way to a place below only goes down. -/
theorem wayTo_append (start below : Place) : wayTo start (start ++ below) = below := by
  rw [wayTo, afterCommon_append]
  rfl

/-- **A file below a root** is reached from the root by its place below. -/
theorem relative?_placeText (hroot : placeOf cwd root = place)
    (hplace : IsPlace (place ++ below)) (hne : below ≠ []) :
    relative? cwd (placeText (place ++ below)) root = some (Text.join "/" below) := by
  rw [relative?, if_neg (placeText_ne_empty _), hroot, placeOf_placeText cwd hplace]
  dsimp only
  rw [wayTo_append, if_neg (by simpa using hne)]

end Path

/-! ## §2 Files and their records -/

namespace Discovery.IsSourceAt

variable {fs : FileSystem} {place below : Place} {es : List (String × Entry)}

theorem isPlace_below (h : IsSourceAt fs place below) (hfs : fs.WellFormed) : Path.IsPlace below :=
  fun name hname => h.isPlace hfs name (List.mem_append_right _ hname)

/-- The text that is compared with the exclusions tells the place. -/
theorem pieces_relativeText (h : IsSourceAt fs place below) (hfs : fs.WellFormed)
    (hfolder : fs.root.at? place = some (.folder es)) :
    Text.pieces '/' (relativeText below) = below := by
  apply Text.pieces_join (h.ne_nil hfolder)
  exact fun name hname => (h.isPlace_below hfs name hname).noSlash

/-- The way from the root to the file is that text. -/
theorem relative?_root (h : IsSourceAt fs place below) (hfs : fs.WellFormed)
    (hfolder : fs.root.at? place = some (.folder es)) {root : String}
    (hroot : Path.placeOf fs.cwd root = place) :
    Path.relative? fs.cwd (Path.placeText (place ++ below)) root = some (relativeText below) :=
  Path.relative?_placeText hroot (h.isPlace hfs) (h.ne_nil hfolder)

end Discovery.IsSourceAt

namespace Analysis

/-- The records of an analysis carry the paths of its files, where these are in their normal form. -/
theorem filePath_mem_ofFiles (w : World) (c : Config) (root : String) {files : List String}
    (hnormal : ∀ path ∈ files, Path.normalText path = path) :
    (∀ f ∈ (ofFiles w c root files).functions, f.filePath ∈ files) ∧
      ∀ t ∈ (ofFiles w c root files).types, t.filePath ∈ files := by
  obtain ⟨hfunctions, htypes⟩ := filePath_ofFiles w c root files
  constructor
  · intro f hf
    obtain ⟨path, hpath, -, heq⟩ := hfunctions f hf
    rwa [heq, hnormal path hpath]
  · intro t ht
    obtain ⟨path, hpath, -, heq⟩ := htypes t ht
    rwa [heq, hnormal path hpath]

end Analysis

/-! ## §3 The document -/

namespace Report

variable {cwd : Place} {root : String} {functions : List FunctionSignature}
  {types : List TypeSignature}

/-- The document over kept records, with given headings. -/
def headedText (headingOf : String → String) (functions : List FunctionSignature)
    (types : List TypeSignature) : String :=
  Text.trim (title ++ "\n\n" ++ Text.join "" ((filePaths functions types).map fun path =>
    sectionText (headingOf path) (functions.filter fun f => f.filePath = path)
      (types.filter fun t => t.filePath = path))) ++ "\n"

theorem filePaths_filter_subset {files : List String} (hfunctions : ∀ f ∈ functions, f.filePath ∈ files)
    (htypes : ∀ t ∈ types, t.filePath ∈ files) (keeps : FunctionSignature → Bool)
    (keepsType : TypeSignature → Bool) :
    filePaths (functions.filter keeps) (types.filter keepsType) ⊆ files := by
  intro path hpath
  rcases mem_filePaths.mp hpath with ⟨f, hf, rfl⟩ | ⟨t, ht, rfl⟩
  · exact hfunctions f (List.mem_filter.mp hf).1
  · exact htypes t (List.mem_filter.mp ht).1

/-- **The sections of a document** have the ways from the root for headings. -/
theorem bodyText_eq_headedText {headingOf : String → String}
    (h : ∀ path ∈ filePaths functions types,
      Path.relative? cwd path root = some (headingOf path)) :
    bodyText cwd root functions types = .ok (headedText headingOf functions types) := by
  rw [bodyText, sections_of_relative? h, headedText]

end Report

/-! ## §4 Headings -/

/-- The report of an analysis is headed by the places of its files below the root. -/
structure Analysis.HeadedBy (w : World) (spec : Exclusion.Spec) (place : Place) (r : Analysis)
    (belowOf : String → Place) : Prop where
  /-- Each file was found at its place below the root, under the exclusions. -/
  found : ∀ path ∈ r.files, Discovery.IsFoundAt w.fs spec place (belowOf path)
  /-- It is listed under its absolute path. -/
  path : ∀ path ∈ r.files, path = Path.placeText (place ++ belowOf path)
  /-- The way from the root as it was given to the file is the text that was compared with the
      exclusions. -/
  heading : ∀ path ∈ r.files,
    Path.relative? w.fs.cwd path r.root = some (Discovery.relativeText (belowOf path))
  /-- No heading goes up. -/
  down : ∀ path ∈ r.files, ".." ∉ Text.pieces '/' (Discovery.relativeText (belowOf path))
  /-- Two files never share a heading. -/
  distinct : (r.files.map fun path => Discovery.relativeText (belowOf path)).Nodup
  /-- The document has one section for each file with a kept record, under its heading. -/
  document : ∀ exportedOnly,
    let functions := r.functions.filter (Report.keepsFunction exportedOnly)
    let types := r.types.filter (Report.keepsType exportedOnly)
    Report.filePaths functions types ⊆ r.files ∧
      (functions ≠ [] ∨ types ≠ [] →
        Report.document w.fs.cwd r.root exportedOnly r.functions r.types =
          .ok (Report.headedText (fun path => Discovery.relativeText (belowOf path)) functions types))

/-- The analysis of files that were found below its root. -/
theorem Analysis.headedBy_ofFiles {w : World} (hfs : w.fs.WellFormed) (c : Config) {root : String}
    {place : Place} {es : List (String × Entry)} {spec : Exclusion.Spec} {files : List String}
    {belowOf : String → Place} (hroot : Path.placeOf w.fs.cwd root = place)
    (hfolder : w.fs.root.at? place = some (.folder es)) (hnodup : files.Nodup)
    (hfound : ∀ path ∈ files, Discovery.IsFoundAt w.fs spec place (belowOf path) ∧
      path = Path.placeText (place ++ belowOf path)) :
    (ofFiles w c root files).HeadedBy w spec place belowOf := by
  have hsource (path : String) (hpath : path ∈ files) :
      Discovery.IsSourceAt w.fs place (belowOf path) :=
    (hfound path hpath).1.toIsSourceAt
  have hpieces (path : String) (hpath : path ∈ files) :
      Text.pieces '/' (Discovery.relativeText (belowOf path)) = belowOf path :=
    (hsource path hpath).pieces_relativeText hfs hfolder
  have hheading (path : String) (hpath : path ∈ files) :
      Path.relative? w.fs.cwd path root = some (Discovery.relativeText (belowOf path)) := by
    have hrelative := (hsource path hpath).relative?_root hfs hfolder hroot
    rwa [← (hfound path hpath).2] at hrelative
  have hnormal (path : String) (hpath : path ∈ files) : Path.normalText path = path := by
    rw [(hfound path hpath).2]
    exact Path.normalText_placeText ((hsource path hpath).isPlace hfs)
  obtain ⟨hfunctions, htypes⟩ := filePath_mem_ofFiles w c root hnormal
  refine ⟨fun path hpath => (hfound path hpath).1, fun path hpath => (hfound path hpath).2,
    hheading, ?_, ?_, ?_⟩
  · intro path hpath hup
    rw [hpieces path hpath] at hup
    exact ((hsource path hpath).isPlace_below hfs _ hup).notUp rfl
  · -- the heading of a file tells its place, and so its path
    refine List.Nodup.map_on ?_ hnodup
    intro path hpath path' hpath' heq
    have hsame := congrArg (Text.pieces '/') heq
    rw [hpieces path hpath, hpieces path' hpath'] at hsame
    rw [(hfound path hpath).2, hsame, ← (hfound path' hpath').2]
  · intro exportedOnly
    -- only files that were found have records, so each section has a heading
    have hsubset := Report.filePaths_filter_subset hfunctions htypes
      (Report.keepsFunction exportedOnly) (Report.keepsType exportedOnly)
    refine ⟨hsubset, ?_⟩
    intro hkept
    rw [Report.document_of_kept _ hkept]
    exact Report.bodyText_eq_headedText fun path hpath => hheading path (hsubset hpath)

/-- **Headings are places.** However the root of an analysis is written, its report heads the section
    of a file with the path below the root that discovery compared with the exclusions. No heading goes
    up, and no two files have the same one. -/
theorem headings_are_places (w : World) (hfs : w.fs.WellFormed) (c : Config) (a : Analyzer)
    (ha : a.settings = .ofConfig c) (root? : Option String) (p : Analyzer.Progress)
    (hp : a.analyze w root? = .ok p) :
    ∃ place spec belowOf, FileSystem.resolve w.fs.cwd p.analysis.root = .ok place ∧
      (∀ root, root? = some root → p.analysis.root = Path.normalText root ∧
        FileSystem.resolve w.fs.cwd root = .ok place) ∧
      Exclusion.build c.blacklist = .ok spec ∧ p.analysis.HeadedBy w spec place belowOf := by
  obtain ⟨root, files, hroot, hdiscover, -, hanalysis, -⟩ := Analyzer.exists_ofFiles_of_analyze ha hp
  obtain ⟨place, es, spec, hplace, hfolder, hspec, rfl⟩ := Discovery.discover_eq_ok_iff.mp hdiscover
  have hfound (path : String) (hpath : path ∈ sorted (Discovery.keptFiles spec place (.folder es))) :
      ∃ below, Discovery.IsFoundAt w.fs spec place below ∧
        path = Path.placeText (place ++ below) :=
    (Discovery.mem_keptFiles_iff hfs hfolder).mp (mem_sorted.mp hpath)
  -- each listed path has a place below the root, and that is its heading
  choose! belowOf hbelow using hfound
  refine ⟨place, spec, belowOf, by rwa [hanalysis], ?_, hspec, ?_⟩
  · rintro given rfl
    obtain rfl := Except.ok.inj hroot
    rw [FileSystem.resolve_normalText] at hplace
    exact ⟨by rw [hanalysis]; rfl, hplace⟩
  · rw [hanalysis]
    exact Analysis.headedBy_ofFiles hfs c (FileSystem.resolve_eq_ok_iff.mp hplace).2 hfolder
      (nodup_sorted (Discovery.keptFiles_nodup hfs hfolder)) hbelow

/-- The record of a function, as it is listed. -/
def listedFunction : FunctionSignature :=
  ⟨"f", [], "void", "f(): void", "/p/a.ts", false, none, none⟩

theorem headedText_listedFunction {headingOf : String → String} (h : headingOf "/p/a.ts" = "a.ts") :
    Report.headedText headingOf [listedFunction] [] =
      Report.title ++ "\n\n## a.ts\n\nf(): void\n" := by
  have hpaths : Report.filePaths [listedFunction] [] = ["/p/a.ts"] := by decide +kernel
  rw [Report.headedText, hpaths, List.map_singleton, h]
  decide +kernel

/-- A root that goes down, up and down again is kept as it is, and the heading is that of the file. -/
theorem winding_root_headed :
    halfReadable.fs.WellFormed ∧
    ∃ p, (Analyzer.ofConfig .default true).analyze halfReadable (some ".//p/../p/.") = .ok p ∧
      p.analysis.root = "p/../p" ∧ p.analysis.files = ["/p/a.ts", "/p/b.ts"] ∧
      Report.document [] "p/../p" false p.analysis.functions p.analysis.types =
        .ok (Report.title ++ "\n\n## a.ts\n\nf(): void\n") := by
  refine ⟨halfReadable_wellFormed, ?_⟩
  obtain ⟨spec, hspec, hkept⟩ := halfReadable_files
  have hfolder : Discovery.folderOf halfReadable.fs ".//p/../p/." = .ok (["p"], halfReadableFolder) :=
    Discovery.folderOf_eq_ok_iff.mpr ⟨by decide +kernel, by rfl, rfl⟩
  obtain ⟨p, hp, hunion, -, hfiles⟩ :=
    Analyzer.analyze_isUnion halfReadable_wellFormed (a := .ofConfig .default true) rfl hfolder hspec
  have hpaths : p.analysis.files = ["/p/a.ts", "/p/b.ts"] := by
    rw [hfiles, hkept]
    exact List.mergeSort_of_pairwise (by decide)
  -- the other file is no text, so the function is all there is
  have hfunctions : p.analysis.functions = [listedFunction] := by
    rw [hunion.functions, hpaths]
    decide +kernel
  have htypes : p.analysis.types = [] := by
    rw [hunion.types, hpaths]
    decide +kernel
  obtain ⟨place, _, belowOf, -, hroot, -, hheaded⟩ := headings_are_places halfReadable
    halfReadable_wellFormed .default _ rfl _ p hp
  have hwinding : p.analysis.root = "p/../p" := (hroot _ rfl).1.trans (by decide +kernel)
  have hheading := hheaded.heading "/p/a.ts" (by simp [hpaths])
  have hdocument := (hheaded.document false).2
  rw [hwinding] at hheading hdocument
  rw [hfunctions, htypes] at hdocument
  have htext : Discovery.relativeText (belowOf "/p/a.ts") = "a.ts" := by
    have hway : Path.relative? halfReadable.fs.cwd "/p/a.ts" "p/../p" = some "a.ts" := by
      decide +kernel
    exact Option.some.inj (hheading.symm.trans hway)
  refine ⟨p, hp, hwinding, hpaths, ?_⟩
  rw [hfunctions, htypes]
  exact (hdocument (.inl (by decide))).trans (congrArg Except.ok (headedText_listedFunction htext))

end TsOutline
