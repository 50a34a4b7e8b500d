import TsOutline.Proofs.Arguments
import TsOutline.Proofs.Config.Fields
import TsOutline.Proofs.Grouping
import TsOutline.Proofs.Project.Files
import TsOutline.Service

/-!
# One Document on Two Surfaces

The command line and the tool service reach the same engine on different ways. The scan overrides the
workspace of its configuration by the resolved directory and hands that on as the root; the service
keeps the configuration it was started with, puts the directory as it was named into a copy, and leaves
it to the analyzer to resolve it. Here both ways are followed to where they meet: the root, the
blacklist and the files are the same, and nothing that is listed or printed depends on the workspace of
the configuration. So the document is the same.
-/

namespace TsOutline

/-! ## §1 The directory -/

namespace FileSystem

variable {fs : FileSystem} {dir : String} {entries : List (String × Entry)}

/-- What an existing absolute directory is: a folder at the place that its text means. -/
structure IsDirectory (fs : FileSystem) (dir : String) (place : Place) : Prop where
  resolve : resolve fs.cwd dir = .ok place
  isPlace : Path.IsPlace place
  folder : ∃ entries, fs.root.at? place = some (.folder entries)

theorem isDirectory_of_entry? (habsolute : Text.startsWith dir "/" = true)
    (h : fs.entry? dir = some (.folder entries)) :
    fs.IsDirectory dir (Path.placeOf fs.cwd dir) := by
  obtain ⟨hresolve, hat⟩ := resolve_of_entry? h
  exact ⟨hresolve, isPlace_of_entry? habsolute h, entries, hat⟩

theorem IsDirectory.resolve_placeText {place : Place} (h : fs.IsDirectory dir place) :
    FileSystem.resolve fs.cwd (Path.placeText place) = .ok place :=
  FileSystem.resolve_placeText fs.cwd h.isPlace

theorem IsDirectory.isFolderAt {place : Place} (h : fs.IsDirectory dir place) :
    fs.isFolderAt place = .ok true := by
  obtain ⟨entries, hat⟩ := h.folder
  rw [FileSystem.isFolderAt, probeAt_eq_some_iff.mpr hat]
  rfl

end FileSystem

namespace Discovery

/-- The same files are discovered below a directory and below its resolved text. -/
theorem discover_placeText {fs : FileSystem} {dir : String} {place : Place}
    (h : fs.IsDirectory dir place) (blacklist : List String) :
    discover fs (Path.placeText place) blacklist = discover fs dir blacklist := by
  rw [discover, folderOf, h.resolve_placeText, discover, folderOf, h.resolve]

end Discovery

/-! ## §2 What does not depend on the workspace -/

namespace Analyzer

theorem render_withWorkspace (cwd : Place) (c : Config) (path : String)
    (r : Analysis) :
    render cwd (.ofConfig (c.withWorkspace path)) r = render cwd (.ofConfig c) r := by
  unfold render
  rw [Settings.patterns?_ofConfig, Settings.patterns?_ofConfig,
    Settings.showsExportedOnly_ofConfig, Settings.showsExportedOnly_ofConfig]
  rfl

end Analyzer

theorem Analysis.ofFiles_withWorkspace (w : World) (c : Config) (path : String)
    (root : String) (files : List String) :
    ofFiles w (c.withWorkspace path) root files = ofFiles w c root files :=
  rfl

/-! ## §3 Every analysis has a document -/

namespace Report

variable {functions : List FunctionSignature} {types : List TypeSignature}

theorem sections_ok (cwd : Place) (root : String) (functions : List FunctionSignature)
    (types : List TypeSignature) {paths : List String} (h : ∀ path ∈ paths, path ≠ "") :
    ∃ texts, sections cwd root functions types paths = .ok texts := by
  induction paths with
  | nil => exact ⟨[], rfl⟩
  | cons path rest ih =>
    obtain ⟨texts, htexts⟩ := ih fun p hp => h p (List.mem_cons_of_mem _ hp)
    unfold sections Path.relative?
    rw [if_neg (h path (List.mem_cons_self ..)), htexts]
    exact ⟨_, rfl⟩

/-- Only a record without a path keeps a document from being written. -/
theorem document_ok (cwd : Place) (root : String) (exportedOnly : Bool)
    (hfunctions : ∀ f ∈ functions, f.filePath ≠ "") (htypes : ∀ t ∈ types, t.filePath ≠ "") :
    ∃ text, document cwd root exportedOnly functions types = .ok text := by
  unfold document
  dsimp only
  split
  · exact ⟨_, rfl⟩
  · split
    · exact ⟨_, rfl⟩
    · have hpaths : ∀ path ∈ filePaths (functions.filter (keepsFunction exportedOnly))
          (types.filter (keepsType exportedOnly)), path ≠ "" := by
        intro path hpath
        rw [filePaths, mem_sorted, mem_firstSeen, List.mem_append] at hpath
        rcases hpath with hpath | hpath
        · obtain ⟨f, hf, rfl⟩ := List.mem_map.mp hpath
          exact hfunctions f (List.mem_filter.mp hf).1
        · obtain ⟨t, ht, rfl⟩ := List.mem_map.mp hpath
          exact htypes t (List.mem_filter.mp ht).1
      obtain ⟨texts, htexts⟩ := sections_ok cwd root _ _ hpaths
      rw [bodyText, htexts]
      exact ⟨_, rfl⟩

end Report

/-- The analysis of files can be rendered. -/
theorem Analyzer.render_ofFiles (w : World) (c : Config) (root : String) (files : List String) :
    ∃ text, render w.fs.cwd (.ofConfig c) (.ofFiles w c root files) = .ok text := by
  have hnonempty {text : String}
      (h : ∃ path ∈ files, w.fails c path = false ∧ text = Path.normalText path) : text ≠ "" := by
    obtain ⟨path, -, -, rfl⟩ := h
    exact Path.normalText_ne_empty path
  obtain ⟨hfunctions, htypes⟩ := Analysis.filePath_ofFiles w c root files
  obtain ⟨text, htext⟩ := Report.document_ok w.fs.cwd root c.exportedOnly
    (fun f hf => hnonempty (hfunctions f hf)) fun t ht => hnonempty (htypes t ht)
  have hroot : (Analysis.ofFiles w c root files).root = root := rfl
  rw [render, hroot, Settings.showsExportedOnly_ofConfig, Settings.patterns?_ofConfig, htext]
  exact ⟨_, rfl⟩

/-- The document of files below a root. -/
def documentText (w : World) (c : Config) (root : String) (files : List String) :
    Except Analyzer.RenderFault String :=
  if files.isEmpty then .ok CommandLine.noFiles
  else Analyzer.render w.fs.cwd (.ofConfig c) (.ofFiles w c root files)

theorem exists_documentText (w : World) (c : Config) (root : String) (files : List String) :
    ∃ text, documentText w c root files = .ok text := by
  unfold documentText
  split
  · exact ⟨_, rfl⟩
  · exact Analyzer.render_ofFiles w c root files

/-! ## §4 The service -/

namespace Service

variable {w : World} {c : Config} {dir : String} {place : Place}

/-- The analyzer of the service resolves the workspace of its configuration. -/
theorem rootOf_withWorkspace {root : String} (hne : root ≠ "")
    (h : FileSystem.resolve w.fs.cwd root = .ok place) :
    Analyzer.rootOf w.fs.cwd (.ofConfig (c.withWorkspace root)) none =
      .ok (Path.placeText place) := by
  have htruthy : (Value.text root).isTruthy = true := by simpa [Value.isTruthy] using hne
  have habsolute : Workspace.absolute w.fs.cwd root = .ok (Path.placeText place) := by
    rw [Workspace.absolute, h]
  have hhidden : ¬(Settings.ofConfig (c.withWorkspace root)).hidesWorkspace = true :=
    Bool.false_ne_true
  have hworkspace : (Settings.ofConfig (c.withWorkspace root)).workspace = .text root := rfl
  rw [Analyzer.rootOf, Analyzer.workspaceOf, if_neg hhidden, hworkspace, if_pos htruthy]
  dsimp only
  rw [habsolute]
  rfl

/-- The directory is resolved as it was named. -/
theorem rootOf_directory (h : w.fs.IsDirectory dir place) :
    Analyzer.rootOf w.fs.cwd (.ofConfig (c.withWorkspace (Path.normalText dir))) none =
      .ok (Path.placeText place) := by
  apply rootOf_withWorkspace (Path.normalText_ne_empty dir)
  rw [FileSystem.resolve_normalText, h.resolve]

theorem documentOf_error (h : w.fs.IsDirectory dir place) {fault : Discovery.Fault}
    (hfault : Discovery.discover w.fs dir c.blacklist = .error fault) :
    documentOf w (c.withWorkspace (Path.normalText dir)) =
      (.note ("Error generating structure document: " ++ fault.message), []) := by
  rw [← Discovery.discover_placeText h] at hfault
  rw [documentOf, Analyzer.analyze_of_discover_error rfl none (rootOf_directory h) hfault]
  rfl

theorem documentOf_ok (h : w.fs.IsDirectory dir place) {files : List String} {text : String}
    (hfiles : Discovery.discover w.fs dir c.blacklist = .ok files)
    (htext : documentText w c (Path.placeText place) files = .ok text) :
    (documentOf w (c.withWorkspace (Path.normalText dir))).1.text = text ∧
      (files = [] → (documentOf w (c.withWorkspace (Path.normalText dir))).1 =
        .note CommandLine.noFiles) := by
  rw [← Discovery.discover_placeText h] at hfiles
  obtain ⟨p, hp, hsettings, hanalysis⟩ := Analyzer.analyze_of_discover_ok
    (a := .ofConfig (c.withWorkspace (Path.normalText dir)) true) rfl none
    (rootOf_directory h) hfiles
  have hfound : p.analysis.files = files := by
    rw [hanalysis]
    rfl
  rw [Analysis.ofFiles_withWorkspace] at hanalysis
  unfold documentText at htext
  rw [documentOf, hp]
  dsimp only
  rw [hfound]
  -- without files there is a note and no document
  by_cases hempty : files = []
  · rw [hempty] at htext ⊢
    exact ⟨Except.ok.inj htext, fun _ => rfl⟩
  · have hnot : ¬files.isEmpty = true := by simpa using hempty
    rw [if_neg hnot] at htext ⊢
    rw [hsettings, hanalysis, Analyzer.render_withWorkspace, htext]
    exact ⟨rfl, fun heq => absurd heq hempty⟩

theorem handle_start (w : World) (s : Service) (args : List String) :
    s.handle w (.start args) = s.start w args :=
  rfl

theorem handle_structureDocument (w : World) (s : Service) (args : List String)
    (setting? : Option String) :
    s.handle w (.structureDocument args setting?) = s.structureDocument w args setting? :=
  rfl

/-- A start that succeeded has read its arguments and the config file, and leaves the
    configuration. -/
theorem start_eq_started {s : Service} {args : List String}
    (h : (s.start w args).answer = .started c) :
    (s.start w args).service = ⟨some c⟩ ∧
      ∃ a warnings, CommandLine.readService args = .ok a ∧
        w.loadConfig a.config (startOverrides a) = (.ok c, warnings) := by
  unfold start at h ⊢
  split at h
  · cases h
  · rename_i a hread
    split at h
    · rename_i warnings hload
      cases h
      exact ⟨rfl, a, warnings, hread, hload⟩
    · cases h

theorem start_of_load {s : Service} {args : List String} {a : CommandLine.Arguments}
    {warnings : List Warning} (hread : CommandLine.readService args = .ok a)
    (hload : w.loadConfig a.config (startOverrides a) = (.ok c, warnings)) :
    s.start w args = ⟨⟨some c⟩, .started c, warnings⟩ := by
  rw [start, hread]
  dsimp only
  rw [hload]

/-- Without a blacklist among the arguments, the configuration is that of the config file. -/
theorem load_of_started {s : Service} {config? : Option String}
    (h : (s.start w (CommandLine.configArguments config?)).answer = .started c) :
    ∃ warnings, w.loadConfig config? [] = (.ok c, warnings) := by
  obtain ⟨_, a, warnings, hread, hload⟩ := start_eq_started h
  rcases CommandLine.readService_config config? with hconfig | ⟨⟨fault, hconfig⟩, _⟩
  · cases hread.symm.trans hconfig
    exact ⟨warnings, hload⟩
  · cases hread.symm.trans hconfig

/-- Arguments that name a config file give no blacklist. -/
theorem ofArguments_configArguments (config? : Option String) :
    Exclusion.ofArguments (CommandLine.configArguments config?) = [] := by
  cases config? with
  | none => rfl
  | some path =>
    -- even a config file with the name of the blacklist option has nothing behind it
    unfold Exclusion.ofArguments CommandLine.configArguments Exclusion.argumentAfter?
    rw [if_neg (by decide), Exclusion.argumentAfter?]
    split
    · rename_i hafter
      split at hafter
      · cases hafter
      · cases hafter
    · rfl

/-- The tool analyzes the directory that the environment names, under the configuration of the
    start. -/
theorem structureDocument_directory (hthere : w.fs.isThere dir = true)
    (habsolute : Text.startsWith dir "/" = true) (config? : Option String) :
    ((⟨some c⟩ : Service).structureDocument w (CommandLine.configArguments config?)
        (some dir)).answer =
      .document (documentOf w (c.withWorkspace (Path.normalText dir))).1 := by
  have hworkspace : workspace w c (CommandLine.configArguments config?) (some dir) =
      .ok (Path.normalText dir) := by
    rw [workspace, Workspace.resolve, Workspace.isUsable, habsolute, hthere]
    rfl
  have hconfig : scanConfig c (Path.normalText dir) (CommandLine.configArguments config?) =
      (c.withWorkspace (Path.normalText dir)) := by
    -- the arguments add nothing to the blacklist of the start
    have hblacklist : (if c.blacklist.isEmpty then [] else c.blacklist) = c.blacklist := by
      cases c.blacklist <;> rfl
    rw [scanConfig, ofArguments_configArguments, hblacklist]
    rfl
  rw [structureDocument]
  dsimp only [effective, Option.getD_some]
  rw [hworkspace]
  dsimp only
  rw [hconfig]

end Service

/-! ## §5 The scan -/

namespace CommandLine

variable {w : World} {c : Config} {dir : String} {place : Place}

theorem rootOf_placeText (h : w.fs.IsDirectory dir place) (settings : Settings) :
    Analyzer.rootOf w.fs.cwd settings (some (Path.placeText place)) = .ok (Path.placeText place) := by
  rw [Analyzer.rootOf, Path.normalText_placeText h.isPlace]

/-- A scan of a directory overrides the workspace by the resolved directory, and analyzes it. -/
theorem scan_directory (h : w.fs.IsDirectory dir place) (hne : dir ≠ "") {config? : Option String}
    {warnings : List Warning} (hload : w.loadConfig config? [] = (.ok c, warnings)) :
    scan w (scanArguments dir config?) = scanAt w (scanArguments dir config?)
      (c.withWorkspace (Path.placeText place)) place warnings := by
  have hdirectory : directoryOf w.fs.cwd (scanArguments dir config?) =
      .ok (some (Path.placeText place)) := by
    rw [directoryOf, scanArguments]
    dsimp only
    rw [if_neg hne, h.resolve]
    rfl
  have hoverrides : scanOverrides (some (Path.placeText place)) (scanArguments dir config?) =
      [("workspace", .text (Path.placeText place))] := rfl
  have hfolder : scanFolder w.fs (c.withWorkspace (Path.placeText place)) =
      .ok (place, true) := by
    rw [scanFolder, scanRoot, Config.withWorkspace]
    dsimp only
    rw [if_neg (Path.placeText_ne_empty place), h.resolve_placeText]
    dsimp only
    rw [h.isFolderAt]
    rfl
  -- the scan loads under its override, the service under none
  have hconfig : w.loadConfig config? [("workspace", .text (Path.placeText place))] =
      (.ok (c.withWorkspace (Path.placeText place)), warnings) :=
    Config.load_setWorkspace hload _
  rw [scan, hdirectory]
  dsimp only
  rw [hoverrides, scanArguments]
  dsimp only
  rw [hconfig]
  dsimp only
  rw [scanWith, hfolder]

theorem scanAt_error (h : w.fs.IsDirectory dir place) {a : Arguments} {fault : Discovery.Fault}
    (hfault : Discovery.discover w.fs dir c.blacklist = .error fault) (warnings : List Warning) :
    scanAt w a (c.withWorkspace (Path.placeText place)) place warnings =
      .broken fault.message warnings := by
  rw [← Discovery.discover_placeText h] at hfault
  have hanalyze : (Analyzer.ofConfig (c.withWorkspace (Path.placeText place)) true).analyze
      w (some (Path.placeText place)) = .error (.discovery fault) :=
    Analyzer.analyze_of_discover_error (c := c.withWorkspace (Path.placeText place)) rfl _
      (rootOf_placeText h _) hfault
  rw [scanAt, hanalyze]
  rfl

theorem scanAt_ok (h : w.fs.IsDirectory dir place) {a : Arguments} (hjson : a.asJson = false)
    {files : List String} {text : String}
    (hfiles : Discovery.discover w.fs dir c.blacklist = .ok files)
    (htext : documentText w c (Path.placeText place) files = .ok text) (warnings : List Warning) :
    (scanAt w a (c.withWorkspace (Path.placeText place)) place warnings).exit = 0 ∧
      (scanAt w a (c.withWorkspace (Path.placeText place)) place warnings).output =
        text ++ "\n" := by
  rw [← Discovery.discover_placeText h] at hfiles
  obtain ⟨p, hp, hsettings, hanalysis⟩ := Analyzer.analyze_of_discover_ok
    (a := .ofConfig (c.withWorkspace (Path.placeText place)) true) rfl _
    (rootOf_placeText h _) hfiles
  have hfound : p.analysis.files = files := by
    rw [hanalysis]
    rfl
  have hdocument : scanDocument w a.asJson p = .ok text := by
    rw [scanDocument, hjson, hfound, ← htext, documentText, hsettings, hanalysis,
      Analysis.ofFiles_withWorkspace, Analyzer.render_withWorkspace]
    rfl
  rw [scanAt, hp]
  dsimp only
  rw [hdocument]
  exact ⟨rfl, rfl⟩

/-- The scan took the config file for an option and did not start. -/
def Outcome.Misread (o : Outcome) (config? : Option String) : Prop :=
  o.exit = 2 ∧ ∃ path ∈ config?, Text.startsWith path "-" = true

/-- How a scan of an existing directory ends. -/
theorem run_scan (h : w.fs.IsDirectory dir place) (habsolute : Text.startsWith dir "/" = true)
    {config? : Option String} {warnings : List Warning}
    (hload : w.loadConfig config? [] = (.ok c, warnings)) :
    (run w ("scan" :: dir :: configArguments config?)).Misread config? ∨
      (∃ fault, Discovery.discover w.fs dir c.blacklist = .error fault ∧
        (run w ("scan" :: dir :: configArguments config?)).exit = 1) ∨
      ∃ files text, Discovery.discover w.fs dir c.blacklist = .ok files ∧
        documentText w c (Path.placeText place) files = .ok text ∧
        (run w ("scan" :: dir :: configArguments config?)).exit = 0 ∧
        (run w ("scan" :: dir :: configArguments config?)).output = text ++ "\n" := by
  rcases readMain_scan habsolute config? with hread | ⟨⟨program, fault, hread⟩, hdashed⟩
  · have hne : dir ≠ "" := by
      rintro rfl
      exact absurd habsolute (by decide)
    have hrun : run w ("scan" :: dir :: configArguments config?) =
        scanAt w (scanArguments dir config?) (c.withWorkspace (Path.placeText place)) place
          warnings := by
      rw [run, hread, ← scan_directory h hne hload]
    rw [hrun]
    cases hfound : Discovery.discover w.fs dir c.blacklist with
    | error fault =>
      refine .inr (.inl ⟨fault, rfl, ?_⟩)
      rw [scanAt_error h hfound]
      rfl
    | ok files =>
      obtain ⟨text, htext⟩ := exists_documentText w c (Path.placeText place) files
      exact .inr (.inr ⟨files, text, rfl, htext, scanAt_ok h rfl hfound htext warnings⟩)
  · refine .inl ⟨?_, hdashed⟩
    rw [run, hread]
    rfl

end CommandLine

/-! ## §6 Both surfaces -/

/-- **Both surfaces have the same document.** Let a service start under a config file, or under none,
    and let its tool be asked for the existing absolute directory `dir`; let the command line scan the
    same directory under the same config file. The tool answers with a document. If files can be
    discovered, the scan prints the text of that document and ends well, unless it misread the path of
    the config file; if not, the scan ends badly and the document says why. -/
theorem scan_prints_tool_document (w : World) (s : Service) (dir : String)
    (entries : List (String × Entry)) (config? : Option String) (c : Config)
    (habsolute : Text.startsWith dir "/" = true)
    (hdir : w.fs.entry? dir = some (.folder entries))
    (hstart : (s.handle w (.start (CommandLine.configArguments config?))).answer = .started c) :
    let args := CommandLine.configArguments config?
    let started := (s.handle w (.start args)).service
    let scan := CommandLine.run w ("scan" :: dir :: args)
    let found := Discovery.discover w.fs dir c.blacklist
    ∃ document, (started.handle w (.structureDocument args (some dir))).answer =
        .document document ∧
      (scan.exit = 0 → scan.output = document.text ++ "\n") ∧
      (∀ files, found = .ok files →
        (scan.exit = 0 ∨ scan.Misread config?) ∧
          (files = [] → document = .note "No code files found.")) ∧
      ∀ fault, found = .error fault →
        (scan.exit = 1 ∨ scan.Misread config?) ∧
          document = ⟨"Error generating structure document: " ++ fault.message, 0, 0, 0, 0⟩ := by
  rw [Service.handle_start] at hstart
  obtain ⟨hservice, _⟩ := Service.start_eq_started hstart
  obtain ⟨warnings, hload⟩ := Service.load_of_started hstart
  have hdirectory := FileSystem.isDirectory_of_entry? habsolute hdir
  have hthere : w.fs.isThere dir = true := by
    rw [FileSystem.isThere, hdir]
    rfl
  intro args started scan found
  have hanswer : (started.handle w (.structureDocument args (some dir))).answer =
      .document (Service.documentOf w (c.withWorkspace (Path.normalText dir))).1 := by
    have hstarted : started = ⟨some c⟩ := hservice
    rw [hstarted, Service.handle_structureDocument]
    exact Service.structureDocument_directory hthere habsolute config?
  refine ⟨_, hanswer, ?_⟩
  have hnone (hfound : found = .ok []) :
      (Service.documentOf w (c.withWorkspace (Path.normalText dir))).1 =
        .note "No code files found." := by
    obtain ⟨text, htext⟩ := exists_documentText w c (Path.placeText _) []
    exact (Service.documentOf_ok hdirectory hfound htext).2 rfl
  have herror {fault : Discovery.Fault} (hfound : found = .error fault) :
      (Service.documentOf w (c.withWorkspace (Path.normalText dir))).1 =
        ⟨"Error generating structure document: " ++ fault.message, 0, 0, 0, 0⟩ := by
    rw [Service.documentOf_error hdirectory hfound]
    rfl
  rcases CommandLine.run_scan hdirectory habsolute hload with
    hmisread | ⟨fault, hfault, hexit⟩ | ⟨files, text, hfiles, htext, hexit, houtput⟩
  · -- the scan did not start, so nothing was printed and only the tool is to be followed
    refine ⟨fun hzero => ?_, fun files hfiles => ⟨.inr hmisread, ?_⟩,
      fun fault hfault => ⟨.inr hmisread, herror hfault⟩⟩
    · exact absurd (hzero.symm.trans hmisread.1) (by decide)
    · rintro rfl
      exact hnone hfiles
  · refine ⟨fun hzero => ?_, fun files hfiles => ?_, fun fault hfound => ⟨.inl hexit, herror hfound⟩⟩
    · exact absurd (hzero.symm.trans hexit) (by decide)
    · exact absurd (hfault.symm.trans hfiles) nofun
  · refine ⟨fun _ => ?_, fun found' hfound => ⟨.inl hexit, ?_⟩, fun fault hfound => ?_⟩
    · rw [(Service.documentOf_ok hdirectory hfiles htext).1]
      exact houtput
    · rintro rfl
      exact hnone hfound
    · exact absurd (hfiles.symm.trans hfound) nofun

/-- A project beside its config file. -/
def configuredProject : World where
  fs := ⟨.folder [("c.yaml", .file "type_depth: 1".toUTF8),
    ("p", .folder [("a.ts", .file "".toUTF8)])], []⟩
  parse := fun _ _ => .mk .program true none "" []
  readData := fun text =>
    if text = "type_depth: 1" then some (.map [(.text "type_depth", .int 1)]) else none

theorem configuredProject_load :
    configuredProject.loadConfig (some "c.yaml") [] =
      (.ok { Config.default with typeDepth := 1 }, []) := by
  have hfile : configuredProject.fs.isFile (Path.normalText "c.yaml") = .ok true := by
    decide +kernel
  have hread : configuredProject.fs.read (Path.normalText "c.yaml") = .ok "type_depth: 1" := by
    decide +kernel
  have hfields : Config.fieldsOfData (.map [(.text "type_depth", .int 1)]) =
      .ok [("type_depth", .int 1)] := rfl
  have hconfig : Config.ofFields [("type_depth", .int 1)] =
      .ok { Config.default with typeDepth := 1 } := rfl
  have hdata : configuredProject.readData "type_depth: 1" =
      some (.map [(.text "type_depth", .int 1)]) := by rfl
  exact Config.load_of_file hfile hread hdata hfields hconfig

/-- There the tool and the scan have the same document. -/
theorem configuredProject_same_document :
    let args := CommandLine.configArguments (some "c.yaml")
    let started := ((⟨none⟩ : Service).handle configuredProject (.start args)).service
    let scan := CommandLine.run configuredProject ("scan" :: "/p/../p" :: args)
    ∃ document, (started.handle configuredProject
        (.structureDocument args (some "/p/../p"))).answer = .document document ∧
      scan.exit = 0 ∧ scan.output = document.text ++ "\n" := by
  have hlocate : configuredProject.fs.locate "/p/../p" = .ok ["p"] := by decide +kernel
  have hdir : configuredProject.fs.entry? "/p/../p" = some (.folder [("a.ts", .file "".toUTF8)]) := by
    rw [FileSystem.entry?, hlocate]
    rfl
  have hplain (path : String) (hpath : path ∈ some "c.yaml") : ¬Text.startsWith path "-" = true := by
    cases hpath
    decide
  have hstart : ((⟨none⟩ : Service).handle configuredProject
      (.start (CommandLine.configArguments (some "c.yaml")))).answer =
        .started { Config.default with typeDepth := 1 } := by
    rw [Service.handle_start]
    rcases CommandLine.readService_config (some "c.yaml") with hread | ⟨_, path, hpath, hdashed⟩
    · rw [Service.start_of_load hread configuredProject_load]
    · exact absurd hdashed (hplain path hpath)
  obtain ⟨document, hanswer, hprinted, hfound, _⟩ := scan_prints_tool_document
    configuredProject ⟨none⟩ "/p/../p" _ (some "c.yaml") _ (by decide) hdir hstart
  obtain ⟨files, hfiles⟩ : ∃ files, Discovery.discover configuredProject.fs "/p/../p" [] =
      .ok files := by
    have hroot : Discovery.folderOf configuredProject.fs "/p/../p" =
        .ok (["p"], .folder [("a.ts", .file "".toUTF8)]) :=
      Discovery.folderOf_eq_ok_iff.mpr ⟨by decide +kernel, by rfl, rfl⟩
    have hbuild : (Exclusion.build []).isOk = true := by decide +kernel
    rw [Discovery.discover_of_folderOf hroot, Discovery.discoverAt]
    cases hspec : Exclusion.build [] with
    | error fault =>
      rw [hspec] at hbuild
      cases hbuild
    | ok spec => exact ⟨_, rfl⟩
  obtain ⟨hexit | ⟨_, path, hpath, hdashed⟩, _⟩ := hfound files hfiles
  · exact ⟨document, hanswer, hexit, hprinted hexit⟩
  · exact absurd hdashed (hplain path hpath)

end TsOutline
