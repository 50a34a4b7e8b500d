import TsOutline.Proofs.Accounting.Project
import TsOutline.Proofs.Project.Rewriting

/-!
# What Commands Print

A run of the command line prints one complete document, or nothing. All that can go wrong goes wrong
before the document is printed: in the arguments, in the config file, on the way to the folder or file,
while files are discovered, and while the outline of the one file of `parse` is made.

- **Scans** (`scan_cases`) and **parses** (`parse_cases`): a command reaches its document or ends with 1.
- **Files that cannot be parsed** (`Scans.tolerates`, `Scans.rewrite`): a scan goes on without them, and
  counts them in what it says besides.
- **Runs** (`output_all_or_nothing`): the exit code decides what is printed.
-/

namespace TsOutline.CommandLine

variable {w : World} {a : Arguments} {c : Config} {warnings : List Warning} {root : Place}
  {p : Analyzer.Progress} {outline : Outline}

/-! ## §1 Documents -/

/-- **A scan reaches its analysis**: the directory means a place, the configuration is accepted under
    the overrides of the arguments, there is a folder at the root, and it can be analyzed. -/
structure Scans (w : World) (a : Arguments) (c : Config) (warnings : List Warning) (root : Place)
    (p : Analyzer.Progress) : Prop where
  config : ∃ directory?, directoryOf w.fs.cwd a = .ok directory? ∧
    w.loadConfig a.config (scanOverrides directory? a) = (.ok c, warnings)
  folder : scanFolder w.fs c = .ok (root, true)
  analysis : (Analyzer.ofConfig c true).analyze w (some (Path.placeText root)) = .ok p

/-- The path of the file that is parsed. -/
def parsedPath (a : Arguments) : String :=
  Path.normalText (a.positional.getD "")

/-- **A parse reaches its outline**: there is a file, the configuration is accepted, and the file has an
    outline at the depth that is given, or else at that of the configuration. -/
structure Parses (w : World) (a : Arguments) (c : Config) (warnings : List Warning)
    (outline : Outline) : Prop where
  file : w.fs.isFile (parsedPath a) = .ok true
  config : w.loadConfig a.config [] = (.ok c, warnings)
  outline : ∃ depth, (a.typeDepth.getD (.int c.typeDepth)).number? = some depth ∧
    w.outline (parsedPath a) depth c.routerFactories = .ok outline

/-- **The document of a command.** -/
inductive Prints (w : World) : Command → Arguments → String → Prop where
  | json {a : Arguments} {c : Config} {warnings : List Warning} {root : Place}
      {p : Analyzer.Progress} : Scans w a c warnings root p → a.asJson = true →
      Prints w .scan a p.analysis.toJson.render
  | noFiles {a : Arguments} {c : Config} {warnings : List Warning} {root : Place}
      {p : Analyzer.Progress} : Scans w a c warnings root p → a.asJson = false →
      p.analysis.files = [] → Prints w .scan a "No code files found."
  | report {a : Arguments} {c : Config} {warnings : List Warning} {root : Place}
      {p : Analyzer.Progress} {text : String} : Scans w a c warnings root p → a.asJson = false →
      p.analysis.files ≠ [] → Analyzer.render w.fs.cwd (.ofConfig c) p.analysis = .ok text →
      Prints w .scan a text
  | outline {a : Arguments} {c : Config} {warnings : List Warning} {outline : Outline} :
      Parses w a c warnings outline → Prints w .parse a outline.toJson.render

/-- The run ends with 1 and prints nothing. -/
def Outcome.Fails (o : Outcome) : Prop :=
  o.exit = 1 ∧ o.output = ""

theorem fails_broken (message : String) (warnings : List Warning) :
    (Outcome.broken message warnings).Fails :=
  ⟨rfl, rfl⟩

theorem fails_refusal (complaint : String) (warnings : List Warning) :
    (Outcome.refusal complaint warnings).Fails :=
  ⟨rfl, rfl⟩

/-! ## §2 Scans -/

/-- What a scan that reaches its analysis has found. -/
theorem Scans.exists_files (h : Scans w a c warnings root p) :
    ∃ base files, Discovery.discover w.fs (Path.placeText root) c.blacklist = .ok files ∧
      p.analyzer.settings = .ofConfig c ∧ p.analysis = .ofFiles w c base files ∧
      p.warnings = files.filterMap (w.skipWarning? c) := by
  obtain ⟨base, files, hbase, hfiles, hfound⟩ :=
    Analyzer.exists_ofFiles_of_analyze (c := c) rfl h.analysis
  rw [Analyzer.rootOf] at hbase
  rw [← Except.ok.inj hbase, Discovery.discover_normalText] at hfiles
  exact ⟨base, files, hfiles, hfound⟩

theorem scanDocument_json (h : a.asJson = true) :
    scanDocument w a.asJson p = .ok p.analysis.toJson.render := by
  rw [scanDocument, if_pos h]

theorem scanDocument_noFiles (h : a.asJson = false) (hfiles : p.analysis.files = []) :
    scanDocument w a.asJson p = .ok "No code files found." := by
  rw [scanDocument, h, hfiles]
  rfl

theorem scanDocument_report (h : a.asJson = false) (hfiles : p.analysis.files ≠ []) :
    scanDocument w a.asJson p = Analyzer.render w.fs.cwd p.analyzer.settings p.analysis := by
  rw [scanDocument, h, if_neg Bool.false_ne_true, if_neg (by simpa using hfiles)]

/-- Its document can be written, whatever it is. -/
theorem Scans.exists_document (h : Scans w a c warnings root p) :
    ∃ document, scanDocument w a.asJson p = .ok document ∧ Prints w .scan a document := by
  obtain ⟨_, _, -, hsettings, -⟩ := h.exists_files
  obtain ⟨text, htext⟩ := Analyzer.exists_render_of_analyze (c := c) rfl h.analysis
  cases hjson : a.asJson with
  | true => exact ⟨_, hjson ▸ scanDocument_json hjson, .json h hjson⟩
  | false =>
    by_cases hfiles : p.analysis.files = []
    · exact ⟨_, hjson ▸ scanDocument_noFiles hjson hfiles, .noFiles h hjson hfiles⟩
    · refine ⟨text, ?_, .report h hjson hfiles (hsettings ▸ htext)⟩
      rw [← htext, ← scanDocument_report hjson hfiles, hjson]

/-- A scan that reaches its analysis prints the document of it. -/
theorem Scans.scan_eq (h : Scans w a c warnings root p) {document : String}
    (hdocument : scanDocument w a.asJson p = .ok document) :
    scan w a = .success document (warnings ++ p.warnings) (skippedNote p.analysis) := by
  obtain ⟨directory?, hdirectory, hload⟩ := h.config
  rw [scan, hdirectory]
  dsimp only
  rw [hload]
  dsimp only
  rw [scanWith, h.folder]
  dsimp only
  rw [scanAt, h.analysis]
  dsimp only
  rw [hdocument]

/-- **A scan prints its document.** -/
theorem scan_of_prints {document : String} (h : Prints w .scan a document) :
    (scan w a).exit = 0 ∧ (scan w a).output = document ++ "\n" := by
  cases h with
  | json h hjson =>
    rw [h.scan_eq (scanDocument_json hjson)]
    exact ⟨rfl, rfl⟩
  | noFiles h hjson hfiles =>
    rw [h.scan_eq (scanDocument_noFiles hjson hfiles)]
    exact ⟨rfl, rfl⟩
  | report h hjson hfiles htext =>
    obtain ⟨_, _, -, hsettings, -⟩ := h.exists_files
    rw [h.scan_eq ((scanDocument_report hjson hfiles).trans (hsettings ▸ htext))]
    exact ⟨rfl, rfl⟩

/-- **A scan** reaches its analysis or fails. -/
theorem scan_cases (w : World) (a : Arguments) :
    (∃ c warnings root p, Scans w a c warnings root p) ∨ (scan w a).Fails := by
  cases hdirectory : directoryOf w.fs.cwd a with
  | error fault =>
    right
    rw [scan, hdirectory]
    exact fails_broken ..
  | ok directory? =>
    cases hload : w.loadConfig a.config (scanOverrides directory? a) with
    | mk result warnings =>
      rw [scan, hdirectory]
      dsimp only
      rw [hload]
      cases result with
      | error fault => exact .inr (fails_broken ..)
      | ok c =>
        dsimp only
        rw [scanWith]
        cases hfolder : scanFolder w.fs c with
        | error fault => exact .inr (fails_broken ..)
        | ok found =>
          obtain ⟨root, isFolder⟩ := found
          cases isFolder with
          | false => exact .inr (fails_refusal ..)
          | true =>
            dsimp only
            rw [scanAt]
            cases hp : (Analyzer.ofConfig c true).analyze w (some (Path.placeText root)) with
            | error fault => exact .inr (fails_broken ..)
            | ok p =>
              left
              refine ⟨c, warnings, root, p, ?_, ?_, ?_⟩
              · exact ⟨directory?, hdirectory, hload⟩
              · exact hfolder
              · exact hp

/-! ## §3 Parses -/

/-- The outline of a file at a depth: the depth has to be a number, and the file to have an outline. -/
theorem outlineAt_eq_ok_iff {path : String} {depth : Value} {factories : List String} :
    outlineAt w path depth factories = .ok outline ↔
      ∃ n, depth.number? = some n ∧ w.outline path n factories = .ok outline := by
  unfold outlineAt
  cases hdepth : depth.number? with
  | none =>
    unfold World.outlineWith
    cases w.fs.read (Path.normalText path) with
    | error fault => simp
    | ok source => simp
  | some n =>
    rw [World.outlineWith_some]
    cases houtline : w.outline path n factories with
    | ok o => simp [houtline]
    | error fault => cases fault <;> simp [houtline]

/-- An existing file is parsed under the normal form of its path. -/
theorem parse_eq_parseFile (h : w.fs.isFile (parsedPath a) = .ok true) :
    parse w a = parseFile w a (parsedPath a) := by
  unfold parsedPath at h
  unfold parse parsedPath
  dsimp only
  rw [h]

/-- A parse that reaches its outline prints it. -/
theorem Parses.parse_eq (h : Parses w a c warnings outline) :
    parse w a = .success outline.toJson.render warnings none := by
  have houtline : outlineAt w (parsedPath a) (a.typeDepth.getD (.int c.typeDepth))
      c.routerFactories = .ok outline := outlineAt_eq_ok_iff.mpr h.outline
  rw [parse_eq_parseFile h.file]
  unfold parseFile
  rw [h.config]
  dsimp only
  rw [houtline]

/-- **A parse** reaches its outline or fails. -/
theorem parse_cases (w : World) (a : Arguments) :
    (∃ c warnings outline, Parses w a c warnings outline) ∨ (parse w a).Fails := by
  by_cases hfile : w.fs.isFile (parsedPath a) = .ok true
  · rw [parse_eq_parseFile hfile]
    unfold parseFile
    cases hload : w.loadConfig a.config [] with
    | mk result warnings =>
      cases result with
      | error fault => exact .inr (fails_broken ..)
      | ok c =>
        dsimp only
        cases houtline : outlineAt w (parsedPath a) (a.typeDepth.getD (.int c.typeDepth))
            c.routerFactories with
        | error message => exact .inr (fails_broken ..)
        | ok outline =>
          left
          exact ⟨c, warnings, outline, hfile, hload, outlineAt_eq_ok_iff.mp houtline⟩
  · right
    unfold parsedPath at hfile
    unfold parse
    dsimp only
    split
    · exact fails_broken ..
    · rename_i hfound
      exact absurd hfound hfile
    · exact fails_refusal ..

/-! ## §4 Files that cannot be parsed -/

/-- **A scan tolerates files without an outline**: it ends well, its records are those of the files that
    have one, and what it says besides the document is one warning for each of the others and their
    number. -/
structure Tolerates (w : World) (c : Config) (warnings : List Warning) (r : Analysis) (o : Outcome) :
    Prop where
  exit : o.exit = 0
  records : r = .ofFiles w c r.root r.files
  warnings : o.warnings = warnings ++ r.files.filterMap (w.skipWarning? c)
  one_each : (r.files.filterMap (w.skipWarning? c)).length = (r.files.filter (w.fails c)).length
  number : o.complaint = if r.files.filter (w.fails c) = [] then none
    else some ("⚠️  " ++ Nat.repr (r.files.filter (w.fails c)).length ++
      " files could not be parsed.")

theorem Scans.tolerates (h : Scans w a c warnings root p) :
    Tolerates w c warnings p.analysis (scan w a) := by
  obtain ⟨text, htext, -⟩ := h.exists_document
  obtain ⟨base, files, -, -, hanalysis, hwarnings⟩ := h.exists_files
  have hfiles : p.analysis.files = files := by rw [hanalysis]; rfl
  have hfailed : p.analysis.failedFiles = files.filter (w.fails c) := by rw [hanalysis]; rfl
  rw [h.scan_eq htext]
  constructor
  · rfl
  · rw [hanalysis]
    rfl
  · rw [hfiles, ← hwarnings]
    rfl
  · exact w.length_filterMap_skipWarning? c _
  · rw [hfiles, Outcome.success, skippedNote, hfailed]
    simp only [List.isEmpty_iff]

/-- Which scans reach an analysis: those with an accepted configuration, a folder, and files that can be
    discovered in it. -/
theorem exists_scans_iff :
    (∃ p, Scans w a c warnings root p) ↔
      (∃ directory?, directoryOf w.fs.cwd a = .ok directory? ∧
        w.loadConfig a.config (scanOverrides directory? a) = (.ok c, warnings)) ∧
      scanFolder w.fs c = .ok (root, true) ∧
      ∃ files, Discovery.discover w.fs (Path.placeText root) c.blacklist = .ok files := by
  constructor
  · rintro ⟨p, h⟩
    obtain ⟨base, files, hfiles, -⟩ := h.exists_files
    exact ⟨h.config, h.folder, files, hfiles⟩
  · rintro ⟨hconfig, hfolder, files, hfiles⟩
    rw [← Discovery.discover_normalText] at hfiles
    obtain ⟨p, hp, -⟩ := Analyzer.analyze_of_discover_ok (a := .ofConfig c true) rfl
      (some (Path.placeText root)) rfl hfiles
    exact ⟨p, hconfig, hfolder, hp⟩

section Rewriting

variable {q : Place} {old : ByteArray}

/-- Other bytes in a file that is not the config file leave a scan on its way. -/
theorem exists_scans_rewrite_iff (hq : w.fs.root.at? q = some (.file old)) (bytes : ByteArray)
    (hconfig : w.IsNotConfig a.config q) :
    (∃ p, Scans (w.rewrite q bytes) a c warnings root p) ↔ ∃ p, Scans w a c warnings root p := by
  have hfolder : scanFolder (w.rewrite q bytes).fs c = scanFolder w.fs c := by
    unfold scanFolder
    rw [World.cwd_rewrite]
    cases scanRoot w.fs.cwd c with
    | error fault => rfl
    | ok place =>
      dsimp only
      rw [World.isFolderAt_rewrite hq]
  rw [exists_scans_iff, exists_scans_iff, World.cwd_rewrite, hfolder,
    Discovery.discover_rewrite hq]
  simp only [World.loadConfig_rewrite hq bytes hconfig]

/-- **The exit code of a scan** does not depend on what is in the files of the project. -/
theorem scan_exit_rewrite (hq : w.fs.root.at? q = some (.file old)) (bytes : ByteArray)
    (hconfig : w.IsNotConfig a.config q) :
    (scan (w.rewrite q bytes) a).exit = (scan w a).exit := by
  rcases scan_cases w a with ⟨c, warnings, root, p, h⟩ | hfails
  · obtain ⟨p', h'⟩ := (exists_scans_rewrite_iff hq bytes hconfig).mpr ⟨p, h⟩
    rw [h.tolerates.exit, h'.tolerates.exit]
  · rcases scan_cases (w.rewrite q bytes) a with ⟨c, warnings, root, p', h'⟩ | hfails'
    · obtain ⟨p, h⟩ := (exists_scans_rewrite_iff hq bytes hconfig).mp ⟨p', h'⟩
      rw [h.tolerates.exit, h'.tolerates.exit]
    · rw [hfails.1, hfails'.1]

/-- **Other files are listed alike**: their records, or their failures with the warnings. -/
def ListsOthersAlike (q : Place) (c : Config) (w w' : World) : Prop :=
  ∀ path, w.fs.locate (Path.normalText path) ≠ .ok q →
    w'.recordsOf c path = w.recordsOf c path ∧ w'.fails c path = w.fails c path ∧
      w'.skipWarning? c path = w.skipWarning? c path

/-- Other bytes in one file leave the list of files and all other files as they were. -/
theorem Scans.rewrite (h : Scans w a c warnings root p) (hq : w.fs.root.at? q = some (.file old))
    (bytes : ByteArray) (hconfig : w.IsNotConfig a.config q) :
    ∃ p', Scans (w.rewrite q bytes) a c warnings root p' ∧ p'.analysis.files = p.analysis.files ∧
      ListsOthersAlike q c w (w.rewrite q bytes) := by
  obtain ⟨p', h'⟩ := (exists_scans_rewrite_iff hq bytes hconfig).mpr ⟨p, h⟩
  refine ⟨p', h', ?_, ?_⟩
  · obtain ⟨base, files, hfiles, -, hanalysis, -⟩ := h.exists_files
    obtain ⟨base', files', hfiles', -, hanalysis', -⟩ := h'.exists_files
    rw [Discovery.discover_rewrite hq, hfiles] at hfiles'
    rw [hanalysis, hanalysis', Except.ok.inj hfiles']
    rfl
  · intro path hpath
    have houtline := World.outlineUnder_rewrite hq bytes hpath c
    unfold World.recordsOf World.fails World.skipWarning?
    rw [houtline]
    exact ⟨rfl, rfl, rfl⟩

end Rewriting

/-! ## §5 What is rejected -/

/-- **What is rejected**: a file that is no text and a negative depth by `parse`, a configuration that
    is not accepted by both commands, and a blacklist that cannot be compiled by `scan`. -/
inductive Rejects (w : World) : Command → Arguments → Prop where
  | undecodable {a : Arguments} {fault : Text.DecodeFault} :
      w.fs.read (parsedPath a) = .error (.decode fault) → Rejects w .parse a
  | negativeDepth {a : Arguments} {n : Int} : a.typeDepth = some (.int n) → n < 0 →
      Rejects w .parse a
  | parseConfig {a : Arguments} {fault : Config.LoadFault} {warnings : List Warning} :
      w.loadConfig a.config [] = (.error fault, warnings) → Rejects w .parse a
  | scanConfig {a : Arguments} {directory? : Option String} {fault : Config.LoadFault}
      {warnings : List Warning} : directoryOf w.fs.cwd a = .ok directory? →
      w.loadConfig a.config (scanOverrides directory? a) = (.error fault, warnings) →
      Rejects w .scan a
  | blacklist {a : Arguments} {directory? : Option String} {c : Config} {warnings : List Warning}
      {fault : Glob.RangeFault} : directoryOf w.fs.cwd a = .ok directory? →
      w.loadConfig a.config (scanOverrides directory? a) = (.ok c, warnings) →
      Exclusion.build c.blacklist = .error fault → Rejects w .scan a

/-- There is no outline at a negative depth. -/
theorem outline_of_negative (w : World) (path : String) {n : Int} (hn : n < 0)
    (factories : List String) : ∃ fault, w.outline path (.whole n) factories = .error fault := by
  cases hread : w.fs.read (Path.normalText path) with
  | error fault => exact ⟨_, World.outline_of_read_error hread⟩
  | ok source =>
    rw [World.outline_of_read_ok hread, Outline.ofSource, if_pos (by simpa [Number.budget] using hn)]
    exact ⟨_, rfl⟩

theorem parse_fails_of_rejects (h : Rejects w .parse a) : (parse w a).Fails := by
  refine (parse_cases w a).resolve_left ?_
  rintro ⟨c, warnings, outline, -, hconfig, depth, hdepth, houtline⟩
  cases h with
  | undecodable hread =>
    have hnormal : Path.normalText (parsedPath a) = parsedPath a :=
      congrArg Path.toText (Path.ofText_normalText _)
    rw [World.outline_of_read_error (hnormal ▸ hread)] at houtline
    cases houtline
  | negativeDepth hgiven hn =>
    rw [hgiven] at hdepth
    cases hdepth
    obtain ⟨fault, hfault⟩ := outline_of_negative w (parsedPath a) hn c.routerFactories
    cases hfault.symm.trans houtline
  | parseConfig hload => cases hload.symm.trans hconfig

/-- Nothing is discovered under a blacklist that cannot be compiled. -/
theorem discover_ne_ok {fs : FileSystem} {base : String} {blacklist : List String}
    {fault : Glob.RangeFault} {files : List String} (h : Exclusion.build blacklist = .error fault) :
    Discovery.discover fs base blacklist ≠ .ok files := by
  intro hfiles
  unfold Discovery.discover at hfiles
  split at hfiles
  · cases hfiles
  · rw [Discovery.discoverAt, h] at hfiles
    cases hfiles

theorem scan_fails_of_rejects (h : Rejects w .scan a) : (scan w a).Fails := by
  refine (scan_cases w a).resolve_left ?_
  rintro ⟨c, warnings, root, p, hscans⟩
  obtain ⟨⟨directory?, hdirectory, hload⟩, -, files, hfiles⟩ := exists_scans_iff.mp ⟨p, hscans⟩
  cases h with
  | scanConfig hdirectory' hload' =>
    rw [Except.ok.inj (hdirectory.symm.trans hdirectory'), hload'] at hload
    cases hload
  | blacklist hdirectory' hload' hbuild =>
    rw [Except.ok.inj (hdirectory.symm.trans hdirectory'), hload'] at hload
    cases hload
    exact discover_ne_ok hbuild hfiles

/-! ## §6 Runs -/

theorem run_of_scan {args : List String} (h : readMain args = .ok (.scan, a)) :
    run w args = scan w a := by
  rw [run, h]

theorem run_of_parse {args : List String} (h : readMain args = .ok (.parse, a)) :
    run w args = parse w a := by
  rw [run, h]

/-- A command prints the document that it has. -/
theorem run_of_prints {args : List String} {command : Command} {document : String}
    (hread : readMain args = .ok (command, a)) (h : Prints w command a document) :
    (run w args).exit = 0 ∧ (run w args).output = document ++ "\n" := by
  cases command with
  | scan =>
    rw [run_of_scan hread]
    exact scan_of_prints h
  | parse =>
    cases h with
    | outline h =>
      rw [run_of_parse hread, h.parse_eq]
      exact ⟨rfl, rfl⟩

/-- **A command** prints its document, or it fails and prints nothing. -/
theorem run_ends {args : List String} {command : Command}
    (hread : readMain args = .ok (command, a)) :
    (∃ document, Prints w command a document ∧ (run w args).exit = 0 ∧
      (run w args).output = document ++ "\n") ∨ (run w args).Fails := by
  have hcases : (∃ document, Prints w command a document) ∨ (run w args).Fails := by
    cases command with
    | scan =>
      rw [run_of_scan hread]
      refine (scan_cases w a).imp_left ?_
      rintro ⟨c, warnings, root, p, h⟩
      obtain ⟨document, -, hprints⟩ := h.exists_document
      exact ⟨document, hprints⟩
    | parse =>
      rw [run_of_parse hread]
      refine (parse_cases w a).imp_left ?_
      rintro ⟨c, warnings, outline, h⟩
      exact ⟨_, .outline h⟩
  refine hcases.imp_left ?_
  rintro ⟨document, hprints⟩
  exact ⟨document, hprints, run_of_prints hread hprints⟩

theorem run_fails_of_rejects {args : List String} {command : Command}
    (hread : readMain args = .ok (command, a)) (h : Rejects w command a) : (run w args).Fails := by
  cases command with
  | scan => exact run_of_scan hread ▸ scan_fails_of_rejects h
  | parse => exact run_of_parse hread ▸ parse_fails_of_rejects h

/-- **The output of a run is all or nothing.** Let a run be anything but a request for help. It ends
    with 0, 1 or 2, with 2 exactly for a fault in its arguments. Unless it ends with 0 it prints
    nothing; if it ends with 0 it prints the document of its command and a line end, and it does so
    whenever there is a document. A scan that reaches its analysis tolerates the files that cannot be
    parsed; and other bytes in a file that is not the config file change neither its exit code nor the
    records of any other file. What is rejected ends with 1. -/
theorem output_all_or_nothing (w : World) (args : List String)
    (hhelp : readMain args ≠ .error .help) :
    let o := run w args
    (o.exit = 0 ∨ o.exit = 1 ∨ o.exit = 2) ∧
      (o.exit = 2 ↔ ∃ program fault, readMain args = .error (.fault program fault)) ∧
      (o.exit ≠ 0 → o.output = "") ∧
      (o.exit = 0 → ∃ command a document, readMain args = .ok (command, a) ∧
        Prints w command a document ∧ o.output = document ++ "\n") ∧
      ∀ command a, readMain args = .ok (command, a) →
        (∀ document, Prints w command a document → o.exit = 0 ∧ o.output = document ++ "\n") ∧
        (Rejects w command a → o.exit = 1) ∧
        (command = .scan →
          (∀ c warnings root p, Scans w a c warnings root p → Tolerates w c warnings p.analysis o) ∧
          ∀ q old bytes, w.fs.root.at? q = some (.file old) → w.IsNotConfig a.config q →
            (run (w.rewrite q bytes) args).exit = o.exit ∧
            ∀ c warnings root p, Scans w a c warnings root p →
              ∃ p', Scans (w.rewrite q bytes) a c warnings root p' ∧
                p'.analysis.files = p.analysis.files ∧
                ListsOthersAlike q c w (w.rewrite q bytes)) := by
  intro o
  -- a fault in the arguments comes before everything else
  cases hread : readMain args with
  | error stop =>
    cases stop with
    | help => exact absurd hread hhelp
    | fault program fault =>
      have ho : o = .misused (faultLine program fault) := by
        show run w args = _
        rw [run, hread]
      rw [ho]
      refine ⟨.inr (.inr rfl), ⟨fun _ => ⟨program, fault, rfl⟩, fun _ => rfl⟩, fun _ => rfl, ?_, ?_⟩
      · intro hexit
        cases hexit
      · intro command a hok
        cases hok
  | ok read =>
    obtain ⟨command, a⟩ := read
    have hended : (∃ document, Prints w command a document ∧ o.exit = 0 ∧
        o.output = document ++ "\n") ∨ o.Fails := run_ends hread
    refine ⟨?_, ?_, ?_, ?_, ?_⟩
    · rcases hended with ⟨_, -, hexit, -⟩ | hfails
      · exact .inl hexit
      · exact .inr (.inl hfails.1)
    · have hne : o.exit ≠ 2 := by
        rcases hended with ⟨_, -, hexit, -⟩ | hfails
        · rw [hexit]
          decide
        · rw [hfails.1]
          decide
      refine ⟨fun htwo => absurd htwo hne, ?_⟩
      rintro ⟨program, fault, hfault⟩
      cases hfault
    · intro hexit
      rcases hended with ⟨_, -, hzero, -⟩ | hfails
      · exact absurd hzero hexit
      · exact hfails.2
    · intro hexit
      rcases hended with ⟨document, hprints, -, houtput⟩ | hfails
      · exact ⟨command, a, document, rfl, hprints, houtput⟩
      · exact absurd (hexit.symm.trans hfails.1) (by decide)
    · intro command' a' heq
      cases heq
      refine ⟨fun document hprints => run_of_prints hread hprints,
        fun hrejects => (run_fails_of_rejects hread hrejects).1, ?_⟩
      rintro rfl
      have ho : o = scan w a := run_of_scan hread
      rw [ho]
      refine ⟨fun c warnings root p h => h.tolerates, fun q old bytes hq hconfig => ⟨?_, ?_⟩⟩
      · rw [run_of_scan hread]
        exact scan_exit_rewrite hq bytes hconfig
      · exact fun c warnings root p h => h.rewrite hq bytes hconfig

/-- The scan of a folder with a file that is no text, under a config file that is not there. -/
theorem halfReadable_scans :
    ∃ p, Scans halfReadable (scanArguments "/p" (some "c")) (Config.default.withWorkspace "/p")
        [.noConfigFile "c"] ["p"] p ∧ p.analysis.files = ["/p/a.ts", "/p/b.ts"] := by
  obtain ⟨spec, hspec, hkept⟩ := halfReadable_files
  have hroot : Discovery.folderOf halfReadable.fs "/p" = .ok (["p"], halfReadableFolder) :=
    Discovery.folderOf_eq_ok_iff.mpr ⟨by decide +kernel, by rfl, rfl⟩
  have hplace : Path.placeText ["p"] = "/p" := by decide
  have hblacklist : (Config.default.withWorkspace "/p").blacklist = [] := rfl
  have hfiles : Discovery.discover halfReadable.fs (Path.placeText ["p"])
      (Config.default.withWorkspace "/p").blacklist = .ok ["/p/a.ts", "/p/b.ts"] := by
    rw [hplace, hblacklist, Discovery.discover_of_folderOf hroot, Discovery.discoverAt, hspec]
    dsimp only
    rw [hkept]
    exact congrArg Except.ok (List.mergeSort_of_pairwise (by decide))
  have hmissing : halfReadable.fs.isFile (Path.normalText (Config.pathOr (some "c"))) = .ok false := by
    decide +kernel
  have hload : halfReadable.loadConfig (some "c") [] = (.ok .default, [.noConfigFile "c"]) := by
    unfold World.loadConfig Config.load Config.fileFields
    rw [hmissing]
    rfl
  have hconfig : ∃ directory?,
      directoryOf halfReadable.fs.cwd (scanArguments "/p" (some "c")) = .ok directory? ∧
        halfReadable.loadConfig (some "c") (scanOverrides directory? (scanArguments "/p" (some "c"))) =
          (.ok (Config.default.withWorkspace "/p"), [.noConfigFile "c"]) :=
    ⟨some "/p", by decide +kernel, Config.load_setWorkspace hload "/p"⟩
  obtain ⟨p, h⟩ := exists_scans_iff.mpr ⟨hconfig, by decide +kernel, _, hfiles⟩
  obtain ⟨base, files, hfound, -, hanalysis, -⟩ := h.exists_files
  cases hfiles.symm.trans hfound
  exact ⟨p, h, by rw [hanalysis]; rfl⟩

/-- One file is skipped, and whether it can be read does not matter to the exit code. -/
theorem halfReadable_scan_output :
    ∃ o o' document, run halfReadable ("scan" :: "/p" :: configArguments (some "c")) = o ∧
      run (halfReadable.rewrite ["p", "b.ts"] "".toUTF8)
        ("scan" :: "/p" :: configArguments (some "c")) = o' ∧
      o.output = document ++ "\n" ∧ o.exit = 0 ∧
      o.complaint = some "⚠️  1 files could not be parsed." ∧ o'.exit = 0 := by
  have hread : readMain ("scan" :: "/p" :: configArguments (some "c")) =
      .ok (.scan, scanArguments "/p" (some "c")) := by
    have habsolute : Text.startsWith "/p" "/" = true := by decide
    rcases readMain_scan habsolute (some "c") with hread | ⟨-, path, hpath, hdashed⟩
    · exact hread
    · cases hpath
      exact absurd hdashed (by decide)
  have hhelp : readMain ("scan" :: "/p" :: configArguments (some "c")) ≠ .error .help := by
    intro hhelp
    cases hread.symm.trans hhelp
  obtain ⟨p, hscans, hfiles⟩ := halfReadable_scans
  obtain ⟨-, -, -, hprinted, hcommand⟩ := output_all_or_nothing halfReadable
    ("scan" :: "/p" :: configArguments (some "c")) hhelp
  obtain ⟨-, -, hscan⟩ := hcommand _ _ hread
  obtain ⟨htolerates, hrewrite⟩ := hscan rfl
  have ho := htolerates _ _ _ p hscans
  obtain ⟨command, a, document, -, -, houtput⟩ := hprinted ho.exit
  have hfails : p.analysis.files.filter
      (halfReadable.fails (Config.default.withWorkspace "/p")) = ["/p/b.ts"] := by
    rw [hfiles]
    decide +kernel
  have hconfig : halfReadable.IsNotConfig (some "c") ["p", "b.ts"] := by
    unfold World.IsNotConfig
    decide +kernel
  obtain ⟨hexit, -⟩ := hrewrite ["p", "b.ts"] ⟨#[255]⟩ "".toUTF8 rfl hconfig
  refine ⟨_, _, document, rfl, rfl, houtput, ho.exit, ?_, hexit.trans ho.exit⟩
  rw [ho.number, hfails]
  rfl

end TsOutline.CommandLine
