import TsOutline.Analysis.Analyzer
import TsOutline.Proofs.Coherence
import TsOutline.Proofs.FileSystem

/-!
# The Files of a Project

What an analyzer meets on its way: the settings that a configuration stands for, the files that are
discovered below a root, and their outlines. Every file is discovered once, under a path that leads
back to it; its records carry that path, and its outline depends on nothing but the path, the bytes and
the parser.
-/

namespace TsOutline

/-! ## §1 Settings of a configuration -/

namespace Settings

theorem allTexts?_map_text (texts : List String) : allTexts? (texts.map .text) = some texts := by
  induction texts with
  | nil => rfl
  | cons t rest ih => rw [List.map_cons, allTexts?, ih]; rfl

@[simp] theorem patterns?_ofConfig (c : Config) : (ofConfig c).patterns? = some c.blacklist := by
  rw [patterns?, ofConfig, textsValue]
  split
  · exact allTexts?_map_text c.blacklist
  · -- an empty list is not looked at, and has no patterns either way
    rename_i hempty
    have hnil : c.blacklist = [] := by simpa [Value.isTruthy] using hempty
    rw [hnil]

@[simp] theorem depth?_ofConfig (c : Config) : (ofConfig c).depth? = some (.whole c.typeDepth) :=
  rfl

@[simp] theorem factories?_ofConfig (c : Config) :
    (ofConfig c).factories? = some c.routerFactories := by
  have htexts : Config.textsOf (c.routerFactories.map Value.text) = c.routerFactories := by
    rw [Config.textsOf, List.filterMap_map]
    exact List.filterMap_some
  exact congrArg some htexts

@[simp] theorem collectsTypes_ofConfig (c : Config) :
    (ofConfig c).collectsTypes = c.includeTypes :=
  rfl

@[simp] theorem showsExportedOnly_ofConfig (c : Config) :
    (ofConfig c).showsExportedOnly = c.exportedOnly :=
  rfl

end Settings

/-! ## §2 One file -/

namespace World

variable {w : World} {c : Config}

section Outlines

variable {path : String} {depth : Number} {factories : List String}

theorem outline_of_read_error {fault : FileSystem.ReadFault}
    (h : w.fs.read (Path.normalText path) = .error fault) :
    w.outline path depth factories = .error (.unreadable fault) := by
  unfold outline
  dsimp only
  rw [h]

theorem outline_of_read_ok {source : String}
    (h : w.fs.read (Path.normalText path) = .ok source) :
    w.outline path depth factories =
      (Outline.ofSource w.parse source (Path.normalText path) depth factories).mapError
        .negativeDepth := by
  unfold outline
  dsimp only
  rw [h]
  dsimp only
  cases Outline.ofSource w.parse source (Path.normalText path) depth factories <;> rfl

theorem outlineWith_some (w : World) (path : String) (depth : Number) (factories : List String) :
    w.outlineWith path (some depth) (some factories) = w.outline path depth factories := by
  unfold outlineWith
  cases hread : w.fs.read (Path.normalText path) with
  | error fault => rw [outline_of_read_error hread]
  | ok source => rfl

/-- An outline is that of a tree under the normal form of the path. -/
theorem exists_ofTree_of_outline {o : Outline} (h : w.outline path depth factories = .ok o) :
    ∃ options tree, options.path = Path.normalText path ∧ o = Outline.ofTree options tree := by
  cases hread : w.fs.read (Path.normalText path) with
  | error fault =>
    rw [outline_of_read_error hread] at h
    cases h
  | ok source =>
    rw [outline_of_read_ok hread, Outline.ofSource] at h
    split at h
    · -- a negative depth gives no outline
      cases h
    · cases h
      exact ⟨_, _, rfl, rfl⟩

end Outlines

/-- The outline of a file under a configuration. -/
def outlineUnder (w : World) (c : Config) (path : String) : Except FileFault Outline :=
  w.outline path (.whole c.typeDepth) c.routerFactories

/-- What is listed for a file: nothing for one without an outline. -/
def listedIn : Except FileFault Outline → Outline
  | .ok o => o
  | .error _ => .empty

/-- The records of a file under a configuration. -/
def recordsOf (w : World) (c : Config) (path : String) : Outline :=
  listedIn (w.outlineUnder c path)

/-- The file has no outline. -/
def fails (w : World) (c : Config) (path : String) : Bool :=
  !(w.outlineUnder c path).isOk

/-- Nothing is listed for a file that fails. -/
theorem recordsOf_of_fails {path : String} (h : w.fails c path = true) :
    w.recordsOf c path = .empty := by
  unfold fails at h
  unfold recordsOf
  cases houtline : w.outlineUnder c path with
  | error fault => rfl
  | ok o =>
    rw [houtline] at h
    cases h

theorem analyzer_outline (w : World) (c : Config) (path : String) :
    Analyzer.outline w (.ofConfig c) path = w.outlineUnder c path := by
  rw [Analyzer.outline, Settings.depth?_ofConfig, Settings.factories?_ofConfig, outlineWith_some]
  rfl

/-- Every record carries the path of its file. -/
theorem recordsOf_filePath (w : World) (c : Config) (path : String) :
    (∀ f ∈ (w.recordsOf c path).functions, f.filePath = Path.normalText path) ∧
      ∀ t ∈ (w.recordsOf c path).types, t.filePath = Path.normalText path := by
  unfold recordsOf
  cases houtline : w.outlineUnder c path with
  | error fault =>
    exact ⟨fun f hf => absurd hf List.not_mem_nil, fun t ht => absurd ht List.not_mem_nil⟩
  | ok o =>
    obtain ⟨options, tree, hpath, rfl⟩ := exists_ofTree_of_outline houtline
    obtain ⟨hfunctions, htypes⟩ := Outline.ofTree_coherent options tree
    rw [← hpath]
    exact ⟨fun f hf => (hfunctions f hf).filePath, fun t ht => (htypes t ht).filePath⟩

end World

/-! ## §3 The files of a project -/

namespace Discovery

variable {fs : FileSystem} {root : String} {place : Place} {folder : Entry}
  {spec : Exclusion.Spec}

/-- The normal form of a root has the folder of the root. -/
theorem discover_normalText (fs : FileSystem) (root : String) (blacklist : List String) :
    discover fs (Path.normalText root) blacklist = discover fs root blacklist := by
  rw [discover, folderOf, FileSystem.resolve_normalText]
  rfl

/-- A root has a folder where its place is that of one. -/
theorem folderOf_eq_ok_iff :
    folderOf fs root = .ok (place, folder) ↔
      FileSystem.resolve fs.cwd root = .ok place ∧ fs.root.at? place = some folder ∧
        folder.isFolder = true := by
  unfold folderOf
  cases FileSystem.resolve fs.cwd root with
  | error fault => simp
  | ok p =>
    dsimp only
    constructor
    · intro h
      split at h
      · cases h
      · rename_i hprobe
        cases h
        exact ⟨rfl, FileSystem.probeAt_eq_some_iff.mp hprobe, rfl⟩
      · cases h
    · rintro ⟨heq, hat, hfolder⟩
      cases heq
      rw [FileSystem.probeAt_eq_some_iff.mpr hat]
      cases folder with
      | folder es => rfl
      | file bytes => cases hfolder

theorem discover_of_folderOf (hroot : folderOf fs root = .ok (place, folder))
    (blacklist : List String) : discover fs root blacklist = discoverAt place folder blacklist := by
  rw [discover, hroot]

theorem keptFiles_eq (spec : Exclusion.Spec) (place : Place) (folder : Entry) :
    keptFiles spec place folder =
      (folder.places.filter fun p => isSource p && !Exclusion.excludes spec (relativeText p)).map
        fun p => Path.placeText (place ++ p) :=
  rfl

/-- A path with the file that it is the path of. It can be looked up. -/
structure IsFileAt (fs : FileSystem) (path : String) (p : Place) (bytes : ByteArray) : Prop where
  path : path = Path.placeText p
  ne_nil : p ≠ []
  isPlace : Path.IsPlace p
  short : (Path.placeText p).utf8ByteSize < FileSystem.pathLimit
  file : fs.root.at? p = some (.file bytes)

/-- What is discovered are files. -/
theorem exists_isFileAt_of_mem_keptFiles (hfs : fs.WellFormed) (hfolder : fs.root.at? place = some folder)
    {path : String} (h : path ∈ keptFiles spec place folder) :
    ∃ p bytes, IsFileAt fs path p bytes := by
  obtain ⟨hwell, _⟩ := hfs.root.at? hfolder
  rw [keptFiles_eq] at h
  obtain ⟨p, hp, rfl⟩ := List.mem_map.mp h
  obtain ⟨hmem, hkept⟩ := List.mem_filter.mp hp
  obtain ⟨⟨p, bytes⟩, hfile, rfl⟩ := List.mem_map.mp hmem
  have hat : fs.root.at? (place ++ p) = some (.file bytes) := by
    rw [Entry.at?_append, hfolder]
    exact (Entry.mem_files_iff hwell).mp hfile
  refine ⟨place ++ p, bytes, rfl, ?_, (hfs.root.at? hat).2, hfs.lookup _ _ hat, hat⟩
  -- the root itself has no suffix
  intro hnil
  rw [(List.append_eq_nil_iff.mp hnil).2] at hkept
  cases hkept

/-- No file is discovered twice. -/
theorem keptFiles_nodup (hfs : fs.WellFormed) (hfolder : fs.root.at? place = some folder) :
    (keptFiles spec place folder).Nodup := by
  obtain ⟨hwell, hplace⟩ := hfs.root.at? hfolder
  rw [keptFiles_eq]
  -- places are listed once, and different places have different texts
  refine List.Nodup.map_on ?_ ((Entry.places_nodup hwell).filter _)
  have hbelow {p : Place} (hp : p ∈ folder.places.filter fun p =>
      isSource p && !Exclusion.excludes spec (relativeText p)) : Path.IsPlace (place ++ p) := by
    obtain ⟨⟨p, bytes⟩, hfile, rfl⟩ := List.mem_map.mp (List.mem_filter.mp hp).1
    exact hplace.append (hwell.at? ((Entry.mem_files_iff hwell).mp hfile)).2
  intro p hp q hq heq
  exact List.append_cancel_left (Path.placeText_inj (hbelow hp) (hbelow hq) heq)

end Discovery

/-! ## §4 Outlines of discovered files -/

namespace World

variable {w w' : World} {c : Config} {path : String} {p : Place} {bytes : ByteArray}

theorem recordsOf_stamped (h : Discovery.IsFileAt w.fs path p bytes) (c : Config) :
    (∀ f ∈ (w.recordsOf c path).functions, f.filePath = path) ∧
      ∀ t ∈ (w.recordsOf c path).types, t.filePath = path := by
  have hrecords := w.recordsOf_filePath c path
  rwa [h.path, Path.normalText_placeText h.isPlace, ← h.path] at hrecords

/-- What is read under the path of a file. -/
theorem read_isFileAt (h : Discovery.IsFileAt w.fs path p bytes) :
    w.fs.read (Path.normalText path) = FileSystem.textOf bytes := by
  rw [h.path, Path.normalText_placeText h.isPlace]
  exact FileSystem.read_placeText h.ne_nil h.isPlace h.short h.file

/-- An outline depends on the path and the bytes of its file, and on the parser. -/
theorem outlineUnder_congr (h : Discovery.IsFileAt w.fs path p bytes)
    (h' : Discovery.IsFileAt w'.fs path p bytes) (hparse : w'.parse = w.parse) :
    w'.outlineUnder c path = w.outlineUnder c path := by
  have hsame : w'.fs.read (Path.normalText path) = w.fs.read (Path.normalText path) :=
    (read_isFileAt h').trans (read_isFileAt h).symm
  unfold outlineUnder
  cases hread : w.fs.read (Path.normalText path) with
  | error fault =>
    rw [outline_of_read_error hread, outline_of_read_error (hsame.trans hread)]
  | ok source =>
    rw [outline_of_read_ok hread, outline_of_read_ok (hsame.trans hread), hparse]

/-- **Why a file fails**: its bytes are no text, or the depth is negative. -/
theorem fails_iff (h : Discovery.IsFileAt w.fs path p bytes) :
    w.fails c path = true ↔ (Text.decode bytes).isOk = false ∨ c.typeDepth < 0 := by
  have hread := read_isFileAt h
  rw [FileSystem.textOf] at hread
  unfold fails outlineUnder
  cases hdecode : Text.decode bytes with
  | error fault =>
    rw [hdecode] at hread
    simp [outline_of_read_error hread, Except.isOk, Except.toBool]
  | ok source =>
    rw [hdecode] at hread
    rw [outline_of_read_ok hread, Outline.ofSource]
    by_cases hdepth : c.typeDepth < 0 <;>
      simp [Number.budget, hdepth, Except.mapError, Except.isOk, Except.toBool]

end World

/-! ## §5 File after file -/

namespace Analysis

/-- Adds the records of files, or their failures. -/
def addFiles (w : World) (c : Config) (r : Analysis) (paths : List String) : Analysis :=
  { r with functions := r.functions ++ paths.flatMap fun f => (w.recordsOf c f).functions,
           types := if c.includeTypes then r.types ++ paths.flatMap fun f => (w.recordsOf c f).types
             else r.types,
           failedFiles := r.failedFiles ++ paths.filter (w.fails c) }

/-- The analysis of files below a root. -/
def ofFiles (w : World) (c : Config) (root : String) (files : List String) : Analysis :=
  addFiles w c { empty root with files := files } files

theorem addFiles_cons (w : World) (c : Config) (r : Analysis) (path : String)
    (rest : List String) :
    r.addFiles w c (path :: rest) = (r.addFiles w c [path]).addFiles w c rest := by
  simp only [addFiles, List.flatMap_cons, List.flatMap_nil, List.append_nil, List.append_assoc,
    ← List.filter_append, List.singleton_append]
  cases c.includeTypes <;> simp

/-- Every record carries the normal form of the path of a file that has an outline. -/
theorem filePath_ofFiles (w : World) (c : Config) (root : String) (files : List String) :
    (∀ f ∈ (ofFiles w c root files).functions,
      ∃ path ∈ files, w.fails c path = false ∧ f.filePath = Path.normalText path) ∧
      ∀ t ∈ (ofFiles w c root files).types,
        ∃ path ∈ files, w.fails c path = false ∧ t.filePath = Path.normalText path := by
  have hfails {path : String} (h : w.recordsOf c path ≠ .empty) : w.fails c path = false :=
    Bool.eq_false_iff.mpr fun hfails => h (World.recordsOf_of_fails hfails)
  constructor
  · intro f hf
    obtain ⟨path, hpath, hf⟩ := List.mem_flatMap.mp hf
    refine ⟨path, hpath, hfails fun hempty => ?_, (w.recordsOf_filePath c path).1 f hf⟩
    rw [hempty] at hf
    cases hf
  · intro t ht
    dsimp only [ofFiles, addFiles] at ht
    split at ht
    · obtain ⟨path, hpath, ht⟩ := List.mem_flatMap.mp ht
      refine ⟨path, hpath, hfails fun hempty => ?_, (w.recordsOf_filePath c path).2 t ht⟩
      rw [hempty] at ht
      cases ht
    · cases ht

end Analysis

namespace Analyzer

variable {w : World} {c : Config}

theorem count_settings (a : Analyzer) (f : Metrics → Metrics) :
    (a.count f).settings = a.settings := by
  unfold count
  split <;> rfl

/-- One file: the settings stay, and the analysis has the records of the file or its failure. -/
theorem extract_eq {p : Progress} (hs : p.analyzer.settings = .ofConfig c) (path : String) :
    (extract w p path).analyzer.settings = .ofConfig c ∧
      (extract w p path).analysis = p.analysis.addFiles w c [path] := by
  unfold extract
  dsimp only
  rw [hs, w.analyzer_outline]
  cases houtline : w.outlineUnder c path with
  | error fault =>
    -- a failure adds no record and one failed file, a success the other way round
    refine ⟨(count_settings ..).trans hs, ?_⟩
    simp [Analysis.addFailed, Analysis.addFiles, World.recordsOf, World.listedIn, World.fails,
      houtline, Outline.empty, Except.isOk, Except.toBool]
  | ok o =>
    refine ⟨(count_settings ..).trans hs, ?_⟩
    cases htypes : c.includeTypes <;>
      simp [Analysis.add, Analysis.addFiles, World.recordsOf, World.listedIn, World.fails,
        houtline, htypes, Except.isOk, Except.toBool]

/-- All files, one after the other. -/
theorem extractAll_eq {p : Progress} (hs : p.analyzer.settings = .ofConfig c)
    (paths : List String) :
    (extractAll w p paths).analyzer.settings = .ofConfig c ∧
      (extractAll w p paths).analysis = p.analysis.addFiles w c paths := by
  induction paths generalizing p with
  | nil =>
    refine ⟨hs, ?_⟩
    simp [extractAll, Analysis.addFiles]
  | cons path rest ih =>
    obtain ⟨hsettings, hanalysis⟩ := extract_eq (w := w) hs path
    -- the settings are an invariant of the loop: they decide how the next file is read
    have hcons : extractAll w p (path :: rest) = extractAll w (extract w p path) rest := rfl
    rw [hcons, Analysis.addFiles_cons, ← hanalysis]
    exact ih hsettings

variable {a : Analyzer} {root : String}

/-- An analysis adds all files that are discovered below its root. -/
theorem analyze_of_discover_ok (ha : a.settings = .ofConfig c) (root? : Option String)
    (hroot : rootOf w.fs.cwd (.ofConfig c) root? = .ok root) {files : List String}
    (hfiles : Discovery.discover w.fs root c.blacklist = .ok files) :
    ∃ p, a.analyze w root? = .ok p ∧ p.analyzer.settings = .ofConfig c ∧
      p.analysis = .ofFiles w c root files := by
  refine ⟨extractAll w ⟨a, { Analysis.empty root with files := files }, []⟩ files, ?_,
    extractAll_eq ha files⟩
  rw [analyze, ha, hroot]
  dsimp only
  rw [Settings.patterns?_ofConfig]
  dsimp only
  rw [hfiles]

/-- There is no analysis where nothing can be discovered. -/
theorem analyze_of_discover_error (ha : a.settings = .ofConfig c) (root? : Option String)
    (hroot : rootOf w.fs.cwd (.ofConfig c) root? = .ok root) {fault : Discovery.Fault}
    (h : Discovery.discover w.fs root c.blacklist = .error fault) :
    a.analyze w root? = .error (.discovery fault) := by
  rw [analyze, ha, hroot]
  dsimp only
  rw [Settings.patterns?_ofConfig]
  dsimp only
  rw [h]

end Analyzer

end TsOutline
