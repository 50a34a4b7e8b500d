import TsOutline.Analysis.Analyzer

/-!
# Calls of the Extraction

The extraction is called once for each file. A *call* is kept here with the analysis before and after
it; what it appended is read off the two analyses and not off the counts, so that the counts can be
compared with it.

- **Calls**: a call appends the records of its file, or the path of the file to the failed ones, and
  nothing else (`appended_of_ok`, `appended_of_error`, `appends_callOn`).
- **Counts** (`Accounts.extractAll`): an analyzer that keeps count counts its calls and what they
  appended, however many there are.
- **Analyses** (`analyze_eq_ok_iff`, `analyze_agree`): which of them succeed, and that the settings of
  the analyzer decide everything about them but the counts.
-/

namespace TsOutline

namespace Analyzer

/-! ## §1 Calls -/

/-- One call of the extraction: the file, whether the call succeeded, and the analysis before and
    after it. -/
structure Call where
  path : String
  succeeded : Bool
  before : Analysis
  after : Analysis

namespace Call

/-- The functions that the call appended. -/
def functions (c : Call) : List FunctionSignature :=
  c.after.functions.drop c.before.functions.length

/-- The types that the call appended. -/
def types (c : Call) : List TypeSignature :=
  c.after.types.drop c.before.types.length

/-- The paths that the call appended to the failed files. -/
def failedFiles (c : Call) : List String :=
  c.after.failedFiles.drop c.before.failedFiles.length

end Call

/-- The call that extracts a file. -/
def callOn (w : World) (p : Progress) (path : String) : Call :=
  ⟨path, hasOutline w p.analyzer.settings path, p.analysis, (extract w p path).analysis⟩

/-- The calls that extract files one after the other. -/
def callsOn (w : World) (p : Progress) : List String → List Call
  | [] => []
  | path :: rest => callOn w p path :: callsOn w (extract w p path) rest

theorem map_path_callsOn (w : World) (p : Progress) (paths : List String) :
    (callsOn w p paths).map Call.path = paths := by
  induction paths generalizing p with
  | nil => rfl
  | cons path rest ih => rw [callsOn, List.map_cons, ih]; rfl

/-- Extracting goes on from where the first file left it. -/
theorem extractAll_cons (w : World) (p : Progress) (path : String) (rest : List String) :
    extractAll w p (path :: rest) = extractAll w (extract w p path) rest := by
  rw [extractAll, List.foldl_cons, extractAll]

variable {w : World} {p : Progress} {path : String}

/-- **A failing call** notes the failure. -/
theorem extract_of_error {fault : FileFault}
    (h : outline w p.analyzer.settings path = .error fault) :
    extract w p path = ⟨p.analyzer.count Metrics.countFailure, p.analysis.addFailed path,
      p.warnings ++ [.skippedFile path fault.message]⟩ := by
  unfold extract
  dsimp only
  rw [h]

/-- **A call that succeeds** adds the outline. -/
theorem extract_of_ok {o : Outline} (h : outline w p.analyzer.settings path = .ok o) :
    extract w p path = ⟨p.analyzer.count fun m => m.countOutline o,
      p.analysis.add p.analyzer.settings.collectsTypes o, p.warnings⟩ := by
  unfold extract
  dsimp only
  rw [h]

theorem hasOutline_eq_false_iff {s : Settings} :
    hasOutline w s path = false ↔ ∃ fault, outline w s path = .error fault := by
  unfold hasOutline
  cases outline w s path <;> simp

/-- What a failing call appended: its path to the failed files. -/
theorem appended_of_error {fault : FileFault}
    (h : outline w p.analyzer.settings path = .error fault) :
    (callOn w p path).functions = [] ∧ (callOn w p path).types = [] ∧
      (callOn w p path).failedFiles = [path] := by
  simp [Call.functions, Call.types, Call.failedFiles, callOn, extract_of_error h,
    Analysis.addFailed]

/-- What a call that succeeds appended: the functions, and the types if they are collected. -/
theorem appended_of_ok {o : Outline} (h : outline w p.analyzer.settings path = .ok o) :
    (callOn w p path).functions = o.functions ∧
      (callOn w p path).types = (if p.analyzer.settings.collectsTypes then o.types else []) ∧
      (callOn w p path).failedFiles = [] := by
  cases hcollects : p.analyzer.settings.collectsTypes <;>
    simp [Call.functions, Call.types, Call.failedFiles, callOn, extract_of_ok h, Analysis.add,
      hcollects]

/-- What calls appended leads from one analysis to another. -/
structure Appends (r r' : Analysis) (calls : List Call) : Prop where
  root : r'.root = r.root
  files : r'.files = r.files
  functions : r'.functions = r.functions ++ calls.flatMap Call.functions
  types : r'.types = r.types ++ calls.flatMap Call.types
  failed : r'.failedFiles = r.failedFiles ++ calls.flatMap Call.failedFiles

theorem Appends.refl (r : Analysis) : Appends r r [] := by
  constructor <;> simp

theorem Appends.cons {r r' r'' : Analysis} {call : Call} {calls : List Call}
    (h : Appends r r' [call]) (hs : Appends r' r'' calls) : Appends r r'' (call :: calls) where
  root := hs.root.trans h.root
  files := hs.files.trans h.files
  functions := by rw [hs.functions, h.functions]; simp
  types := by rw [hs.types, h.types]; simp
  failed := by rw [hs.failed, h.failed]; simp

/-- A call appends to the analysis, and does nothing else to it. -/
theorem appends_callOn (w : World) (p : Progress) (path : String) :
    Appends p.analysis (extract w p path).analysis [callOn w p path] := by
  cases houtline : outline w p.analyzer.settings path with
  | error fault =>
    obtain ⟨hfunctions, htypes, hfailed⟩ := appended_of_error houtline
    rw [extract_of_error houtline]
    constructor <;> simp [hfunctions, htypes, hfailed, Analysis.addFailed]
  | ok o =>
    obtain ⟨hfunctions, htypes, hfailed⟩ := appended_of_ok houtline
    rw [extract_of_ok houtline]
    -- types are appended or left out as a whole
    cases hcollects : p.analyzer.settings.collectsTypes <;> constructor <;>
      simp [hfunctions, htypes, hfailed, Analysis.add, hcollects]

theorem appends_callsOn (w : World) (p : Progress) (paths : List String) :
    Appends p.analysis (extractAll w p paths).analysis (callsOn w p paths) := by
  induction paths generalizing p with
  | nil => exact .refl _
  | cons path rest ih =>
    rw [extractAll_cons, callsOn]
    exact (appends_callOn w p path).cons (ih _)

/-- **Failures are atomic**: a call that does not succeed appends its path to the failed files and
    changes nothing else. -/
def Call.IsAtomic (c : Call) : Prop :=
  c.succeeded = false →
    c.after = { c.before with failedFiles := c.before.failedFiles ++ [c.path] }

theorem isAtomic_callOn (w : World) (p : Progress) (path : String) :
    (callOn w p path).IsAtomic := by
  unfold Call.IsAtomic callOn
  dsimp only
  intro hfailed
  obtain ⟨fault, hfault⟩ := hasOutline_eq_false_iff.mp hfailed
  rw [extract_of_error hfault]
  rfl

theorem isAtomic_of_mem_callsOn {call : Call} {paths : List String}
    (h : call ∈ callsOn w p paths) : call.IsAtomic := by
  induction paths generalizing p with
  | nil => cases h
  | cons path rest ih =>
    rcases List.mem_cons.mp h with rfl | hrest
    · exact isAtomic_callOn w p path
    · exact ih hrest

/-! ## §2 Counts -/

/-- **The counts are those of the calls**: every call is counted as a file or as a failure, and what
    was appended is counted. -/
structure Accounts (m : Metrics) (calls : List Call) : Prop where
  total : m.totalFiles + m.failedFiles = calls.length
  failed : m.failedFiles = (calls.flatMap Call.failedFiles).length
  functions : m.totalFunctions = (calls.flatMap Call.functions).length

theorem accounts_zero : Accounts .zero [] :=
  ⟨rfl, rfl, rfl⟩

theorem count_of_monitors {a : Analyzer} (h : a.monitors = true) (f : Metrics → Metrics) :
    a.count f = { a with metrics := f a.metrics } := by
  rw [count, if_pos h]

theorem count_of_not_monitors {a : Analyzer} (h : a.monitors = false) (f : Metrics → Metrics) :
    a.count f = a := by
  rw [count, if_neg (by rw [h]; decide)]

/-- The analyzer after a call: the settings and the decision to keep count stay. -/
theorem exists_count_extract (w : World) (p : Progress) (path : String) :
    ∃ f, (extract w p path).analyzer = p.analyzer.count f := by
  cases houtline : outline w p.analyzer.settings path with
  | error fault => exact ⟨Metrics.countFailure, by rw [extract_of_error houtline]⟩
  | ok o => exact ⟨fun m => m.countOutline o, by rw [extract_of_ok houtline]⟩

theorem extract_analyzer (w : World) (p : Progress) (path : String) :
    (extract w p path).analyzer.settings = p.analyzer.settings ∧
      (extract w p path).analyzer.monitors = p.analyzer.monitors := by
  obtain ⟨f, hf⟩ := exists_count_extract w p path
  rw [hf, count]
  split <;> exact ⟨rfl, rfl⟩

theorem extractAll_analyzer (w : World) (p : Progress) (paths : List String) :
    (extractAll w p paths).analyzer.settings = p.analyzer.settings ∧
      (extractAll w p paths).analyzer.monitors = p.analyzer.monitors := by
  induction paths generalizing p with
  | nil => exact ⟨rfl, rfl⟩
  | cons path rest ih =>
    obtain ⟨hsettings, hmonitors⟩ := extract_analyzer w p path
    obtain ⟨hsettings', hmonitors'⟩ := ih (extract w p path)
    rw [extractAll_cons]
    exact ⟨hsettings'.trans hsettings, hmonitors'.trans hmonitors⟩

/-- **One call** is accounted for. -/
theorem Accounts.extract {calls : List Call} (h : Accounts p.analyzer.metrics calls)
    (hm : p.analyzer.monitors = true) (path : String) :
    Accounts (extract w p path).analyzer.metrics (calls ++ [callOn w p path]) := by
  obtain ⟨htotal, hfailed, hfunctions⟩ := h
  cases houtline : outline w p.analyzer.settings path with
  | error fault =>
    obtain ⟨hnone, -, hone⟩ := appended_of_error houtline
    rw [extract_of_error houtline, count_of_monitors hm]
    constructor
    · rw [List.length_append, ← htotal]
      exact (Nat.add_assoc ..).symm
    · rw [List.flatMap_append, List.length_append, ← hfailed, List.flatMap_singleton, hone]
      rfl
    · rw [List.flatMap_append, List.length_append, ← hfunctions, List.flatMap_singleton, hnone]
      rfl
  | ok o =>
    obtain ⟨hsome, -, hnone⟩ := appended_of_ok houtline
    rw [extract_of_ok houtline, count_of_monitors hm]
    constructor
    · rw [List.length_append, ← htotal]
      exact Nat.add_right_comm ..
    · rw [List.flatMap_append, List.length_append, ← hfailed, List.flatMap_singleton, hnone]
      rfl
    · rw [List.flatMap_append, List.length_append, ← hfunctions, List.flatMap_singleton, hsome]
      rfl

/-- **All calls** of an extraction are accounted for. -/
theorem Accounts.extractAll {calls : List Call} (h : Accounts p.analyzer.metrics calls)
    (hm : p.analyzer.monitors = true) (paths : List String) :
    Accounts (extractAll w p paths).analyzer.metrics (calls ++ callsOn w p paths) := by
  induction paths generalizing p calls with
  | nil => simpa [callsOn, Analyzer.extractAll] using h
  | cons path rest ih =>
    have hone := h.extract (w := w) hm path
    have hrest := ih hone ((extract_analyzer w p path).2.trans hm)
    rw [List.append_assoc] at hrest
    rw [extractAll_cons, callsOn]
    exact hrest

/-- Without monitoring, files leave no trace in the analyzer. -/
theorem extractAll_of_not_monitors (hm : p.analyzer.monitors = false) (paths : List String) :
    (extractAll w p paths).analyzer = p.analyzer := by
  induction paths generalizing p with
  | nil => rfl
  | cons path rest ih =>
    have hone : (extract w p path).analyzer = p.analyzer := by
      obtain ⟨f, hf⟩ := exists_count_extract w p path
      rw [hf, count_of_not_monitors hm]
    have hm' : (extract w p path).analyzer.monitors = false := by rw [hone, hm]
    rw [extractAll_cons, ih hm', hone]

/-! ## §3 Analyses -/

/-- Where an analysis starts: its files are known, and nothing has been extracted. -/
def fresh (root : String) (files : List String) : Analysis :=
  { Analysis.empty root with files := files }

/-- **Which analyses succeed**: those with a root, a usable blacklist and a folder to look into. They
    extract what is discovered. -/
theorem analyze_eq_ok_iff {a : Analyzer} {root? : Option String} :
    a.analyze w root? = .ok p ↔
      ∃ root blacklist files, rootOf w.fs.cwd a.settings root? = .ok root ∧
        a.settings.patterns? = some blacklist ∧
        Discovery.discover w.fs root blacklist = .ok files ∧
        p = extractAll w ⟨a, fresh root files, []⟩ files := by
  unfold analyze
  constructor
  · intro h
    split at h
    · cases h
    · rename_i root hroot
      split at h
      · cases h
      · rename_i blacklist hblacklist
        split at h
        · cases h
        · rename_i files hfiles
          exact ⟨root, blacklist, files, hroot, hblacklist, hfiles, (Except.ok.inj h).symm⟩
  · rintro ⟨root, blacklist, files, hroot, hblacklist, hfiles, rfl⟩
    rw [hroot]
    dsimp only
    rw [hblacklist]
    dsimp only
    rw [hfiles]
    rfl

/-- Two extractions that differ in their counts at most. -/
structure Progress.Agree (p p' : Progress) : Prop where
  settings : p'.analyzer.settings = p.analyzer.settings
  analysis : p'.analysis = p.analysis
  warnings : p'.warnings = p.warnings

theorem Progress.Agree.extract {p' : Progress} (h : p.Agree p') (path : String) :
    (extract w p path).Agree (extract w p' path) := by
  have hsettings : (Analyzer.extract w p' path).analyzer.settings =
      (Analyzer.extract w p path).analyzer.settings := by
    rw [(extract_analyzer w p' path).1, (extract_analyzer w p path).1, h.settings]
  cases houtline : outline w p.analyzer.settings path with
  | error fault =>
    refine ⟨hsettings, ?_, ?_⟩
    all_goals
      rw [extract_of_error (h.settings ▸ houtline), extract_of_error houtline, h.analysis,
        h.warnings]
  | ok o =>
    refine ⟨hsettings, ?_, ?_⟩
    all_goals
      rw [extract_of_ok (h.settings ▸ houtline), extract_of_ok houtline, h.settings, h.analysis,
        h.warnings]

theorem Progress.Agree.extractAll {p' : Progress} (h : p.Agree p') (paths : List String) :
    (extractAll w p paths).Agree (extractAll w p' paths) := by
  induction paths generalizing p p' with
  | nil => exact h
  | cons path rest ih =>
    rw [extractAll_cons, extractAll_cons]
    exact ih (h.extract path)

/-- **An analysis depends on the settings only**, not on the counts or on whether they are kept. -/
theorem analyze_agree {a a' : Analyzer} (h : a'.settings = a.settings) (w : World)
    (root? : Option String) :
    (∃ fault, a.analyze w root? = .error fault ∧ a'.analyze w root? = .error fault) ∨
      ∃ p p', a.analyze w root? = .ok p ∧ a'.analyze w root? = .ok p' ∧ p.Agree p' := by
  unfold analyze
  rw [h]
  cases rootOf w.fs.cwd a.settings root? with
  | error fault => exact .inl ⟨fault, rfl, rfl⟩
  | ok root =>
    dsimp only
    cases a.settings.patterns? with
    | none => exact .inl ⟨.wrongType, rfl, rfl⟩
    | some blacklist =>
      dsimp only
      cases Discovery.discover w.fs root blacklist with
      | error fault => exact .inl ⟨.discovery fault, rfl, rfl⟩
      | ok files =>
        have hstart : Progress.Agree ⟨a, fresh root files, []⟩ ⟨a', fresh root files, []⟩ :=
          ⟨h, rfl, rfl⟩
        exact .inr ⟨_, _, rfl, rfl, hstart.extractAll files⟩

end Analyzer

end TsOutline
