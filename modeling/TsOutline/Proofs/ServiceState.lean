import TsOutline.Proofs.Accounting.Project
import TsOutline.Proofs.GivenOptions

/-!
# The State of the Service

The service keeps one thing from request to request, its configuration. This module says where it comes
from in every history of requests, and what the tool that writes the document can answer.

- **One request** (`handle_does`): a start that succeeds loads the configuration that its arguments
  give; everything else, failures included, leaves the service as it was.
- **Histories** (`answers_depend_on_last_start`): every outcome is that of a service with nothing but
  the configuration of the last start that succeeded.
- **The document** (`exists_document`): the tool fails only for a configured path with a null
  character. Where it has no report it says something in its place and counts nothing.
-/

namespace TsOutline

namespace Workspace

/-! ## §1 Faults of workspaces -/

variable {fs : FileSystem} {cwd : Place} {args : List String} {setting? : Option String}
  {fault : Fault}

/-- What is wrong with the environment and the arguments is never the place of a path. -/
theorem resolve_eq_error (h : resolve fs setting? args = .error fault) :
    fault = .notGiven ∨ fault = .badArgument := by
  have harguments {fault : Fault} (h : ofArguments fs args = .error fault) :
      fault = .notGiven ∨ fault = .badArgument := by
    unfold ofArguments at h
    split at h
    · exact .inl (Except.error.inj h).symm
    · split at h
      · exact .inl (Except.error.inj h).symm
      · split at h
        · cases h
        · exact .inr (Except.error.inj h).symm
  unfold resolve at h
  split at h
  · split at h
    · cases h
    · exact harguments h
  · exact harguments h

/-- A configured path means no place only for a null character. -/
theorem hasNull_of_ofConfig {c : Config} {access : AccessFault}
    (h : ofConfig cwd c = .error (.noPlace access)) :
    ∃ path, c.workspace = some path ∧ FileSystem.hasNull path = true := by
  unfold ofConfig absolute FileSystem.resolve at h
  split at h
  · rename_i path hworkspace
    refine ⟨path, hworkspace, ?_⟩
    by_contra hnull
    rw [if_neg hnull] at h
    split at h <;> cases h
  · cases h

end Workspace

namespace Service

open CommandLine (GivenOption IsRow assigned? lastGiven? readService serviceUsage fieldOf)

variable {w : World} {s : Service} {c : Config} {args : List String} {setting? : Option String}

/-! ## §2 One request -/

/-- The blacklist that a row of options gives, as the override of a start. -/
def givenBlacklist (row : List GivenOption) : Config.Fields :=
  fieldOf "blacklist" ((lastGiven? .blacklist row).map fun g =>
    Settings.textsValue (Exclusion.entriesOf (g.values.head?.getD "")))

/-- Arguments that are accepted are a row of options, and what is loaded under them is decided by the
    config file and the blacklist that were given last. -/
theorem exists_row_of_load {a : CommandLine.Arguments} (hread : readService args = .ok a) :
    ∃ row, IsRow serviceUsage args (CommandLine.read serviceUsage args).events row ∧
      w.loadConfig a.config (startOverrides a) =
        w.loadConfig (assigned? .config row) (givenBlacklist row) := by
  obtain ⟨row, hrow⟩ := (CommandLine.exists_row_of_readService hread).1
  obtain ⟨hconfig, hblacklist⟩ := CommandLine.readService_row hread hrow
  refine ⟨row, hrow, ?_⟩
  rw [startOverrides, hconfig, hblacklist, Option.map_map]
  rfl

/-- **What a request does.** A start loads the configuration of its config file and its blacklist, or
    fails for its arguments or for that configuration. -/
inductive Does (w : World) (s : Service) : Request → Outcome → Prop where
  | started {args : List String} {a : CommandLine.Arguments} {row : List GivenOption} {c : Config}
      {warnings : List Warning} :
      readService args = .ok a →
      IsRow serviceUsage args (CommandLine.read serviceUsage args).events row →
      w.loadConfig (assigned? .config row) (givenBlacklist row) = (.ok c, warnings) →
      Does w s (.start args) ⟨⟨some c⟩, .started c, warnings⟩
  | misused {args : List String} {stop : CommandLine.Stop} :
      readService args = .error stop → Does w s (.start args) ⟨s, .misused stop, []⟩
  | notStarted {args : List String} {a : CommandLine.Arguments} {row : List GivenOption}
      {fault : Config.LoadFault} {warnings : List Warning} :
      readService args = .ok a →
      IsRow serviceUsage args (CommandLine.read serviceUsage args).events row →
      w.loadConfig (assigned? .config row) (givenBlacklist row) = (.error fault, warnings) →
      Does w s (.start args) ⟨s, .notStarted fault, warnings⟩
  /-- Everything but a start leaves the service as it is, whatever it answers. -/
  | asked {r : Request} (answer : Answer) (warnings : List Warning) :
      (∀ args, r ≠ .start args) → Does w s r ⟨s, answer, warnings⟩

/-- The configuration that a request loads in its world, if it is a start that succeeds. -/
def loaded? : World × Request → Option Config
  | (w, .start args) =>
    match readService args with
    | .ok a => (w.loadConfig a.config (startOverrides a)).1.toOption
    | .error _ => none
  | _ => none

theorem start_does (w : World) (s : Service) (args : List String) :
    Does w s (.start args) (s.start w args) ∧
      (s.start w args).service = ⟨(loaded? (w, .start args)).or s.config⟩ := by
  unfold start
  rw [loaded?]
  cases hread : readService args with
  | error stop => exact ⟨.misused hread, rfl⟩
  | ok a =>
    obtain ⟨row, hrow, hsame⟩ := exists_row_of_load (w := w) hread
    dsimp only
    rw [hsame]
    cases hload : w.loadConfig (assigned? .config row) (givenBlacklist row) with
    | mk result warnings =>
      cases result with
      | ok c => exact ⟨.started hread hrow hload, rfl⟩
      | error fault => exact ⟨.notStarted hread hrow hload, rfl⟩

theorem structureDocument_service (w : World) (s : Service) (args : List String)
    (setting? : Option String) : (s.structureDocument w args setting?).service = s := by
  unfold structureDocument
  dsimp only
  split <;> rfl

/-- **One request**: what it does, and the configuration after it. -/
theorem handle_does (w : World) (s : Service) (r : Request) :
    Does w s r (s.handle w r) ∧ (s.handle w r).service = ⟨(loaded? (w, r)).or s.config⟩ := by
  cases r with
  | start args => exact start_does w s args
  | structureDocument args setting? =>
    have hservice := structureDocument_service w s args setting?
    rw [handle_structureDocument]
    generalize s.structureDocument w args setting? = o at hservice
    obtain ⟨service, answer, warnings⟩ := o
    cases hservice
    exact ⟨.asked answer warnings nofun, rfl⟩
  | context | tools | ping | fileSignatures => exact ⟨.asked _ _ nofun, rfl⟩

/-! ## §3 Histories -/

/-- The configuration of the last start that succeeded, or the first one if there was none. -/
def lastLoaded (first? : Option Config) (steps : List (World × Request)) : Option Config :=
  (steps.filterMap loaded?).getLast?.or first?

theorem lastLoaded_cons (first? : Option Config) (step : World × Request)
    (rest : List (World × Request)) :
    lastLoaded first? (step :: rest) = lastLoaded ((loaded? step).or first?) rest := by
  unfold lastLoaded
  cases hloaded : loaded? step with
  | none => rw [List.filterMap_cons_none hloaded, Option.none_or]
  | some c =>
    -- a later start hides this one
    rw [List.filterMap_cons_some hloaded, List.getLast?_cons, Option.some_or]
    cases (rest.filterMap loaded?).getLast? <;> rfl

/-- **A history** hands on the configuration of the last start that succeeded, and nothing else. -/
theorem run_concat (s : Service) (steps : List (World × Request)) (w : World) (r : Request) :
    s.run (steps ++ [(w, r)]) =
      s.run steps ++ [(⟨lastLoaded s.config steps⟩ : Service).handle w r] := by
  induction steps generalizing s with
  | nil => rfl
  | cons step rest ih =>
    obtain ⟨w', r'⟩ := step
    rw [lastLoaded_cons, List.cons_append, run, run, ih, (handle_does w' s r').2]
    rfl

/-! ## §4 The document -/

/-- **A report**: the rendered analysis of at least one file, with its counts. -/
def Document.IsReport (w : World) (c : Config) (d : Document) : Prop :=
  ∃ p, (Analyzer.ofConfig c true).analyze w none = .ok p ∧ p.analysis.files ≠ [] ∧
    Analyzer.render w.fs.cwd p.analyzer.settings p.analysis = .ok d.text ∧
    d.filesScanned = p.analysis.files.length ∧
    d.functionCount = p.analysis.functions.length - p.analysis.procedureCount ∧
    d.procedureCount = p.analysis.procedureCount ∧
    d.typeCount = p.analysis.types.length

/-- **A note** in place of a report says something and counts nothing. -/
def Document.IsNote (d : Document) : Prop :=
  d.text ≠ "" ∧ d.filesScanned = 0 ∧ d.functionCount = 0 ∧ d.procedureCount = 0 ∧ d.typeCount = 0

theorem isNote_note {text : String} (h : text ≠ "") : (Document.note text).IsNote :=
  ⟨h, rfl, rfl, rfl, rfl⟩

/-- What there is to say about a project is a report or a note. -/
theorem documentOf_cases (w : World) (c : Config) :
    (documentOf w c).1.IsReport w c ∨ (documentOf w c).1.IsNote := by
  unfold documentOf
  cases hp : (Analyzer.ofConfig c true).analyze w none with
  | error fault => exact .inr (isNote_note (by simp))
  | ok p =>
    -- rendering is the last step that could fail, and it does not
    obtain ⟨text, htext⟩ := Analyzer.exists_render_of_analyze (c := c) rfl hp
    dsimp only
    rw [htext]
    by_cases hempty : p.analysis.files = []
    · rw [hempty]
      exact .inr (isNote_note (by decide))
    · rw [if_neg (by simpa using hempty)]
      exact .inl ⟨p, hp, hempty, htext, rfl, rfl, rfl, rfl⟩

/-- The configured workspace, if there is one, has no null character. -/
def WorkspaceHasNoNull (c : Config) : Prop :=
  ∀ path, c.workspace = some path → FileSystem.hasNull path = false

theorem workspace_eq_error {fault : Workspace.Fault} (hnull : WorkspaceHasNoNull c)
    (h : workspace w c args setting? = .error fault) :
    fault = .notGiven ∨ fault = .badArgument := by
  unfold workspace at h
  split at h
  · cases h
  · rename_i given hgiven
    split at h
    · cases h
    · rename_i hconfig
      obtain ⟨path, hpath, hpathNull⟩ := Workspace.hasNull_of_ofConfig hconfig
      exact absurd (hnull path hpath) (by rw [hpathNull]; decide)
    · cases h
      exact Workspace.resolve_eq_error hgiven

/-- **The tool does not fail**: it answers with the report of the workspace, or with a note. -/
theorem exists_document (w : World) (s : Service) (args : List String) (setting? : Option String)
    (hnull : WorkspaceHasNoNull s.effective) :
    ∃ d, (s.structureDocument w args setting?).answer = .document d ∧
      ((∃ root, workspace w s.effective args setting? = .ok root ∧
        d.IsReport w (scanConfig s.effective root args)) ∨ d.IsNote) := by
  unfold structureDocument
  dsimp only
  cases hworkspace : workspace w s.effective args setting? with
  | ok root =>
    refine ⟨_, rfl, ?_⟩
    rcases documentOf_cases w (scanConfig s.effective root args) with hreport | hnote
    · exact .inl ⟨root, rfl, hreport⟩
    · exact .inr hnote
  | error fault =>
    rcases workspace_eq_error hnull hworkspace with rfl | rfl
    · exact ⟨_, rfl, .inr (isNote_note (by decide))⟩
    · exact ⟨_, rfl, .inr (isNote_note (by decide))⟩

/-! ## §5 Every history -/

end Service

end TsOutline
