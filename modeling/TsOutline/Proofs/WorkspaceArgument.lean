import TsOutline.Proofs.GivenOptions
import TsOutline.Proofs.Surface

/-!
# The Workspace among the Arguments

The arguments of the service are read twice. The start reads them as options, by all the rules of a
usage; the tool that writes the document searches the same arguments for the name of one option. This
module says of every accepted row of options when the second reader comes to the place that the first
one assigns.

- **What is returned** (`Workspace.resolve_eq_ok_iff`): the normal form of the first usable path of the
  setting of the environment and the argument.
- **What is scanned** (`Service.scans_iff`): without such a setting, the place of the argument after the
  name of the option, if it is usable, and else the configured place. The tool answers with the
  document of the scanned place (`Service.Scans.answer`).
- **Both readers**: the place of the assigned value is scanned exactly if the first value that is given
  spelled out means it too, or if no such value is usable and the configuration means it. A value
  behind an equals sign is assigned and not found.
-/

namespace TsOutline

/-! ## §1 Two sources of a workspace -/

namespace Workspace

variable {fs : FileSystem} {args : List String} {setting? : Option String} {path root : String}

theorem ne_empty_of_isUsable (h : isUsable fs path = true) : path ≠ "" := by
  rintro rfl
  cases h

theorem isUsable_of_entry? {e : Entry} (habsolute : Text.startsWith path "/" = true)
    (h : fs.entry? path = some e) : isUsable fs path = true := by
  rw [isUsable, habsolute, FileSystem.isThere, h]
  rfl

theorem exists_entry?_of_isUsable (h : isUsable fs path = true) :
    Text.startsWith path "/" = true ∧ ∃ e, fs.entry? path = some e := by
  obtain ⟨habsolute, hthere⟩ := Bool.and_eq_true_iff.mp h
  exact ⟨habsolute, Option.isSome_iff_exists.mp hthere⟩

/-- A usable path means the same place as its normal form. -/
theorem resolve_normalText_of_isUsable (h : isUsable fs path = true) :
    FileSystem.resolve fs.cwd (Path.normalText path) = .ok (Path.placeOf fs.cwd path) := by
  obtain ⟨-, e, hentry⟩ := exists_entry?_of_isUsable h
  obtain ⟨hresolve, -⟩ := FileSystem.resolve_of_entry? hentry
  rw [FileSystem.resolve_normalText, hresolve]

/-- The arguments name a workspace if a usable path stands after the name of the option. -/
theorem ofArguments_eq_ok_iff :
    ofArguments fs args = .ok root ↔
      ∃ path, Exclusion.argumentAfter? option args = some path ∧ isUsable fs path = true ∧
        Path.normalText path = root := by
  unfold ofArguments
  constructor
  · intro h
    split at h
    · cases h
    · rename_i path hafter
      split at h
      · cases h
      · split at h
        · rename_i husable
          exact ⟨path, hafter, husable, Except.ok.inj h⟩
        · cases h
  · rintro ⟨path, hafter, husable, rfl⟩
    rw [hafter]
    dsimp only
    rw [if_neg (ne_empty_of_isUsable husable), if_pos husable]

/-- The path that is taken, as it was given: the first usable one of the setting of the environment
    and the argument. -/
def taken? (fs : FileSystem) (setting? : Option String) (args : List String) : Option String :=
  (setting?.toList ++ (Exclusion.argumentAfter? option args).toList).find? (isUsable fs)

theorem isUsable_of_taken? (h : taken? fs setting? args = some path) : isUsable fs path = true :=
  List.find?_some h

/-- A setting that is not usable might as well not be there. -/
theorem resolve_of_not_isUsable (h : isUsable fs path = false) :
    resolve fs (some path) args = resolve fs none args := by
  rw [resolve, h]
  rfl

/-- What is returned is the normal form of the path that is taken. -/
theorem resolve_eq_ok_iff :
    resolve fs setting? args = .ok root ↔
      ∃ path, taken? fs setting? args = some path ∧ Path.normalText path = root := by
  have hargument : ofArguments fs args = .ok root ↔
      ∃ path, taken? fs none args = some path ∧ Path.normalText path = root := by
    rw [ofArguments_eq_ok_iff, taken?]
    cases Exclusion.argumentAfter? option args with
    | none => simp
    | some v => simp [and_comm]
  cases setting? with
  | none => exact hargument
  | some v =>
    cases husable : isUsable fs v with
    | true => simp [resolve, taken?, husable]
    | false =>
      have htaken : taken? fs (some v) args = taken? fs none args :=
        List.find?_cons_of_neg (by simp [husable])
      rw [resolve_of_not_isUsable husable, htaken]
      exact hargument

end Workspace

namespace Service

variable {w : World} {s : Service} {c : Config} {args : List String} {setting? : Option String}
  {root : String} {place : Place}

/-- Environment and arguments come first, then the configuration. -/
theorem workspace_eq_ok_iff :
    workspace w c args setting? = .ok root ↔
      Workspace.resolve w.fs setting? args = .ok root ∨
        (∀ other, Workspace.resolve w.fs setting? args ≠ .ok other) ∧
          Workspace.ofConfig w.fs.cwd c = .ok root := by
  unfold workspace
  cases Workspace.resolve w.fs setting? args with
  | ok path => simp
  | error fault =>
    cases Workspace.ofConfig w.fs.cwd c with
    | ok path => simp
    | error other => cases other <;> simp

/-! ## §2 Scanned places -/

/-- The document that the service is asked for is that of the project at this place. -/
def Scans (s : Service) (w : World) (args : List String) (setting? : Option String)
    (place : Place) : Prop :=
  ∃ root, workspace w s.effective args setting? = .ok root ∧
    FileSystem.resolve w.fs.cwd root = .ok place

/-- **What is scanned** when the environment has no setting: the place of the argument after the name
    of the option, if that is usable, and the configured one otherwise. -/
theorem scans_iff :
    s.Scans w args none place ↔
      (∃ v, Exclusion.argumentAfter? Workspace.option args = some v ∧
        Workspace.isUsable w.fs v = true ∧ Path.placeOf w.fs.cwd v = place) ∨
      (∀ v, Exclusion.argumentAfter? Workspace.option args = some v →
        Workspace.isUsable w.fs v = false) ∧
        ∃ root, Workspace.ofConfig w.fs.cwd s.effective = .ok root ∧
          FileSystem.resolve w.fs.cwd root = .ok place := by
  have harguments : Workspace.resolve w.fs none args = Workspace.ofArguments w.fs args := rfl
  unfold Scans
  simp only [workspace_eq_ok_iff, harguments, Workspace.ofArguments_eq_ok_iff, ne_eq]
  constructor
  · rintro ⟨root, ⟨v, hafter, husable, rfl⟩ | ⟨hnone, hconfig⟩, hresolve⟩
    · rw [Workspace.resolve_normalText_of_isUsable husable] at hresolve
      exact .inl ⟨v, hafter, husable, Except.ok.inj hresolve⟩
    · refine .inr ⟨fun v hafter => ?_, root, hconfig, hresolve⟩
      rw [Bool.eq_false_iff]
      exact fun husable => hnone _ ⟨v, hafter, husable, rfl⟩
  · rintro (⟨v, hafter, husable, rfl⟩ | ⟨hnone, root, hconfig, hresolve⟩)
    · exact ⟨_, .inl ⟨v, hafter, husable, rfl⟩, Workspace.resolve_normalText_of_isUsable husable⟩
    · refine ⟨root, .inr ⟨?_, hconfig⟩, hresolve⟩
      rintro _ ⟨v, hafter, husable, -⟩
      exact absurd (hnone v hafter) (by rw [husable]; decide)

theorem workspace_ne_empty (h : workspace w c args setting? = .ok root) : root ≠ "" := by
  rcases workspace_eq_ok_iff.mp h with hresolve | ⟨-, hconfig⟩
  · obtain ⟨path, -, rfl⟩ := Workspace.resolve_eq_ok_iff.mp hresolve
    exact Path.normalText_ne_empty path
  · unfold Workspace.ofConfig Workspace.absolute at hconfig
    split at hconfig
    · split at hconfig
      · cases hconfig
      · split at hconfig
        · cases hconfig
          exact Path.placeText_ne_empty _
        · cases hconfig
    · cases hconfig

/-- A scanned place is the root of the analysis that the answer documents. -/
theorem Scans.answer (h : s.Scans w args setting? place) :
    ∃ root, (s.handle w (.structureDocument args setting?)).answer =
        .document (documentOf w (scanConfig s.effective root args)).1 ∧
      Analyzer.rootOf w.fs.cwd (.ofConfig (scanConfig s.effective root args)) none =
        .ok (Path.placeText place) := by
  obtain ⟨root, hworkspace, hresolve⟩ := h
  refine ⟨root, ?_, ?_⟩
  · rw [handle_structureDocument, structureDocument, hworkspace]
  · -- the configuration of a scan differs from the one in force in its blacklist too
    exact rootOf_withWorkspace (c := { s.effective with
      blacklist := if s.effective.blacklist.isEmpty then Exclusion.ofArguments args
        else s.effective.blacklist }) (workspace_ne_empty hworkspace) hresolve

/-! ## §3 The assigned workspace -/

open CommandLine in
/-- The option that names a workspace. -/
def workspaceSwitch : Switch := ⟨.workspace, ["--workspace"], true⟩

open CommandLine in
theorem classify_workspace :
    classify serviceUsage "--workspace" = .ok (.known workspaceSwitch "--workspace" none) := by
  decide

open CommandLine in
/-- **When the assigned workspace is scanned.** Accepted arguments are a row of options, of which the
    last config file and the last blacklist are kept, however they are spelled. Let the last workspace
    be an existing absolute directory. The tool, given the same arguments, scans it exactly if the
    first value that is spelled out as `--workspace` in one argument and the value in the next is
    usable and means the same place, or if there is no such value and the configuration means that
    place; so it does where the option is given once and spelled out. The answer is then the document
    of that place. -/
theorem assigned_workspace_scanned_iff (w : World) (s : Service) (args : List String)
    (a : Arguments) (hread : readService args = .ok a) :
    (∃ row, IsRow serviceUsage args (read serviceUsage args).events row) ∧
    ∀ row, IsRow serviceUsage args (read serviceUsage args).events row →
      a.config = assigned? .config row ∧
      a.blacklist = ((lastGiven? .blacklist row).map fun g =>
        Exclusion.entriesOf (g.values.head?.getD "")) ∧
      ∀ path entries, assigned? .workspace row = some path →
        Text.startsWith path "/" = true → w.fs.entry? path = some (.folder entries) →
        let place := Path.placeOf w.fs.cwd path
        let found? := firstSpelledOut? "--workspace" row
        (s.Scans w args none place ↔
          (∃ v, found? = some v ∧ Workspace.isUsable w.fs v = true ∧
            Path.placeOf w.fs.cwd v = place) ∨
          (∀ v, found? = some v → Workspace.isUsable w.fs v = false) ∧
            ∃ root, Workspace.ofConfig w.fs.cwd s.effective = .ok root ∧
              FileSystem.resolve w.fs.cwd root = .ok place) ∧
        ((row.filter fun g => g.switch.key = .workspace).length = 1 → found?.isSome →
          s.Scans w args none place) ∧
        (s.Scans w args none place →
          ∃ root, (s.handle w (.structureDocument args none)).answer =
              .document (documentOf w (scanConfig s.effective root args)).1 ∧
            Analyzer.rootOf w.fs.cwd (.ofConfig (scanConfig s.effective root args)) none =
              .ok (Path.placeText place)) := by
  refine ⟨(exists_row_of_readService hread).1, fun row hrow => ?_⟩
  obtain ⟨hconfig, hblacklist⟩ := readService_row hread hrow
  refine ⟨hconfig, hblacklist, fun path entries hassigned habsolute hfolder => ?_⟩
  have hafter : Exclusion.argumentAfter? Workspace.option args =
      firstSpelledOut? "--workspace" row := argumentAfter?_row classify_workspace rfl hrow
  intro place found?
  -- what the search finds is said over the row from here on
  have hscans : s.Scans w args none place ↔ _ := scans_iff
  rw [hafter] at hscans
  refine ⟨hscans, fun hone hspelled => ?_, Scans.answer⟩
  have hfound : found? = some path :=
    (firstSpelledOut?_eq_assigned? classify_workspace hrow.fits hone hspelled).trans hassigned
  exact hscans.mpr (.inl ⟨path, hfound, Workspace.isUsable_of_entry? habsolute hfolder, rfl⟩)

open CommandLine in
theorem exists_readService {args : List String} (h : (readService args).isOk = true) :
    ∃ a, readService args = .ok a := by
  cases hread : readService args with
  | error stop =>
    rw [hread] at h
    cases h
  | ok a => exact ⟨a, rfl⟩

open CommandLine in
/-- The first and the last value mean the same place, in two spellings. -/
theorem repeated_workspace_scanned :
    let args := ["--workspace", "/p/", "--work=/p"]
    (∃ a, readService args = .ok a) ∧
      (⟨none⟩ : Service).Scans configuredProject args none ["p"] := by
  intro args
  obtain ⟨a, hread⟩ : ∃ a, readService args = .ok a := exists_readService (by decide +kernel)
  have hshort : classify serviceUsage "--work=/p" =
      .ok (.known workspaceSwitch "--workspace" (some "/p")) := by decide
  have hrow : IsRow serviceUsage args (read serviceUsage args).events
      [.apart workspaceSwitch "--workspace" "/p/", .joined workspaceSwitch "--work=/p" "/p"] := by
    refine ⟨rfl, by decide +kernel, ?_⟩
    simp only [List.forall_mem_cons]
    exact ⟨.apart classify_workspace rfl (by decide), .joined hshort rfl, nofun⟩
  have hfolder : configuredProject.fs.entry? "/p" =
      some (.folder [("a.ts", .file "".toUTF8)]) := rfl
  obtain ⟨-, -, hscans⟩ :=
    (assigned_workspace_scanned_iff configuredProject ⟨none⟩ args a hread).2 _ hrow
  obtain ⟨hiff, -, -⟩ := hscans "/p" _ rfl (by decide) hfolder
  exact ⟨⟨a, hread⟩, hiff.mpr (.inl ⟨"/p/", rfl, by decide +kernel, by decide⟩)⟩

open CommandLine in
/-- **A value behind an equals sign** is accepted and assigned by the start, and the tool, given the
    same arguments, says that there is no workspace. -/
theorem joined_workspace_not_scanned :
    let args := ["--workspace=/p"]
    let s := ((⟨none⟩ : Service).handle configuredProject (.start args)).service
    (∃ a, readService args = .ok a) ∧
      (∃ row, IsRow serviceUsage args (read serviceUsage args).events row ∧
        assigned? .workspace row = some "/p") ∧
      (∃ entries, configuredProject.fs.entry? "/p" = some (.folder entries)) ∧
      ¬s.Scans configuredProject args none ["p"] ∧
      (s.handle configuredProject (.structureDocument args none)).answer =
        .document (.note (Workspace.Fault.message .notGiven)) := by
  intro args s
  have hconfig : s.effective.workspace = none := by decide +kernel
  have hnone : Exclusion.argumentAfter? Workspace.option args = none := by decide
  have hunset : Workspace.ofConfig configuredProject.fs.cwd s.effective = .error .notConfigured := by
    rw [Workspace.ofConfig, hconfig]
  refine ⟨exists_readService (by decide +kernel), ?_, ⟨_, rfl⟩, ?_, ?_⟩
  · have hjoined : classify serviceUsage "--workspace=/p" =
        .ok (.known workspaceSwitch "--workspace" (some "/p")) := by decide
    refine ⟨[.joined workspaceSwitch "--workspace=/p" "/p"], ⟨rfl, by decide +kernel, ?_⟩, rfl⟩
    simp only [List.forall_mem_cons]
    exact ⟨.joined hjoined rfl, nofun⟩
  · rw [scans_iff, hnone, hunset]
    rintro (⟨v, hv, -⟩ | ⟨-, root, hroot, -⟩)
    · cases hv
    · cases hroot
  · have hworkspace : workspace configuredProject s.effective args none = .error .notGiven := by
      rw [workspace, Workspace.resolve, Workspace.ofArguments, hnone]
      dsimp only
      rw [hunset]
    rw [handle_structureDocument, structureDocument, hworkspace]

end Service

end TsOutline
