import TsOutline.Proofs.Discovery
import TsOutline.Proofs.WorkspaceArgument

/-!
# The Choice of a Workspace

A setting of the environment, an argument and the configuration may name the folder to scan. The first
two are taken as soon as there is something at their path, be it a folder or a file.

- **What is returned** leads where the path that was taken leads (`leadsTo_normalText`), so it is a folder
  exactly if no file was taken.
- **What is promised** (`KeepsPromise`): only folders are returned, a setting that names none might as
  well not be there, and the first source that names a folder is scanned. All of it holds if no file is
  taken, and some of it fails otherwise.
- **A file that is taken** hides all sources behind it, and the tool answers that there is no directory.
-/

namespace TsOutline

/-! ## §1 Folders and files -/

namespace Workspace

/-- The path is absolute and leads to an entry of this kind. -/
def leadsTo (kind : Entry → Bool) (fs : FileSystem) (path : String) : Bool :=
  Text.startsWith path "/" && (fs.entry? path).any kind

/-- The path names an existing absolute folder. -/
def namesFolder : FileSystem → String → Bool :=
  leadsTo Entry.isFolder

/-- The path names an existing absolute file. -/
def namesFile : FileSystem → String → Bool :=
  leadsTo Entry.isFile

variable {kind : Entry → Bool} {fs : FileSystem} {setting? : Option String} {args : List String}
  {path : String}

theorem leadsTo_iff :
    leadsTo kind fs path = true ↔
      Text.startsWith path "/" = true ∧ ∃ e, fs.entry? path = some e ∧ kind e = true := by
  rw [leadsTo, Bool.and_eq_true, Option.any_eq_true]

theorem namesFolder_iff :
    namesFolder fs path = true ↔
      Text.startsWith path "/" = true ∧ ∃ entries, fs.entry? path = some (.folder entries) := by
  rw [namesFolder, leadsTo_iff]
  refine and_congr_right fun _ => ⟨?_, fun ⟨entries, h⟩ => ⟨_, h, rfl⟩⟩
  rintro ⟨e | entries, h, hkind⟩
  · cases hkind
  · exact ⟨entries, h⟩

theorem namesFile_iff :
    namesFile fs path = true ↔
      Text.startsWith path "/" = true ∧ ∃ bytes, fs.entry? path = some (.file bytes) := by
  rw [namesFile, leadsTo_iff]
  refine and_congr_right fun _ => ⟨?_, fun ⟨bytes, h⟩ => ⟨_, h, rfl⟩⟩
  rintro ⟨bytes | entries, h, hkind⟩
  · exact ⟨bytes, h⟩
  · cases hkind

theorem isUsable_of_leadsTo (h : leadsTo kind fs path = true) : isUsable fs path = true := by
  obtain ⟨habsolute, e, hentry, -⟩ := leadsTo_iff.mp h
  exact isUsable_of_entry? habsolute hentry

/-- A usable path names a folder or a file, and not both. -/
theorem namesFolder_eq_not_namesFile (h : isUsable fs path = true) :
    namesFolder fs path = !namesFile fs path := by
  obtain ⟨habsolute, e, hentry⟩ := exists_entry?_of_isUsable h
  rw [namesFolder, namesFile, leadsTo, leadsTo, habsolute, hentry]
  cases e <;> rfl

/-- The normal form of a usable path leads to the same entry. -/
theorem leadsTo_normalText (h : isUsable fs path = true) :
    leadsTo kind fs (Path.normalText path) = leadsTo kind fs path := by
  obtain ⟨habsolute, e, hentry⟩ := exists_entry?_of_isUsable h
  rw [leadsTo, leadsTo, Path.startsWith_normalText habsolute, habsolute, hentry,
    FileSystem.entry?_normalText habsolute hentry]

/-! ## §2 What is taken -/

/-- No file is taken: the first usable one of setting and argument, if there is one, names a folder. -/
def TakesNoFile (fs : FileSystem) (setting? : Option String) (args : List String) : Prop :=
  ∀ path, taken? fs setting? args = some path → namesFile fs path = false

/-- Only folders are returned exactly if no file is taken. -/
theorem takesNoFile_iff :
    TakesNoFile fs setting? args ↔
      ∀ root, resolve fs setting? args = .ok root → namesFolder fs root = true := by
  have hsame (path : String) (htaken : taken? fs setting? args = some path) :
      namesFile fs path = false ↔ namesFolder fs (Path.normalText path) = true := by
    have husable := isUsable_of_taken? htaken
    rw [namesFolder, leadsTo_normalText husable, ← namesFolder,
      namesFolder_eq_not_namesFile husable, Bool.not_eq_true']
  constructor
  · intro h root hroot
    obtain ⟨path, htaken, rfl⟩ := resolve_eq_ok_iff.mp hroot
    exact (hsame path htaken).mp (h path htaken)
  · intro h path htaken
    exact (hsame path htaken).mpr (h _ (resolve_eq_ok_iff.mpr ⟨path, htaken, rfl⟩))

/-- A usable setting is taken. -/
theorem taken?_of_isUsable (h : isUsable fs path = true) : taken? fs (some path) args = some path :=
  List.find?_cons_of_pos h

/-- Where no file is taken, a setting is used or might as well not be there, according to whether it
    names a folder. -/
theorem TakesNoFile.isUsable_eq (h : TakesNoFile fs (some path) args) :
    isUsable fs path = namesFolder fs path := by
  cases husable : isUsable fs path with
  | true =>
    rw [namesFolder_eq_not_namesFile husable, h path (taken?_of_isUsable husable)]
    rfl
  | false =>
    symm
    rw [Bool.eq_false_iff]
    intro hfolder
    rw [isUsable_of_leadsTo hfolder] at husable
    cases husable

end Workspace

/-! ## §3 What is scanned -/

namespace Service

open Workspace (namesFolder namesFile taken? TakesNoFile)

variable {w : World} {s : Service} {args : List String} {setting? : Option String} {path : String}

/-- The sources of a workspace, in the order in which they are asked. -/
def sources (c : Config) (args : List String) (setting? : Option String) : List String :=
  setting?.toList ++ (Exclusion.argumentAfter? Workspace.option args).toList ++ c.workspace.toList

/-- The first source that names an existing absolute folder. -/
def firstFolder? (fs : FileSystem) (c : Config) (args : List String) (setting? : Option String) :
    Option String :=
  (sources c args setting?).find? (namesFolder fs)

/-- The tool scans the folder that a path names: it answers with the document of an analysis whose
    root is the place of the path, and files are discovered in the folder that is there. -/
def ScansFolder (s : Service) (w : World) (args : List String) (setting? : Option String)
    (path : String) : Prop :=
  ∃ root entries,
    (s.handle w (.structureDocument args setting?)).answer =
        .document (documentOf w (scanConfig s.effective root args)).1 ∧
      Analyzer.rootOf w.fs.cwd (.ofConfig (scanConfig s.effective root args)) none =
        .ok (Path.placeText (Path.placeOf w.fs.cwd path)) ∧
      Discovery.folderOf w.fs (Path.placeText (Path.placeOf w.fs.cwd path)) =
        .ok (Path.placeOf w.fs.cwd path, .folder entries)

/-- The text of the place of an existing absolute path means the place. -/
theorem resolve_placeText_of_entry? {e : Entry} (habsolute : Text.startsWith path "/" = true)
    (h : w.fs.entry? path = some e) :
    FileSystem.resolve w.fs.cwd (Path.placeText (Path.placeOf w.fs.cwd path)) =
      .ok (Path.placeOf w.fs.cwd path) :=
  FileSystem.resolve_placeText _ (FileSystem.isPlace_of_entry? habsolute h)

theorem Scans.scansFolder (h : s.Scans w args setting? (Path.placeOf w.fs.cwd path))
    (hfolder : namesFolder w.fs path = true) : s.ScansFolder w args setting? path := by
  obtain ⟨habsolute, entries, hentry⟩ := Workspace.namesFolder_iff.mp hfolder
  obtain ⟨root, hanswer, hroot⟩ := h.answer
  obtain ⟨-, hat⟩ := FileSystem.resolve_of_entry? hentry
  have hresolve := resolve_placeText_of_entry? habsolute hentry
  exact ⟨root, entries, hanswer, hroot, Discovery.folderOf_of_folder hresolve hat⟩

/-- What is taken is scanned, be it a folder or a file. -/
theorem scans_of_taken? (h : taken? w.fs setting? args = some path) :
    s.Scans w args setting? (Path.placeOf w.fs.cwd path) :=
  ⟨Path.normalText path,
    workspace_eq_ok_iff.mpr (.inl (Workspace.resolve_eq_ok_iff.mpr ⟨path, h, rfl⟩)),
    Workspace.resolve_normalText_of_isUsable (Workspace.isUsable_of_taken? h)⟩

/-- Where nothing is taken, a configured folder is scanned. -/
theorem scans_configured (hnone : taken? w.fs setting? args = none)
    (hconfig : s.effective.workspace = some path) (hfolder : namesFolder w.fs path = true) :
    s.Scans w args setting? (Path.placeOf w.fs.cwd path) := by
  obtain ⟨habsolute, entries, hentry⟩ := Workspace.namesFolder_iff.mp hfolder
  have hne : path ≠ "" :=
    Workspace.ne_empty_of_isUsable (Workspace.isUsable_of_entry? habsolute hentry)
  refine ⟨_, workspace_eq_ok_iff.mpr (.inr ⟨fun other hother => ?_, ?_⟩),
    resolve_placeText_of_entry? habsolute hentry⟩
  · obtain ⟨_, htaken, -⟩ := Workspace.resolve_eq_ok_iff.mp hother
    rw [hnone] at htaken
    cases htaken
  · obtain ⟨hresolve, -⟩ := FileSystem.resolve_of_entry? hentry
    rw [Workspace.ofConfig, hconfig]
    dsimp only
    rw [if_neg hne, Workspace.absolute, hresolve]

/-- **The first folder** among the sources is scanned, unless a file is taken before it. -/
theorem scansFolder_first (hnofile : TakesNoFile w.fs setting? args)
    (hfirst : firstFolder? w.fs s.effective args setting? = some path) :
    s.ScansFolder w args setting? path := by
  have hfolder : namesFolder w.fs path = true := List.find?_some hfirst
  rw [firstFolder?, sources, List.find?_append] at hfirst
  cases htaken : taken? w.fs setting? args with
  | some taken =>
    -- what is not usable is no folder, so nothing in front of it is one
    obtain ⟨husable, before, after, hsources, hbefore⟩ :=
      List.find?_eq_some_iff_append.mp htaken
    have htakenFolder : namesFolder w.fs taken = true := by
      rw [Workspace.namesFolder_eq_not_namesFile husable, hnofile taken htaken]
      rfl
    have hfound : (setting?.toList ++ (Exclusion.argumentAfter? Workspace.option args).toList).find?
        (namesFolder w.fs) = some taken := by
      refine List.find?_eq_some_iff_append.mpr ⟨htakenFolder, before, after, hsources, ?_⟩
      intro other hother
      have hunusable := hbefore other hother
      rw [Bool.not_eq_true', Bool.eq_false_iff] at hunusable ⊢
      exact fun hother => hunusable (Workspace.isUsable_of_leadsTo hother)
    rw [hfound, Option.some_or, Option.some.injEq] at hfirst
    rw [← hfirst] at hfolder ⊢
    exact (scans_of_taken? htaken).scansFolder hfolder
  | none =>
    have hfound : (setting?.toList ++ (Exclusion.argumentAfter? Workspace.option args).toList).find?
        (namesFolder w.fs) = none := by
      refine List.find?_eq_none.mpr fun other hother hotherFolder => ?_
      exact List.find?_eq_none.mp htaken other hother (Workspace.isUsable_of_leadsTo hotherFolder)
    rw [hfound, Option.none_or] at hfirst
    have hconfig : s.effective.workspace = some path := by
      simpa using List.mem_of_find?_eq_some hfirst
    exact (scans_configured htaken hconfig hfolder).scansFolder hfolder

/-- **A file that is taken** is scanned like a folder, and the tool says that there is none. -/
theorem answer_of_taken_file (htaken : taken? w.fs setting? args = some path)
    (hfile : namesFile w.fs path = true) :
    (s.handle w (.structureDocument args setting?)).answer =
      .document (.note ("Error generating structure document: Directory not found: " ++
        Path.placeText (Path.placeOf w.fs.cwd path))) := by
  obtain ⟨habsolute, bytes, hentry⟩ := Workspace.namesFile_iff.mp hfile
  obtain ⟨root, hanswer, hroot⟩ := (scans_of_taken? (s := s) htaken).answer
  obtain ⟨-, hat⟩ := FileSystem.resolve_of_entry? hentry
  have hresolve := resolve_placeText_of_entry? habsolute hentry
  have hfolder := Discovery.folderOf_of_file hresolve hat
  have hdiscover : Discovery.discover w.fs (Path.placeText (Path.placeOf w.fs.cwd path))
      (scanConfig s.effective root args).blacklist =
        .error (.noFolder (Path.placeText (Path.placeOf w.fs.cwd path))) := by
    rw [Discovery.discover, hfolder]
  rw [hanswer, documentOf, Analyzer.analyze_of_discover_error rfl none hroot hdiscover]
  show Answer.document (.note (_ ++ ("Directory not found: " ++ _))) = _
  rw [← String.append_assoc]
  rfl

/-! ## §4 What is promised -/

/-- What is promised of a workspace, given a setting of the environment and arguments. -/
structure KeepsPromise (w : World) (s : Service) (args : List String) (setting? : Option String) :
    Prop where
  /-- Only an existing absolute folder is returned. -/
  returned : ∀ root, Workspace.resolve w.fs setting? args = .ok root →
    namesFolder w.fs root = true
  /-- A setting that names such a folder is used. -/
  used : ∀ v, setting? = some v → namesFolder w.fs v = true →
    Workspace.resolve w.fs setting? args = .ok (Path.normalText v)
  /-- Any other setting might as well not be there. -/
  unused : ∀ v, setting? = some v → namesFolder w.fs v = false →
    Workspace.resolve w.fs setting? args = Workspace.resolve w.fs none args
  /-- If the arguments name nothing else, the first source that names such a folder is scanned. -/
  scanned : (∀ v, Exclusion.argumentAfter? Workspace.option args = some v →
      v = "" ∨ namesFolder w.fs v = true) →
    ∀ path, firstFolder? w.fs s.effective args setting? = some path →
      s.ScansFolder w args setting? path

/-- **When the promise is kept**: exactly if no file is taken, that is, if the first path of setting and
    argument that is absolute and leads anywhere does not lead to a file. A file that is taken is
    returned as it is, whatever the sources behind it, and the tool answers that there is no
    directory. -/
theorem keepsPromise_iff (w : World) (s : Service) (args : List String)
    (setting? : Option String) :
    (KeepsPromise w s args setting? ↔
      ∀ path, taken? w.fs setting? args = some path → namesFile w.fs path = false) ∧
    ∀ path, taken? w.fs setting? args = some path → namesFile w.fs path = true →
      (s.handle w (.structureDocument args setting?)).answer =
        .document (.note ("Error generating structure document: Directory not found: " ++
          Path.placeText (Path.placeOf w.fs.cwd path))) := by
  refine ⟨⟨fun h => Workspace.takesNoFile_iff.mpr h.returned, fun h => ?_⟩,
    fun path => answer_of_taken_file⟩
  have hnofile : TakesNoFile w.fs setting? args := h
  refine ⟨Workspace.takesNoFile_iff.mp hnofile, ?_, ?_, fun _ _ => scansFolder_first hnofile⟩
  · rintro v rfl hfolder
    exact Workspace.resolve_eq_ok_iff.mpr
      ⟨v, Workspace.taken?_of_isUsable (Workspace.isUsable_of_leadsTo hfolder), rfl⟩
  · rintro v rfl hfolder
    exact Workspace.resolve_of_not_isUsable (hnofile.isUsable_eq.trans hfolder)

/-- A folder keeps the promise, also beside an argument that names a file. -/
theorem folder_setting_keepsPromise :
    KeepsPromise configuredProject ⟨none⟩ ["--workspace", "/c.yaml"] (some "/p/") := by
  refine (keepsPromise_iff _ _ _ _).1.mpr fun path htaken => ?_
  have hp : taken? configuredProject.fs (some "/p/") ["--workspace", "/c.yaml"] = some "/p/" :=
    Workspace.taken?_of_isUsable (by decide +kernel)
  obtain rfl := Option.some.inj (hp.symm.trans htaken)
  decide +kernel

/-- **A file in the environment** hides the folder that the arguments name: it is returned, and the
    tool finds no directory there. Without it the folder is returned. -/
theorem file_setting_hides_folder :
    let args := ["--workspace", "/p"]
    let setting? := some "/p/a.ts"
    ¬KeepsPromise configuredProject ⟨none⟩ args setting? ∧
      firstFolder? configuredProject.fs Config.default args setting? = some "/p" ∧
      Workspace.resolve configuredProject.fs none args = .ok "/p" ∧
      Workspace.resolve configuredProject.fs setting? args = .ok "/p/a.ts" ∧
      ((⟨none⟩ : Service).handle configuredProject (.structureDocument args setting?)).answer =
        .document (.note
          "Error generating structure document: Directory not found: /p/a.ts") := by
  intro args setting?
  have htaken : taken? configuredProject.fs setting? args = some "/p/a.ts" :=
    Workspace.taken?_of_isUsable (by decide +kernel)
  have hreturned : Workspace.resolve configuredProject.fs setting? args = .ok "/p/a.ts" :=
    Workspace.resolve_eq_ok_iff.mpr ⟨_, htaken, by decide +kernel⟩
  refine ⟨fun h => ?_, by decide +kernel, by decide +kernel, hreturned, ?_⟩
  · have hfolder := h.returned _ hreturned
    exact absurd hfolder (by decide +kernel)
  · rw [answer_of_taken_file htaken (by decide +kernel)]
    have hplace : Path.placeText (Path.placeOf configuredProject.fs.cwd "/p/a.ts") = "/p/a.ts" := by
      decide +kernel
    rw [hplace]
    rfl

end Service

end TsOutline
