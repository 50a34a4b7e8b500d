import TsOutline.Proofs.Accounting.Calls
import TsOutline.Proofs.Surface

/-!
# Accounts of a Project

What is left of the analysis of a project besides its records: one warning for each file that was
skipped, in the order of the files. Together with the records this says everything about an analysis
that succeeds, and so that it can be rendered.
-/

namespace TsOutline

/-! ## §1 Skipped files -/

namespace World

variable {w : World} {c : Config}

/-- The warning that a file is worth, if it has no outline. -/
def skipWarning? (w : World) (c : Config) (path : String) : Option Warning :=
  match w.outlineUnder c path with
  | .error fault => some (.skippedFile path fault.message)
  | .ok _ => none

/-- There are as many warnings as files that fail. -/
theorem length_filterMap_skipWarning? (w : World) (c : Config) (paths : List String) :
    (paths.filterMap (w.skipWarning? c)).length = (paths.filter (w.fails c)).length := by
  induction paths with
  | nil => rfl
  | cons path rest ih =>
    have hboth : (w.skipWarning? c path).isSome = w.fails c path := by
      unfold skipWarning? fails
      cases w.outlineUnder c path <;> rfl
    cases hskip : w.skipWarning? c path with
    | none =>
      rw [hskip] at hboth
      rw [List.filterMap_cons_none hskip, List.filter_cons_of_neg (by simp [← hboth]), ih]
    | some warning =>
      rw [hskip] at hboth
      rw [List.filterMap_cons_some hskip, List.filter_cons_of_pos hboth.symm, List.length_cons, ih,
        List.length_cons]

end World

namespace Analyzer

variable {w : World} {c : Config} {p : Progress}

/-- One file: a failure is worth one warning, a success none. -/
theorem extract_warnings (hs : p.analyzer.settings = .ofConfig c) (path : String) :
    (extract w p path).warnings = p.warnings ++ (w.skipWarning? c path).toList := by
  have houtline := w.analyzer_outline c path
  rw [← hs] at houtline
  unfold World.skipWarning?
  cases hunder : w.outlineUnder c path with
  | error fault => rw [extract_of_error (houtline.trans hunder)]; rfl
  | ok o => rw [extract_of_ok (houtline.trans hunder)]; exact (List.append_nil _).symm

theorem extractAll_warnings (hs : p.analyzer.settings = .ofConfig c) (paths : List String) :
    (extractAll w p paths).warnings = p.warnings ++ paths.filterMap (w.skipWarning? c) := by
  induction paths generalizing p with
  | nil => exact (List.append_nil _).symm
  | cons path rest ih =>
    rw [extractAll_cons, ih (extract_eq hs path).1, extract_warnings hs, List.append_assoc,
      List.filterMap_cons]
    cases w.skipWarning? c path <;> rfl

/-! ## §2 Analyses -/

variable {a : Analyzer} {root? : Option String}

/-- **What an analysis under a configuration is**: the records of the discovered files and their
    failures, with the warnings for these. -/
theorem exists_ofFiles_of_analyze (ha : a.settings = .ofConfig c)
    (h : a.analyze w root? = .ok p) :
    ∃ root files, rootOf w.fs.cwd (.ofConfig c) root? = .ok root ∧
      Discovery.discover w.fs root c.blacklist = .ok files ∧
      p.analyzer.settings = .ofConfig c ∧ p.analysis = .ofFiles w c root files ∧
      p.warnings = files.filterMap (w.skipWarning? c) := by
  obtain ⟨root, blacklist, files, hroot, hblacklist, hfiles, rfl⟩ := analyze_eq_ok_iff.mp h
  rw [ha] at hroot hblacklist
  cases (Settings.patterns?_ofConfig c).symm.trans hblacklist
  obtain ⟨hsettings, hanalysis⟩ := extractAll_eq (w := w) (p := ⟨a, fresh root files, []⟩) ha files
  exact ⟨root, files, hroot, hfiles, hsettings, hanalysis, extractAll_warnings ha files⟩

/-- Every analysis under a configuration can be rendered. -/
theorem exists_render_of_analyze (ha : a.settings = .ofConfig c)
    (h : a.analyze w root? = .ok p) :
    ∃ text, render w.fs.cwd p.analyzer.settings p.analysis = .ok text := by
  obtain ⟨root, files, -, -, hsettings, hanalysis, -⟩ := exists_ofFiles_of_analyze ha h
  rw [hsettings, hanalysis]
  exact render_ofFiles w c root files

end Analyzer

end TsOutline
