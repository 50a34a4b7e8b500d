import TsOutline.Analysis.Session
import TsOutline.Proofs.Accounting.Calls
import TsOutline.Proofs.Project.Union

/-!
# Accounts of a Session

A session counts what it does while it goes on. Here its counts are compared with its *history*: all
calls of the extraction, those on behalf of whole analyses included.

- **Steps** (`step_does`, `obeys`): only analyses and extractions make calls, and a step that cannot do
  what it is asked for leaves the session as it was.
- **Runs** (`session_accounts`): after every sequence of steps the counts are those of the history;
  without monitoring they stay zero and everything else is the same; and an analysis depends on the
  current settings only.
-/

namespace TsOutline.Session

open Analyzer (Call Accounts Appends)

variable {w : World} {s s' : Session}

/-! ## §1 Steps -/

/-- The root that a step asks for: none for null, which stands for the workspace of the settings.
    Other values name no root. -/
def givenRoot? : Value → Option (Option String)
  | .null => some none
  | .text root => some (some root)
  | _ => none

/-- An extraction starts from the analyzer and the current analysis. -/
def progress (s : Session) : Analyzer.Progress :=
  ⟨s.analyzer, s.current, []⟩

/-- **What a step can do.** -/
inductive Does (w : World) (s : Session) : Step → Outcome → Prop where
  | notAnalyzed (root : Value) (fault : Analyzer.Fault) :
      (∀ root?, givenRoot? root = some root? → s.analyzer.analyze w root? = .error fault) →
      Does w s (.analyze root) ⟨s, .notAnalyzed fault, []⟩
  | analyzed {root : Value} {root? : Option String} {p : Analyzer.Progress} :
      givenRoot? root = some root? → s.analyzer.analyze w root? = .ok p →
      Does w s (.analyze root) ⟨⟨p.analyzer, p.analysis⟩, .analyzed p.analysis, p.warnings⟩
  | extracted {path : String} {p : Analyzer.Progress} :
      Analyzer.extract w s.progress path = p →
      Does w s (.extract path) ⟨⟨p.analyzer, p.analysis⟩,
        .extracted (Analyzer.hasOutline w s.analyzer.settings path) p.analysis, p.warnings⟩
  | outlined (path depth factories : Value) :
      Does w s (.outline path depth factories) ⟨s, outline w path depth factories, []⟩
  | assigned (values : Value) (settings : Settings) (answer : Answer) :
      Does w s (.assign values)
        ⟨{ s with analyzer := { s.analyzer with settings := settings } }, answer, []⟩
  | rendered (answer : Answer) : Does w s .render ⟨s, answer, []⟩

theorem extract_eq {path : String} {p : Analyzer.Progress}
    (hp : Analyzer.extract w s.progress path = p) :
    s.extract w path = ⟨⟨p.analyzer, p.analysis⟩,
      .extracted (Analyzer.hasOutline w s.analyzer.settings path) p.analysis, p.warnings⟩ := by
  rw [← hp]
  rfl

theorem analyze_does {root : Value} {root? : Option String} (h : givenRoot? root = some root?) :
    Does w s (.analyze root) (s.analyze w root?) := by
  unfold analyze
  cases hp : s.analyzer.analyze w root? with
  | error fault =>
    refine .notAnalyzed root fault ?_
    intro root?' h'
    cases h.symm.trans h'
    exact hp
  | ok p => exact .analyzed h hp

theorem assign_does (values : Value) (fields : Config.Fields) :
    Does w s (.assign values) (s.assign fields) := by
  unfold assign
  dsimp only
  split <;> exact .assigned values _ _

theorem step_does (w : World) (s : Session) (step : Step) : Does w s step (s.step w step) := by
  cases step with
  | analyze root =>
    cases root with
    | null => exact analyze_does rfl
    | text root => exact analyze_does rfl
    | bool | int | real | list | map =>
      -- what is no path names no root
      refine .notAnalyzed _ _ ?_
      intro root? hroot
      cases hroot
  | extract path => exact .extracted rfl
  | outline path depth factories => exact .outlined path depth factories
  | assign values =>
    unfold Session.step
    dsimp only
    split
    · exact assign_does values _
    · exact .assigned values s.analyzer.settings _
  | render =>
    unfold Session.step
    dsimp only
    split <;> exact .rendered _

/-! ## §2 History -/

/-- The calls of the extraction that a step makes. -/
def calls (w : World) (s : Session) (step : Step) : List Call :=
  match step, (s.step w step).answer with
  | .extract path, _ => [Analyzer.callOn w s.progress path]
  | .analyze _, .analyzed r =>
    Analyzer.callsOn w ⟨s.analyzer, Analyzer.fresh r.root r.files, []⟩ r.files
  | _, _ => []

/-- The session after steps. -/
def after (w : World) (s : Session) : List Step → Session
  | [] => s
  | step :: rest => after w (s.step w step).session rest

/-- All calls of a run. -/
def history (w : World) (s : Session) : List Step → List Call
  | [] => []
  | step :: rest => s.calls w step ++ history w (s.step w step).session rest

/-- The outcome of one more step. -/
theorem run_concat (w : World) (s : Session) (steps : List Step) (step : Step) :
    s.run w (steps ++ [step]) = s.run w steps ++ [(s.after w steps).step w step] := by
  induction steps generalizing s with
  | nil => rfl
  | cons first rest ih => exact congrArg _ (ih _)

theorem after_concat (w : World) (s : Session) (steps : List Step) (step : Step) :
    s.after w (steps ++ [step]) = ((s.after w steps).step w step).session := by
  induction steps generalizing s with
  | nil => rfl
  | cons first rest ih => exact ih _

theorem isAtomic_of_mem_calls {step : Step} {call : Call} (h : call ∈ s.calls w step) :
    call.IsAtomic := by
  unfold calls at h
  split at h
  · rw [List.mem_singleton.mp h]
    exact Analyzer.isAtomic_callOn w _ _
  · exact Analyzer.isAtomic_of_mem_callsOn h
  · cases h

theorem isAtomic_of_mem_history {steps : List Step} {call : Call} (h : call ∈ s.history w steps) :
    call.IsAtomic := by
  induction steps generalizing s with
  | nil => cases h
  | cons step rest ih =>
    rcases List.mem_append.mp h with hfirst | hrest
    · exact isAtomic_of_mem_calls hfirst
    · exact ih hrest

/-- The calls of an analysis lead from nothing extracted to the analysis. -/
theorem calls_of_analyze {root : Value} {root? : Option String} {p : Analyzer.Progress}
    (h : s.analyzer.analyze w root? = .ok p)
    (hstep : s.step w (.analyze root) = ⟨⟨p.analyzer, p.analysis⟩, .analyzed p.analysis, p.warnings⟩) :
    ∃ root' blacklist, Analyzer.rootOf w.fs.cwd s.analyzer.settings root? = .ok root' ∧
      s.analyzer.settings.patterns? = some blacklist ∧
      Discovery.discover w.fs root' blacklist = .ok p.analysis.files ∧
      p = Analyzer.extractAll w ⟨s.analyzer, Analyzer.fresh root' p.analysis.files, []⟩
        p.analysis.files ∧
      s.calls w (.analyze root) =
        Analyzer.callsOn w ⟨s.analyzer, Analyzer.fresh root' p.analysis.files, []⟩
          p.analysis.files := by
  obtain ⟨root', blacklist, files, hroot, hblacklist, hfiles, hp⟩ :=
    Analyzer.analyze_eq_ok_iff.mp h
  have happends := Analyzer.appends_callsOn w ⟨s.analyzer, Analyzer.fresh root' files, []⟩ files
  rw [← hp] at happends
  have hfound : p.analysis.files = files := happends.files
  have hnamed : p.analysis.root = root' := happends.root
  refine ⟨root', blacklist, hroot, hblacklist, hfound ▸ hfiles, hfound ▸ hp, ?_⟩
  unfold calls
  rw [hstep]
  dsimp only
  rw [hnamed]

/-! ## §3 Counts -/

theorem step_monitors (w : World) (s : Session) (step : Step) :
    (s.step w step).session.analyzer.monitors = s.analyzer.monitors := by
  have hdoes := step_does w s step
  generalize s.step w step = o at hdoes
  cases hdoes with
  | notAnalyzed | outlined | assigned | rendered => rfl
  | analyzed _ hp =>
    obtain ⟨root', blacklist, files, -, -, -, rfl⟩ := Analyzer.analyze_eq_ok_iff.mp hp
    exact (Analyzer.extractAll_analyzer w _ files).2
  | @extracted path p hp =>
    have hmonitors := (Analyzer.extract_analyzer w s.progress path).2
    rwa [hp] at hmonitors

/-- **One step** is accounted for. -/
theorem accounts_step {cs : List Call} (hm : s.analyzer.monitors = true)
    (h : Accounts s.analyzer.metrics cs) (step : Step) :
    Accounts (s.step w step).session.analyzer.metrics (cs ++ s.calls w step) := by
  have hdoes := step_does w s step
  generalize ho : s.step w step = o at hdoes
  cases hdoes with
  | notAnalyzed | outlined | assigned | rendered =>
    -- no call is made
    simpa [calls, ho] using h
  | @analyzed root root? p _ hp =>
    obtain ⟨root', blacklist, -, -, -, hall, hcalls⟩ := calls_of_analyze hp ho
    rw [hcalls]
    have hcounts : Accounts (Analyzer.extractAll w
        ⟨s.analyzer, Analyzer.fresh root' p.analysis.files, []⟩ p.analysis.files).analyzer.metrics _ :=
      h.extractAll hm p.analysis.files
    rwa [← hall] at hcounts
  | @extracted path p hp =>
    have hcounts : Accounts (Analyzer.extract w s.progress path).analyzer.metrics
        (cs ++ [Analyzer.callOn w s.progress path]) := Accounts.extract h hm path
    rwa [hp] at hcounts

/-- **All steps** are accounted for. -/
theorem accounts_after {cs : List Call} (hm : s.analyzer.monitors = true)
    (h : Accounts s.analyzer.metrics cs) (steps : List Step) :
    Accounts (s.after w steps).analyzer.metrics (cs ++ s.history w steps) := by
  induction steps generalizing s cs with
  | nil => simpa [history, after] using h
  | cons step rest ih =>
    have hrest := ih ((step_monitors w s step).trans hm) (accounts_step (w := w) hm h step)
    rwa [List.append_assoc] at hrest

/-! ## §4 Without monitoring -/

theorem step_metrics_of_not_monitors (hm : s.analyzer.monitors = false) (step : Step) :
    (s.step w step).session.analyzer.metrics = s.analyzer.metrics := by
  have hdoes := step_does w s step
  generalize s.step w step = o at hdoes
  cases hdoes with
  | notAnalyzed | outlined | assigned | rendered => rfl
  | analyzed _ hp =>
    obtain ⟨root', blacklist, files, -, -, -, rfl⟩ := Analyzer.analyze_eq_ok_iff.mp hp
    exact congrArg Analyzer.metrics (Analyzer.extractAll_of_not_monitors hm files)
  | @extracted path p hp =>
    have hsame : (Analyzer.extractAll w s.progress [path]).analyzer = s.analyzer :=
      Analyzer.extractAll_of_not_monitors hm [path]
    rw [Analyzer.extractAll, List.foldl_cons, List.foldl_nil, hp] at hsame
    exact congrArg Analyzer.metrics hsame

theorem after_metrics_of_not_monitors (hm : s.analyzer.monitors = false) (steps : List Step) :
    (s.after w steps).analyzer.metrics = s.analyzer.metrics := by
  induction steps generalizing s with
  | nil => rfl
  | cons step rest ih =>
    exact (ih ((step_monitors w s step).trans hm)).trans (step_metrics_of_not_monitors hm step)

/-- Two sessions that differ in their counts at most. -/
structure Agree (s s' : Session) : Prop where
  settings : s'.analyzer.settings = s.analyzer.settings
  current : s'.current = s.current

/-- The same step with the same answer. -/
structure Outcome.Agree (o o' : Outcome) : Prop where
  session : Session.Agree o.session o'.session
  answer : o'.answer = o.answer
  warnings : o'.warnings = o.warnings

theorem Agree.refused (h : s.Agree s') (answer : Answer) :
    Outcome.Agree ⟨s, answer, []⟩ ⟨s', answer, []⟩ :=
  ⟨h, rfl, rfl⟩

/-- An analysis that succeeds replaces what differed but the counts, and one that fails says why. -/
theorem analyze_agree (h : s'.analyzer.settings = s.analyzer.settings) (w : World)
    (root? : Option String) :
    (s'.analyze w root?).answer = (s.analyze w root?).answer ∧
      (s'.analyze w root?).warnings = (s.analyze w root?).warnings ∧
      (s'.current = s.current → (s.analyze w root?).Agree (s'.analyze w root?)) := by
  unfold analyze
  rcases Analyzer.analyze_agree h w root? with ⟨fault, herror, herror'⟩ | ⟨p, p', hp, hp', hagree⟩
  · rw [herror, herror']
    exact ⟨rfl, rfl, fun hcurrent => Agree.refused ⟨h, hcurrent⟩ _⟩
  · rw [hp, hp']
    dsimp only
    rw [hagree.analysis, hagree.warnings]
    exact ⟨rfl, rfl, fun _ => ⟨⟨hagree.settings, rfl⟩, rfl, rfl⟩⟩

theorem Agree.extract (h : s.Agree s') (path : String) :
    (s.extract w path).Agree (s'.extract w path) := by
  have hstart : s.progress.Agree s'.progress := ⟨h.settings, h.current, rfl⟩
  have hagree := hstart.extract (w := w) path
  -- what the calls computed does not matter any more
  generalize hp : Analyzer.extract w s.progress path = p at hagree
  generalize hp' : Analyzer.extract w s'.progress path = p' at hagree
  rw [extract_eq hp, extract_eq hp', h.settings, hagree.analysis, hagree.warnings]
  exact ⟨⟨hagree.settings, rfl⟩, rfl, rfl⟩

theorem Agree.assign (h : s.Agree s') (fields : Config.Fields) :
    (s.assign fields).Agree (s'.assign fields) := by
  unfold Session.assign
  rw [h.settings]
  dsimp only
  split <;> exact ⟨⟨rfl, h.current⟩, rfl, rfl⟩

/-- **Counting changes nothing else**: sessions that agree make the same step. -/
theorem Agree.step (h : s.Agree s') (step : Step) :
    (s.step w step).Agree (s'.step w step) := by
  cases step with
  | analyze root =>
    cases root with
    | null => exact (analyze_agree h.settings w none).2.2 h.current
    | text root => exact (analyze_agree h.settings w (some root)).2.2 h.current
    | bool | int | real | list | map => exact h.refused _
  | extract path => exact h.extract path
  | outline path depth factories => exact h.refused _
  | assign values =>
    unfold Session.step
    dsimp only
    split
    · exact h.assign _
    · exact h.refused _
  | render =>
    unfold Session.step
    dsimp only
    rw [h.settings, h.current]
    split <;> exact h.refused _

theorem Agree.after (h : s.Agree s') (steps : List Step) :
    (s.after w steps).Agree (s'.after w steps) := by
  induction steps generalizing s s' with
  | nil => exact h
  | cons step rest ih => exact ih (h.step step).session

/-- An analysis has the same answer in all sessions under the same settings. -/
theorem analyze_answer_eq (h : s'.analyzer.settings = s.analyzer.settings) (root : Value) :
    (s'.step w (.analyze root)).answer = (s.step w (.analyze root)).answer ∧
      (s'.step w (.analyze root)).warnings = (s.step w (.analyze root)).warnings := by
  cases root with
  | null =>
    obtain ⟨hanswer, hwarnings, -⟩ := analyze_agree h w none
    exact ⟨hanswer, hwarnings⟩
  | text root =>
    obtain ⟨hanswer, hwarnings, -⟩ := analyze_agree h w (some root)
    exact ⟨hanswer, hwarnings⟩
  | bool | int | real | list | map => exact ⟨rfl, rfl⟩

/-! ## §5 What a step does to the session -/

/-- **There is something to analyze**: a root, a usable blacklist, and a folder to look into. -/
def CanAnalyze (w : World) (settings : Settings) (root : Value) : Prop :=
  ∃ root? root' blacklist files, givenRoot? root = some root? ∧
    Analyzer.rootOf w.fs.cwd settings root? = .ok root' ∧ settings.patterns? = some blacklist ∧
    Discovery.discover w.fs root' blacklist = .ok files

/-- **The law of a step.** An analysis without a root, a usable blacklist or a folder to look into
    fails and leaves the session as it was; every other one extracts its files into an analysis of its
    own, which becomes the current one. An extraction appends to the current analysis; it says `false`
    exactly if the file has no outline, and then it appends the path to the failed files and nothing
    else. An outline and a rendering leave the session as it was, and an assignment changes the settings
    only. -/
def Obeys (w : World) (s : Session) (step : Step) : Prop :=
  let o := s.step w step
  match step with
  | .analyze root =>
    (∃ fault, o.answer = .notAnalyzed fault ∧ o.session = s ∧ s.calls w step = [] ∧
      ¬ CanAnalyze w s.analyzer.settings root) ∨
    ∃ root? root' blacklist r,
      givenRoot? root = some root? ∧
      Analyzer.rootOf w.fs.cwd s.analyzer.settings root? = .ok root' ∧
      s.analyzer.settings.patterns? = some blacklist ∧
      Discovery.discover w.fs root' blacklist = .ok r.files ∧
      o.answer = .analyzed r ∧ o.session.current = r ∧
      o.session.analyzer.settings = s.analyzer.settings ∧
      (s.calls w step).map Call.path = r.files ∧
      Appends (Analyzer.fresh root' r.files) r (s.calls w step)
  | .extract path =>
    ∃ succeeded r, o.answer = .extracted succeeded r ∧ o.session.current = r ∧
      o.session.analyzer.settings = s.analyzer.settings ∧
      (s.calls w step).map Call.path = [path] ∧ Appends s.current r (s.calls w step) ∧
      (succeeded = false ↔
        ∃ fault, Analyzer.outline w s.analyzer.settings path = .error fault) ∧
      (succeeded = false →
        r = { s.current with failedFiles := s.current.failedFiles ++ [path] })
  | .outline _ _ _ => o.session = s ∧ s.calls w step = []
  | .assign _ =>
    o.session.current = s.current ∧ o.session.analyzer.metrics = s.analyzer.metrics ∧
      s.calls w step = []
  | .render => o.session = s ∧ s.calls w step = []

theorem obeys (w : World) (s : Session) (step : Step) : Obeys w s step := by
  have hdoes := step_does w s step
  unfold Obeys
  dsimp only
  generalize ho : s.step w step = o at hdoes
  cases hdoes with
  | notAnalyzed root fault hfault =>
    refine .inl ⟨fault, rfl, rfl, by simp [calls, ho], ?_⟩
    rintro ⟨root?, root', blacklist, files, hroot, hfound, hblacklist, hfiles⟩
    have hok := Analyzer.analyze_eq_ok_iff.mpr
      ⟨root', blacklist, files, hfound, hblacklist, hfiles, rfl⟩
    cases (hfault root? hroot).symm.trans hok
  | @analyzed root root? p hroot hp =>
    obtain ⟨root', blacklist, hfound, hblacklist, hfiles, hall, hcalls⟩ := calls_of_analyze hp ho
    have happends := Analyzer.appends_callsOn w
      ⟨s.analyzer, Analyzer.fresh root' p.analysis.files, []⟩ p.analysis.files
    have hsettings := (Analyzer.extractAll_analyzer w
      ⟨s.analyzer, Analyzer.fresh root' p.analysis.files, []⟩ p.analysis.files).1
    rw [← hall, ← hcalls] at happends
    rw [← hall] at hsettings
    refine .inr ⟨root?, root', blacklist, p.analysis, hroot, hfound, hblacklist, hfiles, rfl, rfl,
      hsettings, ?_, happends⟩
    rw [hcalls, Analyzer.map_path_callsOn]
  | @extracted path p hp =>
    have hcalls : s.calls w (.extract path) = [Analyzer.callOn w s.progress path] := by
      rw [calls]
    have hsettings := (Analyzer.extract_analyzer w s.progress path).1
    have happends := Analyzer.appends_callOn w s.progress path
    have hatomic := Analyzer.isAtomic_callOn w s.progress path
    rw [hp] at hsettings happends
    rw [Analyzer.Call.IsAtomic, Analyzer.callOn, hp, progress] at hatomic
    dsimp only at hatomic
    rw [hcalls]
    exact ⟨_, p.analysis, rfl, rfl, hsettings, rfl, happends, Analyzer.hasOutline_eq_false_iff,
      hatomic⟩
  | outlined path depth factories => exact ⟨rfl, by simp [calls]⟩
  | assigned values settings answer => exact ⟨rfl, rfl, by simp [calls]⟩
  | rendered answer => exact ⟨rfl, by simp [calls]⟩

/-! ## §6 Runs -/

/-- **The accounts of a session.** Let an analyzer that keeps count go through any steps, and then
    through one more. Afterwards each call of the extraction so far is counted as a file or as a
    failure; the failures are as many as the paths that were ever appended to failed files, and the
    functions as many as were ever appended to an analysis. Every call that failed appended its path to
    the failed files and changed nothing else in its analysis, and the last step obeys its law: where it
    cannot do what it is asked for, it leaves the session as it was. An analyzer that does not keep
    count answers the same with the same current analysis, and its counts are zero. An analysis is the
    same in every session with the current settings. -/
theorem session_accounts (w : World) (c : Config) (root : String) (steps : List Step)
    (step : Step) :
    let counting := Session.start c true root
    let silent := Session.start c false root
    let s := counting.after w steps
    let o := s.step w step
    let o' := (silent.after w steps).step w step
    counting.run w (steps ++ [step]) = counting.run w steps ++ [o] ∧
      silent.run w (steps ++ [step]) = silent.run w steps ++ [o'] ∧
      Accounts o.session.analyzer.metrics (counting.history w (steps ++ [step])) ∧
      (∀ call ∈ counting.history w (steps ++ [step]), call.IsAtomic) ∧
      Obeys w s step ∧
      o'.session.analyzer.metrics = .zero ∧ o'.answer = o.answer ∧ o'.warnings = o.warnings ∧
      o'.session.current = o.session.current ∧
      ∀ (other : Session) (root : Value), other.analyzer.settings = s.analyzer.settings →
        (other.step w (.analyze root)).answer = (s.step w (.analyze root)).answer ∧
          (other.step w (.analyze root)).warnings = (s.step w (.analyze root)).warnings := by
  intro counting silent s o o'
  have hstart : counting.Agree silent := ⟨rfl, rfl⟩
  have hagree : o.Agree o' := (hstart.after steps).step step
  refine ⟨run_concat w counting steps step, run_concat w silent steps step, ?_,
    fun call hcall => isAtomic_of_mem_history hcall, obeys w s step, ?_, hagree.answer,
    hagree.warnings, hagree.session.current, ?_⟩
  · have haccounts := accounts_after (w := w) (s := counting) rfl Analyzer.accounts_zero
      (steps ++ [step])
    rwa [after_concat, List.nil_append] at haccounts
  · have hzero := after_metrics_of_not_monitors (w := w) (s := silent) rfl (steps ++ [step])
    rwa [after_concat] at hzero
  · exact fun other root hsettings => analyze_answer_eq hsettings root

/-- A file that can be outlined, the same again under a depth that cannot be used, and a file that is
    no text: three calls, of which one succeeds. The analysis of the project is then the same as in a
    session that has found nothing so far. -/
theorem halfReadable_accounts :
    let steps := [.extract "/p/a.ts", .assign (.map [(.text "type_depth", .text "deep")]),
      .extract "/p/a.ts"]
    let counting := Session.start .default true "/"
    let s := counting.after halfReadable steps
    let o := s.step halfReadable (.extract "/p/b.ts")
    o.session.analyzer.metrics = ⟨1, 2, 1, 0⟩ ∧
      (counting.history halfReadable (steps ++ [.extract "/p/b.ts"])).length = 3 ∧
      o.session.current.failedFiles = ["/p/a.ts", "/p/b.ts"] ∧
      ((⟨s.analyzer, .empty "/"⟩ : Session).step halfReadable (.analyze (.text "/p"))).answer =
        (s.step halfReadable (.analyze (.text "/p"))).answer := by
  intro steps counting s o
  obtain ⟨-, -, haccounts, -, -, -, -, -, -, hsame⟩ :=
    session_accounts halfReadable .default "/" steps (.extract "/p/b.ts")
  have hmetrics : o.session.analyzer.metrics = ⟨1, 2, 1, 0⟩ := by decide +kernel
  refine ⟨hmetrics, ?_, by decide +kernel, (hsame ⟨s.analyzer, .empty "/"⟩ _ rfl).1⟩
  rw [← haccounts.total]
  exact congrArg (fun m : Metrics => m.totalFiles + m.failedFiles) hmetrics

end TsOutline.Session
