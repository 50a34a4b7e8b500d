import Mathlib.Data.List.Basic
import TsOutline.CommandLine.Usage

/-!
# Arguments with a Config File

How the programs read the arguments that name a directory and a config file. Both readings go through
the same steps, under different usages; a text that one usage takes for the value of `--config` can
be an option under another, and then it is refused there.
-/

namespace TsOutline.CommandLine

open Text (startsWith)

/-! ## §1 Kinds -/

variable {u : Usage} {s : String}

theorem classify_of_not_dashed (h : startsWith s "-" = false) : classify u s = .ok .plain := by
  have hne : s ≠ "--" := by
    rintro rfl
    exact absurd h (by decide)
  rw [classify, if_neg hne, h]
  rfl

/-- What is not plain has a dash in front. -/
theorem dashed_of_classify_ne_plain (h : classify u s ≠ .ok .plain) : startsWith s "-" = true := by
  by_contra hnot
  exact h (classify_of_not_dashed (by simpa using hnot))

theorem not_dashed_of_absolute (h : startsWith s "/" = true) : startsWith s "-" = false := by
  unfold startsWith at h ⊢
  cases hs : s.toList with
  | nil => rfl
  | cons c cs =>
    rw [hs] at h
    have hc : '/' = c := by simpa using h
    rw [← hc]
    rfl

/-- Whatever the arguments are taken for, they are kept. -/
theorem classifyAll_map_text {args : List String} {as : List Arg} (h : classifyAll u args = .ok as) :
    as.map (·.text) = args := by
  induction args generalizing as with
  | nil =>
    cases h
    rfl
  | cons s rest ih =>
    unfold classifyAll at h
    split at h
    · cases h
    · cases h
      simp [Function.comp_def]
    · split at h
      · cases h
      · rename_i hrest
        cases h
        rw [List.map_cons, ih hrest]

theorem classifyAll_cons_plain (hs : classify u s = .ok .plain) (rest : List String) :
    classifyAll u (s :: rest) = (classifyAll u rest).map fun args => ⟨s, .plain⟩ :: args := by
  rw [classifyAll, hs]
  cases classifyAll u rest <;> rfl

/-! ## §2 The option -/

/-- The arguments that name a config file, if one is given. -/
def configArguments : Option String → List String
  | some path => ["--config", path]
  | none => []

/-- The option as a usage that has it takes it. -/
def configArg : Arg :=
  ⟨"--config", .known configSwitch "--config" none⟩

/-- Both arguments are kept under a usage that has the option. -/
theorem classifyAll_config (hconfig : classify u "--config" = .ok configArg.kind) (path : String) :
    (∃ fault, classifyAll u ["--config", path] = .error fault ∧ classify u path = .error fault) ∨
      ∃ kind, classifyAll u ["--config", path] = .ok [configArg, ⟨path, kind⟩] ∧
        classify u path = .ok kind := by
  have hfirst : classifyAll u ["--config", path] =
      (classifyAll u [path]).map fun args => configArg :: args := by
    rw [classifyAll, hconfig]
    cases classifyAll u [path] <;> rfl
  rw [hfirst, classifyAll]
  cases hpath : classify u path with
  | error fault => exact .inl ⟨fault, rfl, rfl⟩
  | ok kind => exact .inr ⟨kind, by cases kind <;> rfl, rfl⟩

/-- The trace of the option with its value. -/
def configTrace (path : String) : Trace :=
  ⟨[.option configSwitch [path]], [], none⟩

/-- The value is taken if it is plain; else it is missing. -/
theorem readFrom_config (path : String) (kind : ArgKind) :
    readFrom none [configArg, ⟨path, kind⟩] =
      if kind = .plain then configTrace path else .failed (.needsValue configSwitch.label) := by
  cases kind with
  | plain => simp [readFrom, configArg, configSwitch, configTrace, Trace.after, Trace.done,
      missingFault?]
  | dashes => simp [readFrom, configArg, configSwitch]
  | known switch name value? => simp [readFrom, configArg, configSwitch]
  | unknown => simp [readFrom, configArg, configSwitch]

/-- **The option with its value** is read under every usage that has it, unless the value has a dash
    in front and is mistaken for an option. -/
theorem config_read_or_dashed (hconfig : classify u "--config" = .ok configArg.kind) (path : String) :
    (∃ arg, classifyAll u ["--config", path] = .ok [configArg, arg] ∧
        readFrom none [configArg, arg] = configTrace path) ∨
      startsWith path "-" = true ∧
        ((∃ fault, classifyAll u ["--config", path] = .error fault) ∨
          ∃ arg fault, classifyAll u ["--config", path] = .ok [configArg, arg] ∧
            readFrom none [configArg, arg] = .failed fault) := by
  rcases classifyAll_config hconfig path with ⟨fault, hall, hpath⟩ | ⟨kind, hall, hpath⟩
  · have hdashed : startsWith path "-" = true := by
      apply dashed_of_classify_ne_plain (u := u)
      rw [hpath]
      exact nofun
    exact .inr ⟨hdashed, .inl ⟨fault, hall⟩⟩
  · have hread := readFrom_config path kind
    by_cases hkind : kind = .plain
    · rw [if_pos hkind] at hread
      exact .inl ⟨_, hall, hread⟩
    · rw [if_neg hkind] at hread
      have hdashed : startsWith path "-" = true := by
        apply dashed_of_classify_ne_plain (u := u)
        rw [hpath]
        exact fun heq => hkind (Except.ok.inj heq)
      exact .inr ⟨hdashed, .inr ⟨_, _, hall, hread⟩⟩

theorem readFrom_nil : readFrom none [] = .done := by
  rw [readFrom]
  rfl

/-- A positional argument that is still to come is taken as soon as a plain text comes. -/
theorem readFrom_positional (p : Positional) {args : List Arg} {n : Nat}
    (h : positionalCount? p.arity (⟨s, .plain⟩ :: args) = some (n + 1)) :
    readFrom (some p) (⟨s, .plain⟩ :: args) =
      (readFrom none (args.drop n)).after
        (.positional (positionalValues p.arity (⟨s, .plain⟩ :: args.take n))) := by
  simp [readFrom, h]

/-! ## §3 The service -/

/-- **Reading a start**: the service takes the config file, unless that has a dash in front and is
    mistaken for an option. -/
theorem readService_config (config? : Option String) :
    readService (configArguments config?) = .ok { Arguments.none with config := config? } ∨
      (∃ fault, readService (configArguments config?) =
        .error (.fault serviceUsage.program fault)) ∧
        ∃ path ∈ config?, startsWith path "-" = true := by
  cases config? with
  | none =>
    have hread : read serviceUsage [] = .done := readFrom_nil
    rw [configArguments, readService, hread]
    exact .inl rfl
  | some path =>
    have hconfig : classify serviceUsage "--config" = .ok configArg.kind := by decide
    -- the service has no positional argument to wait for
    have hpositional : serviceUsage.positional = none := rfl
    rw [configArguments, readService, read]
    rcases config_read_or_dashed hconfig path with
      ⟨arg, hall, hread⟩ | ⟨hdashed, ⟨fault, hall⟩ | ⟨arg, fault, hall, hread⟩⟩
    · rw [hall]
      dsimp only
      rw [hpositional, hread]
      exact .inl rfl
    · rw [hall]
      exact .inr ⟨⟨fault, rfl⟩, path, rfl, hdashed⟩
    · rw [hall]
      dsimp only
      rw [hpositional, hread]
      exact .inr ⟨⟨fault, rfl⟩, path, rfl, hdashed⟩

/-! ## §4 The scan -/

/-- The command line hands everything from the command on to the command, if it can tell what it is
    at all. -/
theorem read_mainUsage (hs : classify mainUsage s = .ok .plain) (rest : List String) :
    read mainUsage (s :: rest) = ⟨[.positional (s :: rest)], [], none⟩ ∨
      ∃ fault, read mainUsage (s :: rest) = .failed fault ∧
        classifyAll mainUsage rest = .error fault := by
  rw [read, classifyAll_cons_plain hs]
  cases hrest : classifyAll mainUsage rest with
  | error fault => exact .inr ⟨fault, rfl, rfl⟩
  | ok args =>
    refine .inl ?_
    -- a command takes all that follows it, options included
    have hcount : positionalCount? .command (⟨s, .plain⟩ :: args) = some (args.length + 1) := rfl
    have hread := readFrom_positional ⟨"command", .command⟩ hcount
    rw [List.drop_length, List.take_length, readFrom_nil] at hread
    have hvalues : positionalValues .command (⟨s, .plain⟩ :: args) = s :: rest := by
      rw [← classifyAll_map_text hrest]
      rfl
    rw [hvalues] at hread
    exact hread

/-- Behind the name of the scan its own arguments are read. -/
theorem readCommand_scan (rest : List String) :
    readCommand ("scan" :: rest) =
      (takeTrace scanUsage (read scanUsage rest)).map fun r => (.scan, r) := by
  have hname : Command.ofName? "scan" = some .scan := by decide
  rw [readCommand]
  dsimp only [List.head?_cons, Option.getD_some, List.tail_cons]
  rw [hname]
  dsimp only [Command.usage]
  cases takeTrace scanUsage (read scanUsage rest) <;> rfl

/-- A scan that is accepted leaves none of its arguments over. -/
theorem takeTrace_of_readMain {rest : List String} {a : Arguments}
    (h : readMain ("scan" :: rest) = .ok (.scan, a)) :
    takeTrace scanUsage (read scanUsage rest) = .ok (a, []) := by
  rw [readMain] at h
  rcases read_mainUsage (s := "scan") (by decide) rest with hread | ⟨fault, hread, -⟩
  · rw [hread] at h
    dsimp only [takeCommand] at h
    rw [readCommand_scan] at h
    cases htake : takeTrace scanUsage (read scanUsage rest) with
    | error stop =>
      rw [htake] at h
      cases h
    | ok r =>
      obtain ⟨a', extras⟩ := r
      rw [htake] at h
      cases extras with
      | nil =>
        cases h
        rfl
      | cons extra extras => cases h
  · rw [hread] at h
    cases h

/-- The arguments of a scan of a directory under a config file. -/
def scanArguments (dir : String) (config? : Option String) : Arguments :=
  { Arguments.none with positional := some dir, config := config? }

/-- The directory is taken, and what follows it is read on. -/
theorem readFrom_directory {dir : String} (hdir : startsWith dir "/" = true) {args : List Arg}
    (hargs : args.takeWhile Arg.isDashes = []) :
    readFrom scanUsage.positional (⟨dir, .plain⟩ :: args) =
      (readFrom none args).after (.positional [dir]) := by
  have hcount : positionalCount? .atMostOne (⟨dir, .plain⟩ :: args) = some (0 + 1) := by
    show some (0 + 1 + (args.takeWhile Arg.isDashes).length) = some (0 + 1)
    rw [hargs]
    rfl
  have hvalues : positionalValues .atMostOne [⟨dir, .plain⟩] = [dir] := by
    have hne : dir ≠ "--" := by
      rintro rfl
      exact absurd hdir (by decide)
    simp [positionalValues, dropDashes, hne]
  have hread := readFrom_positional ⟨"directory", .atMostOne⟩ hcount
  rw [List.take_zero, hvalues] at hread
  exact hread

/-- A scan takes the directory and the config file; only a config file with a dash in front can be
    mistaken for an option. -/
theorem takeTrace_scanUsage {dir : String} (hdir : startsWith dir "/" = true)
    (config? : Option String) :
    takeTrace scanUsage (read scanUsage (dir :: configArguments config?)) =
        .ok (scanArguments dir config?, []) ∨
      (∃ fault, takeTrace scanUsage (read scanUsage (dir :: configArguments config?)) =
        .error (.fault scanUsage.program fault)) ∧
        ∃ path ∈ config?, startsWith path "-" = true := by
  have hplain : classify scanUsage dir = .ok .plain :=
    classify_of_not_dashed (not_dashed_of_absolute hdir)
  rw [read, classifyAll_cons_plain hplain]
  cases config? with
  | none =>
    have hread : readFrom scanUsage.positional [⟨dir, .plain⟩] =
        Trace.done.after (.positional [dir]) := by
      rw [readFrom_directory hdir rfl, readFrom_nil]
    refine .inl ?_
    show takeTrace scanUsage (readFrom scanUsage.positional [⟨dir, .plain⟩]) = _
    rw [hread]
    rfl
  | some path =>
    have hconfig : classify scanUsage "--config" = .ok configArg.kind := by decide
    rw [configArguments]
    rcases config_read_or_dashed hconfig path with
      ⟨arg, hall, hread⟩ | ⟨hdashed, ⟨fault, hall⟩ | ⟨arg, fault, hall, hread⟩⟩
    · rw [hall]
      dsimp only [Except.map]
      rw [readFrom_directory hdir rfl, hread]
      exact .inl rfl
    · rw [hall]
      exact .inr ⟨⟨fault, rfl⟩, path, rfl, hdashed⟩
    · rw [hall]
      dsimp only [Except.map]
      rw [readFrom_directory hdir rfl, hread]
      exact .inr ⟨⟨fault, rfl⟩, path, rfl, hdashed⟩

/-- The command line can tell what all arguments are, unless the config file has a dash in front. -/
theorem dashed_of_classifyAll_mainUsage {dir : String} (hdir : startsWith dir "/" = true)
    {config? : Option String} {fault : Fault}
    (h : classifyAll mainUsage (dir :: configArguments config?) = .error fault) :
    ∃ path ∈ config?, startsWith path "-" = true := by
  have hplain : classify mainUsage dir = .ok .plain :=
    classify_of_not_dashed (not_dashed_of_absolute hdir)
  rw [classifyAll_cons_plain hplain] at h
  cases config? with
  | none => cases h
  | some path =>
    refine ⟨path, rfl, ?_⟩
    by_contra hnot
    have hpath : classify mainUsage path = .ok .plain :=
      classify_of_not_dashed (by simpa using hnot)
    -- the command line itself has no such option, but an unknown one is no fault yet
    have hunknown : classify mainUsage "--config" = .ok .unknown := by decide
    rw [configArguments, classifyAll, hunknown, classifyAll_cons_plain hpath] at h
    cases h

/-- **Reading a scan**: the command line either scans the directory under the config file or finds
    fault with the arguments, and never stops for help. -/
theorem readMain_scan {dir : String} (hdir : startsWith dir "/" = true) (config? : Option String) :
    readMain ("scan" :: dir :: configArguments config?) = .ok (.scan, scanArguments dir config?) ∨
      (∃ program fault, readMain ("scan" :: dir :: configArguments config?) =
        .error (.fault program fault)) ∧ ∃ path ∈ config?, startsWith path "-" = true := by
  have hscan : classify mainUsage "scan" = .ok .plain := by decide
  rw [readMain]
  -- the arguments are read twice: as a whole to find the command, and then by the command
  rcases read_mainUsage hscan (dir :: configArguments config?) with hread | ⟨fault, hread, hall⟩
  · rw [hread]
    dsimp only [takeCommand]
    rw [readCommand_scan]
    rcases takeTrace_scanUsage hdir config? with htake | ⟨⟨fault, htake⟩, hdashed⟩
    · rw [htake]
      exact .inl rfl
    · rw [htake]
      exact .inr ⟨⟨_, fault, rfl⟩, hdashed⟩
  · rw [hread]
    exact .inr ⟨⟨_, fault, rfl⟩, dashed_of_classifyAll_mainUsage hdir hall⟩

end TsOutline.CommandLine
