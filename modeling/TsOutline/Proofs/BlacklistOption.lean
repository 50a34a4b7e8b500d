import TsOutline.Proofs.CommandOutput
import TsOutline.Proofs.Config.Precedence
import TsOutline.Proofs.GivenOptions

/-!
# A Blacklist Among the Arguments

A blacklist can be given to a scan and to the tool service by the same option. The service keeps every
value of it as an override; the scan drops one that has no entry, and what the config file has remains.

- **Reading** (`blacklist_of_takeEvents`): an option that is given once is read to its entries.
- **The scan** (`load_scanOverrides`): its configuration is that of the config file under all overrides.
- **The service** (`scanConfig_given`): arguments are searched only where the override has no entry, and
  then the search finds no entry either.
- **Both** (`blacklist_option_in_effect`): they agree unless the config file has a blacklist and the
  option has none.
-/

namespace TsOutline

/-! ## §1 Reading the option -/

namespace CommandLine

open Exclusion (entriesOf)

variable {u : Usage} {args : List String} {a : Arguments} {value : String}

/-- The option under a key is given once, with this value. -/
def GivesOnce (u : Usage) (key : Key) (args : List String) (value : String) : Prop :=
  givenValues key (read u args).events = [[value]]

/-- The option is read off the front, if what stands behind it is accepted as its value. -/
theorem givesOnce_cons (hname : classify u Exclusion.option =
      .ok (.known blacklistSwitch Exclusion.option none))
    (hfault : (read u (Exclusion.option :: value :: args)).fault? = none)
    (hrest : givenValues .blacklist (read u args).events = []) :
    GivesOnce u .blacklist (Exclusion.option :: value :: args) value := by
  unfold GivesOnce
  unfold read at hfault hrest ⊢
  rw [classifyAll, hname] at hfault ⊢
  dsimp only at hfault ⊢
  cases hall : classifyAll u (value :: args) with
  | error fault =>
    rw [hall] at hfault
    cases hfault
  | ok as =>
    rw [hall] at hfault
    dsimp only at hfault ⊢
    unfold readFrom at hfault ⊢
    dsimp only [blacklistSwitch] at hfault ⊢
    split at hfault
    · -- the next word is plain and becomes the value; the rest is read as if it stood alone
      rename_i value' others
      obtain ⟨rest, hargs, -, hothers⟩ := classifyAll_eq_cons hall (by simp)
      obtain ⟨rfl, rfl⟩ := List.cons.inj hargs
      rw [hothers] at hrest
      exact congrArg ([value] :: ·) hrest
    · cases hfault

theorem blacklist_of_takeEvents (h : takeEvents u .none (read u args).events = .ok a)
    (honce : GivesOnce u .blacklist args value) : a.blacklist = some (entriesOf value) := by
  have hlast := takeEvents_given Arguments.blacklist
    (fun values => some (entriesOf (values.head?.getD ""))) (fun h => (takeOption_ok h).2)
    (fun _ _ => rfl) h
  rw [honce] at hlast
  exact hlast

/-- A scan reads the option to its entries. -/
theorem blacklist_of_readMain (h : readMain ("scan" :: args) = .ok (.scan, a))
    (honce : GivesOnce scanUsage .blacklist args value) : a.blacklist = some (entriesOf value) := by
  have htake := takeTrace_of_readMain h
  unfold takeTrace at htake
  cases hevents : takeEvents scanUsage .none (read scanUsage args).events with
  | error stop =>
    rw [hevents] at htake
    cases htake
  | ok a' =>
    rw [hevents] at htake
    dsimp only at htake
    -- what else can be wrong is found after all options were taken
    split at htake
    · cases htake
    · obtain ⟨rfl, -⟩ := Prod.mk.inj (Except.ok.inj htake)
      exact blacklist_of_takeEvents hevents honce

/-- The service does so, too. -/
theorem blacklist_of_readService (h : readService args = .ok a)
    (honce : GivesOnce serviceUsage .blacklist args value) :
    a.blacklist = some (entriesOf value) :=
  blacklist_of_takeEvents (exists_row_of_readService h).2 honce

/-- A search for the option finds its value, or does not find the option in this spelling. -/
theorem ofArguments_of_once (h : readService args = .ok a)
    (honce : GivesOnce serviceUsage .blacklist args value) :
    Exclusion.ofArguments args = entriesOf value ∨ Exclusion.ofArguments args = [] := by
  have hname : classify serviceUsage Exclusion.option =
      .ok (.known blacklistSwitch Exclusion.option none) := by decide
  obtain ⟨row, hrow⟩ := (exists_row_of_readService h).1
  rw [Exclusion.ofArguments, argumentAfter?_row hname rfl hrow]
  cases hfound : firstSpelledOut? Exclusion.option row with
  | none => exact .inr rfl
  | some found =>
    obtain ⟨switch, hmem⟩ := exists_apart_of_firstSpelledOut? hfound
    -- the name belongs to the blacklist, so what was found is its one value
    have hswitch : switch = blacklistSwitch := by
      cases hrow.fits _ hmem with
      | apart hclass _ _ =>
        cases hname.symm.trans hclass
        rfl
    have hgiven : [found] ∈ givenValues .blacklist (read serviceUsage args).events := by
      rw [hrow.events, givenValues_row, List.mem_map]
      exact ⟨_, List.mem_filter.mpr ⟨hmem, by simp [GivenOption.switch, hswitch, blacklistSwitch]⟩,
        rfl⟩
    rw [honce, List.mem_singleton] at hgiven
    cases hgiven
    exact .inl rfl

end CommandLine

/-! ## §2 The overrides of a scan -/

namespace Config

variable {fields : Fields} {c : Config} {name : String}

theorem givenOverrides_append (overrides more : Fields) :
    givenOverrides (overrides ++ more) = givenOverrides overrides ++ givenOverrides more :=
  List.filter_append ..

theorem lastValue?_fieldOf (n : String) (v? : Option Value) :
    lastValue? name (givenOverrides (CommandLine.fieldOf n v?)) =
      if n = name then v?.filter isGiven else none := by
  cases v? with
  | none => exact (ite_self none).symm
  | some v =>
    have hgiven : givenOverrides [(n, v)] = [(n, v)].filter fun p => isGiven p.2 := rfl
    rw [CommandLine.fieldOf, hgiven, List.filter_cons, Option.filter_some]
    cases isGiven v with
    | false => exact (ite_self none).symm
    | true => exact lastValue?_cons name (n, v) []

theorem fst_of_mem_fieldOf {p : String × Value} {n : String} {v? : Option Value}
    (h : p ∈ CommandLine.fieldOf n v?) : p.1 = n := by
  cases v? with
  | none => cases h
  | some v => rw [List.mem_singleton.mp h]

/-- A field that is given anew is read to what is given, and any other to what it was. -/
theorem fieldOr_override {α β : Type} {fields' : Fields} {given? : Option β} {toValue : β → Value}
    {toSetting : β → α} {fallback a : α} {check : String → Value → Checked α}
    (hvalue : fieldValue? fields' name = (given?.map toValue).or (fieldValue? fields name))
    (hread : fieldOr fields name fallback check = .ok a)
    (hcheck : ∀ x, check name (toValue x) = .ok (toSetting x)) :
    fieldOr fields' name fallback check = .ok ((given?.map toSetting).getD a) := by
  cases given? with
  | none => rw [fieldOr_congr hvalue, hread]; rfl
  | some x => rw [fieldOr_of_some hvalue, hcheck]; rfl

/-- The configuration of a scan: that of the config file under the overrides of the arguments. -/
def scanned (c : Config) (directory? : Option String) (a : CommandLine.Arguments) : Config :=
  { c with workspace := (directory?.map some).getD c.workspace,
           blacklist := (CommandLine.blacklistOf a).getD c.blacklist,
           exportedOnly := if a.exportedOnly then true else c.exportedOnly,
           includeTypes := if a.noTypes then false else c.includeTypes }

section Scan

variable {directory? : Option String} {a : CommandLine.Arguments}

/-- The fields of a config file under the overrides of a scan. -/
def scanFields (fields : Fields) (directory? : Option String) (a : CommandLine.Arguments) : Fields :=
  setFields fields (givenOverrides (CommandLine.scanOverrides directory? a))

/-- Each of the overrides is about another field. -/
theorem fieldValue?_scanFields (fields : Fields) (name : String) :
    fieldValue? (scanFields fields directory? a) name =
      ((if "include_types" = name then (if a.noTypes then some (.bool false) else none).filter isGiven
        else none).or
      ((if "exported_only" = name then
          (if a.exportedOnly then some (.bool true) else none).filter isGiven
        else none).or
      ((if "blacklist" = name then
          ((CommandLine.blacklistOf a).map Settings.textsValue).filter isGiven
        else none).or
      ((if "type_depth" = name then a.typeDepth.filter isGiven else none).or
      (if "workspace" = name then (directory?.map .text).filter isGiven else none))))).or
        (fieldValue? fields name) := by
  rw [scanFields, fieldValue?_setFields, CommandLine.scanOverrides]
  simp only [givenOverrides_append, lastValue?_append, lastValue?_fieldOf]

/-- All overrides are about settings. -/
theorem filter_scanFields (fields : Fields) :
    (scanFields fields directory? a).filter (fun p => !fieldNames.contains p.1) =
      fields.filter fun p => !fieldNames.contains p.1 := by
  refine filter_setFields (fun p hp => ?_) fields
  have hmem := (List.mem_filter.mp hp).1
  -- five fields, each under the name of a setting
  simp only [CommandLine.scanOverrides, List.mem_append] at hmem
  rcases hmem with (((h | h) | h) | h) | h <;> rw [fst_of_mem_fieldOf h] <;> decide

/-- The blacklist of the option counts, if it has an entry. -/
theorem Reads.scanned_blacklist (h : Reads fields c) :
    fieldOr (scanFields fields directory? a) "blacklist" default.blacklist checkedBlacklist =
      .ok ((CommandLine.blacklistOf a).getD c.blacklist) := by
  have hvalue : fieldValue? (scanFields fields directory? a) "blacklist" =
      ((CommandLine.blacklistOf a).map Settings.textsValue).or (fieldValue? fields "blacklist") := by
    rw [fieldValue?_scanFields]
    cases CommandLine.blacklistOf a <;> rfl
  have hread := fieldOr_override hvalue h.blacklist (checkedBlacklist_textsValue _)
  rwa [Option.map_id'] at hread

/-- **The configuration of a scan**, where no depth is given. -/
theorem Reads.scanned (h : Reads fields c) (hdepth : a.typeDepth = none) :
    Reads (scanFields fields directory? a) (c.scanned directory? a) where
  workspace := by
    have hvalue : fieldValue? (scanFields fields directory? a) "workspace" =
        (directory?.map .text).or (fieldValue? fields "workspace") := by
      rw [fieldValue?_scanFields]
      cases directory? <;> rfl
    exact fieldOr_override hvalue h.workspace fun _ => rfl
  blacklist := h.scanned_blacklist
  typeDepth := by
    refine (fieldOr_congr ?_ _ _).trans h.typeDepth
    rw [fieldValue?_scanFields, hdepth]
    rfl
  exportedOnly := by
    have hvalue : fieldValue? (scanFields fields directory? a) "exported_only" =
        ((if a.exportedOnly then some true else none).map .bool).or
          (fieldValue? fields "exported_only") := by
      rw [fieldValue?_scanFields]
      cases a.exportedOnly <;> rfl
    rw [fieldOr_override hvalue h.exportedOnly fun _ => rfl, Config.scanned]
    cases a.exportedOnly <;> rfl
  includeTypes := by
    have hvalue : fieldValue? (scanFields fields directory? a) "include_types" =
        ((if a.noTypes then some false else none).map .bool).or
          (fieldValue? fields "include_types") := by
      rw [fieldValue?_scanFields]
      cases a.noTypes <;> rfl
    rw [fieldOr_override hvalue h.includeTypes fun _ => rfl, Config.scanned]
    cases a.noTypes <;> rfl
  routerFactories := by
    refine (fieldOr_congr ?_ _ _).trans h.routerFactories
    rw [fieldValue?_scanFields]
    rfl
  extras := h.extras.trans (filter_scanFields fields).symm

end Scan

section Loading

variable {fs : FileSystem} {readData : DataReader} {file? : Option String} {warnings : List Warning}
  {a : CommandLine.Arguments}

/-- A config file that is accepted alone is accepted under the overrides of a scan. -/
theorem load_scanOverrides (h : load fs readData file? [] = (.ok c, warnings))
    (hdepth : a.typeDepth = none) (directory? : Option String) :
    load fs readData file? (CommandLine.scanOverrides directory? a) =
      (.ok (c.scanned directory? a), warnings) := by
  obtain ⟨fields, hfields, hof⟩ := exists_fileFields_of_load h
  have hread : Reads fields c := ofFields_eq_ok_iff.mp hof
  have hscan : ofFields (setFields fields (givenOverrides (CommandLine.scanOverrides directory? a))) =
      .ok (c.scanned directory? a) := ofFields_eq_ok_iff.mpr (hread.scanned hdepth)
  rw [load_of_fileFields hfields, hscan]
  rfl

/-- Whatever else a scan overrides, its blacklist is that of the option, or of the config file. -/
theorem blacklist_of_load {c' : Config} {warnings' : List Warning} {directory? : Option String}
    (h : load fs readData file? [] = (.ok c, warnings))
    (hscan : load fs readData file? (CommandLine.scanOverrides directory? a) = (.ok c', warnings')) :
    c'.blacklist = (CommandLine.blacklistOf a).getD c.blacklist := by
  obtain ⟨fields, hfields, hof⟩ := exists_fileFields_of_load h
  obtain ⟨fields', hfields', hof'⟩ := exists_fileFields_of_load hscan
  -- both were read from the fields of the same file
  obtain ⟨hsame, -⟩ := Prod.mk.inj (hfields'.symm.trans hfields)
  obtain rfl := Except.ok.inj hsame
  have hread : Reads fields' c := ofFields_eq_ok_iff.mp hof
  have hread' : Reads (scanFields fields' directory? a) c' := ofFields_eq_ok_iff.mp hof'
  exact Except.ok.inj (hread'.blacklist.symm.trans hread.scanned_blacklist)

/-- The service keeps every blacklist that is given. -/
theorem load_startOverrides {entries : List String}
    (h : load fs readData file? [] = (.ok c, warnings)) (hblacklist : a.blacklist = some entries) :
    load fs readData file? (Service.startOverrides a) =
      (.ok (c.withBlacklist entries), warnings) := by
  obtain ⟨fields, hfields, hof⟩ := exists_fileFields_of_load h
  have hread : Reads fields c := ofFields_eq_ok_iff.mp hof
  have hset : setFields fields (givenOverrides (Service.startOverrides a)) =
      setField "blacklist" (Settings.textsValue entries) fields := by
    rw [Service.startOverrides, hblacklist]
    rfl
  have hchanged : Reads (setField "blacklist" (Settings.textsValue entries) fields)
      (c.withBlacklist entries) :=
    hread.withBlacklist (fun n hn => by rw [fieldValue?_setField, if_neg hn.symm])
      (filter_setField (by decide) _ _)
      (fieldOr_setField_self (checkedBlacklist_textsValue _ entries) _ _)
  rw [load_of_fileFields hfields, hset, ofFields_eq_ok_iff.mpr hchanged]
  rfl

end Loading

end Config

/-! ## §3 The blacklist in effect -/

open Exclusion (entriesOf)

/-- The blacklist of a scan with the option: the entries of its value, or those of the config file if
    the value has none. -/
def scannedBlacklist (c : Config) (value : String) : List String :=
  if entriesOf value = [] then c.blacklist else entriesOf value

theorem CommandLine.blacklistOf_getD {a : Arguments} {value : String} (c : Config)
    (h : a.blacklist = some (entriesOf value)) :
    (blacklistOf a).getD c.blacklist = scannedBlacklist c value := by
  rw [blacklistOf, h, scannedBlacklist]
  cases entriesOf value <;> rfl

/-- Arguments are searched where the override has no entry, and then have none either. -/
theorem Service.scanConfig_given {args : List String} {a : CommandLine.Arguments} {value : String}
    (hread : CommandLine.readService args = .ok a)
    (honce : CommandLine.GivesOnce CommandLine.serviceUsage .blacklist args value) (c : Config)
    (root : String) :
    scanConfig (c.withBlacklist (entriesOf value)) root args =
      (c.withBlacklist (entriesOf value)).withWorkspace root := by
  unfold scanConfig Config.withBlacklist
  dsimp only
  cases hentries : entriesOf value with
  | cons entry entries => rfl
  | nil =>
    have hnone : Exclusion.ofArguments args = [] := by
      rcases CommandLine.ofArguments_of_once hread honce with h | h
      · exact h.trans hentries
      · exact h
    rw [hnone]
    rfl

section InEffect

variable {w : World} {c : Config} {args : List String} {a : CommandLine.Arguments} {value : String}
  {warnings : List Warning}

/-- **The service** starts with the entries of the value, and its tool runs under them. -/
theorem Service.start_given (hfile : w.loadConfig a.config [] = (.ok c, warnings))
    (hread : CommandLine.readService args = .ok a)
    (honce : CommandLine.GivesOnce CommandLine.serviceUsage .blacklist args value) (s : Service) :
    let started := s.handle w (.start args)
    started.answer = .started (c.withBlacklist (entriesOf value)) ∧
    ∀ w' setting? root, workspace w' started.service.effective args setting? = .ok root →
      (started.service.handle w' (.structureDocument args setting?)).answer = .document
        (documentOf w' ((c.withBlacklist (entriesOf value)).withWorkspace root)).1 := by
  have hblacklist := CommandLine.blacklist_of_readService hread honce
  have hstart := start_of_load (s := s) hread (Config.load_startOverrides hfile hblacklist)
  rw [handle_start, hstart]
  refine ⟨rfl, fun w' setting? root hworkspace => ?_⟩
  rw [handle_structureDocument, structureDocument, hworkspace]
  dsimp only
  rw [← scanConfig_given hread honce c root]
  rfl

/-- **A scan** without a depth of its own is accepted with the config file, and runs under the blacklist
    that it has then. -/
theorem CommandLine.run_scan_given (hfile : w.loadConfig a.config [] = (.ok c, warnings))
    (hread : readMain ("scan" :: args) = .ok (.scan, a))
    (honce : GivesOnce scanUsage .blacklist args value) (hdepth : a.typeDepth = none)
    {directory? : Option String} (hdirectory : directoryOf w.fs.cwd a = .ok directory?) :
    run w ("scan" :: args) =
      scanWith w a ((c.scanned directory? a).withBlacklist (scannedBlacklist c value)) warnings := by
  have hload := Config.load_scanOverrides hfile hdepth directory?
  have hscanned : c.scanned directory? a =
      (c.scanned directory? a).withBlacklist (scannedBlacklist c value) := by
    rw [← blacklistOf_getD c (blacklist_of_readMain hread honce)]
    rfl
  rw [run_of_scan hread, scan, hdirectory, ← hscanned]
  dsimp only
  rw [World.loadConfig, hload]

end InEffect

/-- **The option `--blacklist` in both programs.** Let a config file be accepted, and let the option be
    given once. A service that starts with it and the config file has the blacklist of the config file
    replaced by the entries of the value, and writes the document of each workspace under them. A scan
    with it and the config file has the blacklist replaced too if there is an entry; it keeps that of the
    config file if there is none. So both exclude what the value names, unless it names nothing and the
    config file has a blacklist. -/
theorem blacklist_option_in_effect (w : World) (file? : Option String) (c : Config)
    (warnings : List Warning) (hfile : w.loadConfig file? [] = (.ok c, warnings)) (value : String) :
    (∀ (s : Service) args a, CommandLine.readService args = .ok a → a.config = file? →
      CommandLine.GivesOnce CommandLine.serviceUsage .blacklist args value →
      let started := s.handle w (.start args)
      started.answer = .started (c.withBlacklist (entriesOf value)) ∧
      ∀ w' setting? root, Service.workspace w' started.service.effective args setting? = .ok root →
        (started.service.handle w' (.structureDocument args setting?)).answer = .document
          (Service.documentOf w' ((c.withBlacklist (entriesOf value)).withWorkspace root)).1) ∧
    (∀ args a, CommandLine.readMain ("scan" :: args) = .ok (.scan, a) → a.config = file? →
      CommandLine.GivesOnce CommandLine.scanUsage .blacklist args value →
      (∀ c' warnings' root p, CommandLine.Scans w a c' warnings' root p →
        c'.blacklist = scannedBlacklist c value) ∧
      (a.typeDepth = none → ∀ directory?, CommandLine.directoryOf w.fs.cwd a = .ok directory? →
        CommandLine.run w ("scan" :: args) =
          CommandLine.scanWith w a
            ((c.scanned directory? a).withBlacklist (scannedBlacklist c value)) warnings)) ∧
    (scannedBlacklist c value = entriesOf value ↔ entriesOf value ≠ [] ∨ c.blacklist = []) := by
  refine ⟨?_, ?_, ?_⟩
  · rintro s args a hread rfl honce
    exact Service.start_given hfile hread honce s
  · rintro args a hread rfl honce
    refine ⟨fun c' warnings' root p hscans => ?_, fun hdepth directory? hdirectory =>
      CommandLine.run_scan_given hfile hread honce hdepth hdirectory⟩
    -- a scan that reaches its analysis has loaded its configuration
    obtain ⟨directory?, -, hload⟩ := hscans.config
    exact (Config.blacklist_of_load hfile hload).trans
      (CommandLine.blacklistOf_getD c (CommandLine.blacklist_of_readMain hread honce))
  · unfold scannedBlacklist
    split
    · rename_i hnone
      rw [hnone, or_iff_right (fun h => h rfl)]
    · rename_i hsome
      exact iff_of_true rfl (.inl hsome)

/-- A project whose config file has a blacklist. -/
def blacklistedProject : World where
  fs := ⟨.folder [("c.yaml", .file "blacklist: a.ts".toUTF8),
    ("p", .folder [("a.ts", .file "".toUTF8)])], []⟩
  parse := fun _ _ => .mk .program true none "" []
  readData := fun text =>
    if text = "blacklist: a.ts" then some (.map [(.text "blacklist", .text "a.ts")]) else none

theorem blacklistedProject_load :
    blacklistedProject.loadConfig (some "c.yaml") [] =
      (.ok (Config.default.withBlacklist ["a.ts"]), []) := by
  have hfile : blacklistedProject.fs.isFile (Path.normalText "c.yaml") = .ok true := by
    decide +kernel
  have hread : blacklistedProject.fs.read (Path.normalText "c.yaml") = .ok "blacklist: a.ts" := by
    decide +kernel
  have hdata : blacklistedProject.readData "blacklist: a.ts" =
      some (.map [(.text "blacklist", .text "a.ts")]) := by rfl
  exact Config.load_of_file hfile hread hdata rfl rfl

/-- The arguments that give a value and the config file. -/
def givingArguments (value : String) : List String :=
  ["--blacklist", value, "--config", "c.yaml"]

theorem exists_ok_of_toOption {ε α β : Type} {x : Except ε α} {f : α → β} {b : β}
    (h : x.toOption.map f = some b) : ∃ a, x = .ok a ∧ f a = b := by
  cases x with
  | error e => cases h
  | ok a => exact ⟨a, rfl, Option.some.inj h⟩

/-- The parts of arguments that decide what a scan runs under, besides the blacklist. -/
def scanParts (a : CommandLine.Arguments) : Option String × Option String × Bool × Bool × Bool :=
  (a.positional, a.config, a.typeDepth.isNone, a.exportedOnly, a.noTypes)

/-- A scan under the config file that overrides nothing but the blacklist. -/
theorem exists_readMain_of_parts (args : List String)
    (h : (CommandLine.readMain ("scan" :: args)).toOption.map (fun r => (r.1, scanParts r.2)) =
      some (.scan, none, some "c.yaml", true, false, false)) :
    ∃ a, CommandLine.readMain ("scan" :: args) = .ok (.scan, a) ∧ a.config = some "c.yaml" ∧
      a.typeDepth = none ∧ (∀ cwd, CommandLine.directoryOf cwd a = .ok none) ∧
      ∀ (c : Config) entries, (c.scanned none a).withBlacklist entries = c.withBlacklist entries := by
  obtain ⟨⟨command, a⟩, hmain, hparts⟩ := exists_ok_of_toOption h
  simp only [scanParts, Prod.mk.injEq, Option.isNone_iff_eq_none] at hparts
  obtain ⟨rfl, hpositional, hconfig, hdepth, hexported, htypes⟩ := hparts
  refine ⟨a, hmain, hconfig, hdepth, fun cwd => ?_, fun c entries => ?_⟩
  · rw [CommandLine.directoryOf, hpositional]
  · rw [Config.scanned, hexported, htypes]
    rfl

/-- Two entries replace that of the config file in both programs. -/
theorem entries_replace_configured_blacklist :
    let args := givingArguments "old, *.gen.ts"
    let started := (⟨none⟩ : Service).handle blacklistedProject (.start args)
    blacklistedProject.loadConfig (some "c.yaml") [] =
      (.ok (Config.default.withBlacklist ["a.ts"]), []) ∧
    started.answer = .started (Config.default.withBlacklist ["old", "*.gen.ts"]) ∧
    (started.service.handle blacklistedProject (.structureDocument args (some "/p"))).answer =
      .document (Service.documentOf blacklistedProject
        ((Config.default.withBlacklist ["old", "*.gen.ts"]).withWorkspace "/p")).1 ∧
    ∃ a, CommandLine.readMain ("scan" :: args) = .ok (.scan, a) ∧
      CommandLine.run blacklistedProject ("scan" :: args) =
        CommandLine.scanWith blacklistedProject a
          (Config.default.withBlacklist ["old", "*.gen.ts"]) [] := by
  intro args started
  have hentries : entriesOf "old, *.gen.ts" = ["old", "*.gen.ts"] := by decide +kernel
  have hscanned : scannedBlacklist (Config.default.withBlacklist ["a.ts"]) "old, *.gen.ts" =
      ["old", "*.gen.ts"] := by
    rw [scannedBlacklist, hentries]
    rfl
  obtain ⟨hservice, hscan, -⟩ := blacklist_option_in_effect blacklistedProject (some "c.yaml") _ []
    blacklistedProject_load "old, *.gen.ts"
  rw [hentries] at hservice
  rw [hscanned] at hscan
  -- the service
  obtain ⟨a, hread, hconfig⟩ := exists_ok_of_toOption (x := CommandLine.readService args)
    (f := CommandLine.Arguments.config) (b := some "c.yaml") (by decide +kernel)
  obtain ⟨hstarted, hdocument⟩ := hservice ⟨none⟩ args a hread hconfig
    (CommandLine.givesOnce_cons (by decide) (by decide +kernel) (by decide +kernel))
  have hworkspace : Service.workspace blacklistedProject started.service.effective args
      (some "/p") = .ok "/p" := by
    have hresolve : Workspace.resolve blacklistedProject.fs (some "/p") args = .ok "/p" := by
      decide +kernel
    rw [Service.workspace, hresolve]
  -- the scan
  obtain ⟨b, hmain, hconfig', hdepth, hdirectory, hsame⟩ :=
    exists_readMain_of_parts args (by decide +kernel)
  have hrun := (hscan args b hmain hconfig'
    (CommandLine.givesOnce_cons (by decide) (by decide +kernel) (by decide +kernel))).2 hdepth none
    (hdirectory _)
  rw [hsame] at hrun
  exact ⟨blacklistedProject_load, hstarted, hdocument _ _ _ hworkspace, b, hmain, hrun⟩

/-- **A value without an entry** empties the blacklist of the service, and leaves that of the scan. -/
theorem comma_leaves_configured_blacklist :
    let args := givingArguments ","
    blacklistedProject.loadConfig (some "c.yaml") [] =
      (.ok (Config.default.withBlacklist ["a.ts"]), []) ∧
    entriesOf "," = [] ∧
    ((⟨none⟩ : Service).handle blacklistedProject (.start args)).answer =
      .started (Config.default.withBlacklist []) ∧
    ∃ a, CommandLine.readMain ("scan" :: args) = .ok (.scan, a) ∧
      CommandLine.run blacklistedProject ("scan" :: args) =
        CommandLine.scanWith blacklistedProject a (Config.default.withBlacklist ["a.ts"]) [] := by
  intro args
  have hentries : entriesOf "," = [] := by decide +kernel
  obtain ⟨a, hread, hconfig⟩ := exists_ok_of_toOption (x := CommandLine.readService args)
    (f := CommandLine.Arguments.config) (b := some "c.yaml") (by decide +kernel)
  have hstarted := (Service.start_given (hconfig ▸ blacklistedProject_load) hread
    (CommandLine.givesOnce_cons (by decide) (by decide +kernel) (by decide +kernel)) ⟨none⟩).1
  obtain ⟨b, hmain, hconfig', hdepth, hdirectory, hsame⟩ :=
    exists_readMain_of_parts args (by decide +kernel)
  have hrun := CommandLine.run_scan_given (hconfig' ▸ blacklistedProject_load) hmain
    (CommandLine.givesOnce_cons (by decide) (by decide +kernel) (by decide +kernel)) hdepth
    (hdirectory _)
  rw [hentries] at hstarted
  rw [hsame, scannedBlacklist, if_pos hentries] at hrun
  exact ⟨blacklistedProject_load, hentries, hstarted, b, hmain, hrun⟩

end TsOutline
