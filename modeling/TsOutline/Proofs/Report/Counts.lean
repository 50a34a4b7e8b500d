import Mathlib.Algebra.GroupWithZero.Nat
import Mathlib.Data.Finset.Card
import TsOutline.Proofs.Project.Union
import TsOutline.Proofs.Report.Reading
import TsOutline.Proofs.ServiceState

/-!
# Counts of a Report

The same things are counted three times: the tool counts the records of an analysis, the summary counts
them once more and counts the files by their groups, and the document lists them. Here all counts are
taken from one analysis, and from the text itself.

- **Groups** (`sum_length_filter`): items are as many as those under all keys together.
- **The summary** (`readSummary?_summarize`): the numbers in its lines can be read back.
- **The document** (`HasSections`): it is put together from sections, and these have all procedures.
- **The files** (`fileCount_add_failed_le`): a file with records is not one of those that were skipped.
-/

namespace TsOutline

/-! ## §1 Keys and groups -/

section Groups

variable {α : Type} {key : α → String} {items : List α}

/-- Keys are counted once each. -/
theorem length_firstSeen (keys : List String) : (firstSeen keys).length = keys.toFinset.card := by
  have hkeys : (firstSeen keys).toFinset = keys.toFinset := by
    ext k
    rw [List.mem_toFinset, List.mem_toFinset, mem_firstSeen]
  rw [← List.toFinset_card_of_nodup (nodup_firstSeen keys), hkeys]

/-- **Each item is under one key**: the items under different keys are all items together. -/
theorem sum_length_filter {names : List String} (hnodup : names.Nodup)
    (hkeys : ∀ x ∈ items, key x ∈ names) :
    (names.map fun k => (items.filter fun x => key x = k).length).sum = items.length := by
  induction names generalizing items with
  | nil =>
    have hnone : items = [] := List.eq_nil_iff_forall_not_mem.mpr fun x hx => nomatch hkeys x hx
    rw [hnone]
    rfl
  | cons k rest ih =>
    obtain ⟨hk, hrest⟩ := List.nodup_cons.mp hnodup
    -- the items under other keys are those of the rest
    have hothers : ∀ x ∈ items.filter (fun x => !decide (key x = k)), key x ∈ rest := by
      intro x hx
      obtain ⟨hmem, hne⟩ := List.mem_filter.mp hx
      exact (List.mem_cons.mp (hkeys x hmem)).resolve_left (by simpa using hne)
    have hsame : (rest.map fun j => (items.filter fun x => key x = j).length) =
        rest.map fun j =>
          ((items.filter fun x => !decide (key x = k)).filter fun x => key x = j).length := by
      refine List.map_congr_left fun j hj => ?_
      rw [List.filter_filter]
      congr 1
      refine List.filter_congr fun x _ => ?_
      by_cases hx : key x = j
      · have hne : j ≠ k := fun heq => hk (heq ▸ hj)
        simp [hx, hne]
      · simp [hx]
    rw [List.map_cons, List.sum_cons, hsame, ih hrest hothers]
    exact (List.length_eq_length_filter_add _).symm

/-- The groups have all items together. -/
theorem sum_length_groupBy (key : α → String) (items : List α) :
    ((groupBy key items).map fun group => group.2.length).sum = items.length := by
  rw [groupBy, List.map_map]
  exact sum_length_filter (nodup_firstSeen _) fun x hx =>
    mem_firstSeen.mpr (List.mem_map_of_mem hx)

end Groups

namespace Report

open Text (join pieces trim)

/-! ## §2 The numbers of a summary -/

/-- The number that a word is, if it has digits only. -/
def numeral? (word : String) : Option Nat :=
  if word ≠ "" ∧ word.toList.all Char.isDigit = true then some (Nat.ofDigitChars 10 word.toList 0)
  else none

/-- The numbers among the words of a line. -/
def numbersIn (line : String) : List Nat :=
  (pieces ' ' line).filterMap numeral?

/-- The numbers that a summary gives. -/
structure SummaryNumbers where
  filesScanned : Nat
  functions : Nat
  procedures : Nat
  types : Nat
  files : Nat
  deriving Repr, DecidableEq

/-- The numbers in the fourth and in the fifth line of a text. -/
def readSummary? (text : String) : Option SummaryNumbers :=
  match pieces '\n' text with
  | _ :: _ :: _ :: scanned :: counts :: _ =>
    match numbersIn scanned, numbersIn counts with
    | [scanned], [functions, procedures, types, files] =>
      some ⟨scanned, functions, procedures, types, files⟩
    | _, _ => none
  | _ => none

theorem isDigit_of_mem_repr {c : Char} {n : Nat} (h : c ∈ (Nat.repr n).toList) : c.isDigit = true := by
  rw [Nat.toList_repr] at h
  exact Nat.isDigit_of_mem_toDigits (by decide) (by decide) h

theorem not_mem_repr {c : Char} (hc : c.isDigit = false) (n : Nat) : c ∉ (Nat.repr n).toList := by
  intro hmem
  rw [isDigit_of_mem_repr hmem] at hc
  cases hc

@[simp] theorem numeral?_repr (n : Nat) : numeral? (Nat.repr n) = some n := by
  have hne : Nat.repr n ≠ "" := by
    rw [ne_eq, ← String.toList_inj, Nat.toList_repr]
    exact Nat.toDigits_ne_nil
  rw [numeral?, if_pos ⟨hne, List.all_eq_true.mpr fun c hc => isDigit_of_mem_repr hc⟩,
    Nat.toList_repr, Nat.ofDigitChars_ten_toDigits]

/-- The numbers in front of a blank, and then those behind it. -/
theorem numbersIn_append (a b : String) : numbersIn (a ++ " " ++ b) = numbersIn a ++ numbersIn b := by
  have hchars : (a ++ " " ++ b).toList = a.toList ++ ' ' :: b.toList := by simp
  rw [numbersIn, pieces, hchars, Text.piecesOf_append_cons, List.map_append, List.filterMap_append]
  rfl

theorem numbersIn_repr (n : Nat) : numbersIn (Nat.repr n) = [n] := by
  rw [numbersIn, pieces, Text.piecesOf_of_not_mem (not_mem_repr (by decide) n), List.map_singleton,
    String.ofList_toList, List.filterMap_cons_some (numeral?_repr n), List.filterMap_nil]

/-- **A number among words** is read, after those in front of it. -/
theorem numbersIn_among (before : String) (n : Nat) (behind : String) :
    numbersIn (before ++ " " ++ Nat.repr n ++ " " ++ behind) =
      numbersIn before ++ n :: numbersIn behind := by
  rw [numbersIn_append, numbersIn_append, numbersIn_repr, List.append_assoc]
  rfl

/-- The line with the number of scanned files. -/
def scannedLine (scanned : Nat) : String :=
  "- Scanned " ++ Nat.repr scanned ++ " code files"

theorem numbersIn_scannedLine (scanned : Nat) : numbersIn (scannedLine scanned) = [scanned] := by
  have hline : scannedLine scanned =
      "- Scanned" ++ " " ++ Nat.repr scanned ++ " " ++ "code files" := by
    have hfiles : " code files" = " " ++ "code files" := rfl
    rw [scannedLine, hfiles, ← String.append_assoc]
    rfl
  have hwords : numbersIn "- Scanned" = [] ∧ numbersIn "code files" = [] := by decide
  rw [hline, numbersIn_among, hwords.1, hwords.2]
  rfl

theorem numbersIn_countLine (functions : List FunctionSignature) (types : List TypeSignature) :
    numbersIn (countLine functions types) =
      [functions.length - procedureCount functions, procedureCount functions, types.length,
        fileCount functions types] := by
  have hline : countLine functions types =
      "- Found" ++ " " ++ Nat.repr (functions.length - procedureCount functions) ++ " " ++
        ("function signatures," ++ " " ++ Nat.repr (procedureCount functions) ++ " " ++
          ("tRPC procedures and" ++ " " ++ Nat.repr types.length ++ " " ++
            ("type definitions in" ++ " " ++ Nat.repr (fileCount functions types) ++ " " ++
              "files"))) := by
    have hsignatures : " function signatures, " = " " ++ ("function signatures," ++ " ") := rfl
    have hprocedures : " tRPC procedures and " = " " ++ ("tRPC procedures and" ++ " ") := rfl
    have htypes : " type definitions in " = " " ++ ("type definitions in" ++ " ") := rfl
    have hfound : "- Found " = "- Found" ++ " " := rfl
    have hfiles : " files" = " " ++ "files" := rfl
    unfold countLine
    -- not `rw`, which would compare the long texts when it is done
    rewrite [hfound, hsignatures, hprocedures, htypes, hfiles]
    simp only [String.append_assoc]
  have hwords : numbersIn "- Found" = [] ∧ numbersIn "function signatures," = [] ∧
      numbersIn "tRPC procedures and" = [] ∧ numbersIn "type definitions in" = [] ∧
      numbersIn "files" = [] := by
    decide
  obtain ⟨hfound, hsignatures, hprocedures, htypes, hfiles⟩ := hwords
  rw [hline, numbersIn_among, numbersIn_among, numbersIn_among, numbersIn_among, hfound, hsignatures,
    hprocedures, htypes, hfiles]
  rfl

theorem oneLine_scannedLine (scanned : Nat) : Text.OneLine (scannedLine scanned) := by
  refine Text.oneLine_append.mpr ⟨Text.oneLine_append.mpr ⟨by decide, ?_⟩, by decide⟩
  exact not_mem_repr (by decide) scanned

theorem oneLine_countLine (functions : List FunctionSignature) (types : List TypeSignature) :
    Text.OneLine (countLine functions types) := by
  have hnumber (n : Nat) : Text.OneLine (Nat.repr n) := not_mem_repr (by decide) n
  unfold countLine
  simp only [Text.oneLine_append, hnumber, and_true]
  decide

/-- **The numbers of a summary** are those of the records and of the scan, whatever the document is. -/
theorem readSummary?_summarize (markdown : String) (filesScanned : Nat)
    (functions : List FunctionSignature) (types : List TypeSignature) (exportedOnly : Bool)
    (blacklist : List String) :
    readSummary? (summarize markdown filesScanned functions types exportedOnly blacklist) =
      some ⟨filesScanned, functions.length - procedureCount functions, procedureCount functions,
        types.length, fileCount functions types⟩ := by
  -- behind the five lines there is something, so that all of them end
  obtain ⟨next, rest, hlines⟩ : ∃ next rest,
      summarize markdown filesScanned functions types exportedOnly blacklist =
        join "\n" ("Generated structure document:" :: "" :: "Summary:" ::
          scannedLine filesScanned :: countLine functions types :: next :: rest) := by
    unfold summarize summaryText
    cases exportedOnly <;> cases blacklist.isEmpty <;> exact ⟨_, _, rfl⟩
  have hpieces : pieces '\n' (summarize markdown filesScanned functions types exportedOnly blacklist) =
      "Generated structure document:" :: "" :: "Summary:" :: scannedLine filesScanned ::
        countLine functions types :: pieces '\n' (join "\n" (next :: rest)) := by
    rw [hlines, Text.pieces_join_cons rfl (by decide), Text.pieces_join_cons rfl (by decide),
      Text.pieces_join_cons rfl (by decide), Text.pieces_join_cons rfl (oneLine_scannedLine _),
      Text.pieces_join_cons rfl (oneLine_countLine functions types)]
  rw [readSummary?, hpieces]
  dsimp only
  rw [numbersIn_scannedLine, numbersIn_countLine]

/-! ## §3 The sections of a document -/

/-- The text of a section. -/
def Section.text (s : Section) : String :=
  "## " ++ s.heading ++ "\n\n" ++
    join "" (s.routers.map fun router =>
      "### Router: " ++ router.1 ++ "\n" ++ join "\n" (router.2.map ("- " ++ ·)) ++ "\n\n") ++
    (if s.functions.isEmpty then ""
      else (if s.routers.isEmpty then "" else "### Other Functions\n") ++ join "\n" s.functions ++
        "\n\n") ++
    if s.types.isEmpty then "" else "### Types\n" ++ join "\n" s.types ++ "\n\n"

/-- The number of procedures in a section: those of its routers. -/
def Section.procedureCount (s : Section) : Nat :=
  (s.routers.map fun router => router.2.length).sum

/-- A document is written from sections: it has the title and the sections one after the other, or says
    that there is nothing if there are none. -/
inductive IsWritten : String → List Section → Prop where
  | nothingFound : IsWritten nothingFound []
  | nothingExported : IsWritten nothingExported []
  | sections {sections : List Section} : sections ≠ [] →
    IsWritten (trim (title ++ "\n\n" ++ join "" (sections.map Section.text)) ++ "\n") sections

section Document

variable {cwd : Place} {root : String} {exportedOnly : Bool} {functions : List FunctionSignature}
  {types : List TypeSignature}

/-- What a section says is all that is written in it. -/
theorem sectionText_eq_text (heading : String) (functions : List FunctionSignature)
    (types : List TypeSignature) :
    sectionText heading functions types = (sectionOf heading functions types).text := by
  have hrouters (groups : List (String × List FunctionSignature)) :
      (groups.map routerEntry).map (fun router =>
        "### Router: " ++ router.1 ++ "\n" ++ join "\n" (router.2.map ("- " ++ ·)) ++ "\n\n") =
      groups.map routerText := by
    rw [List.map_map]
    refine List.map_congr_left fun group _ => ?_
    show _ ++ join "\n" ((group.2.map (·.fullSignature)).map ("- " ++ ·)) ++ _ = _
    rw [List.map_map]
    rfl
  -- both ask whether there are routers; one asks the groups, the other their texts
  unfold sectionText Section.text sectionOf functionsText typesText
  dsimp only
  simp only [hrouters, List.isEmpty_map]
  cases (groupBy routerOf (functions.filter (·.isProcedure))).isEmpty <;> rfl

theorem procedureCount_sectionOf (heading : String) (functions : List FunctionSignature)
    (types : List TypeSignature) :
    (sectionOf heading functions types).procedureCount = procedureCount functions := by
  have hlengths : ((groupBy routerOf (functions.filter (·.isProcedure))).map routerEntry).map
      (fun router => router.2.length) =
        (groupBy routerOf (functions.filter (·.isProcedure))).map fun group => group.2.length := by
    rw [List.map_map]
    exact List.map_congr_left fun group _ => List.length_map _
  rw [Section.procedureCount, sectionOf, hlengths, sum_length_groupBy, procedureCount]

/-- **All procedures are in some section**, and none in two of them. -/
theorem sum_procedureCount (cwd : Place) (root : String) (functions : List FunctionSignature)
    (types : List TypeSignature) :
    (((filePaths functions types).map (fileSection cwd root functions types)).map
      Section.procedureCount).sum = procedureCount functions := by
  have hnodup : (filePaths functions types).Nodup := nodup_sorted (nodup_firstSeen _)
  have hpath : ∀ f ∈ functions.filter (·.isProcedure), f.filePath ∈ filePaths functions types :=
    fun f hf => mem_filePaths.mpr (.inl ⟨f, (List.mem_filter.mp hf).1, rfl⟩)
  -- the procedures of a file are taken from the file, the files from all procedures
  have hsection (path : String) : (fileSection cwd root functions types path).procedureCount =
      ((functions.filter (·.isProcedure)).filter fun f => f.filePath = path).length := by
    rw [fileSection, procedureCount_sectionOf, procedureCount, List.filter_comm]
  rw [List.map_map, procedureCount, ← sum_length_filter hnodup hpath]
  congr 1
  exact List.map_congr_left fun path _ => hsection path

/-- Procedures are kept, whatever else is. -/
theorem procedureCount_filter (exportedOnly : Bool) (functions : List FunctionSignature) :
    procedureCount (functions.filter (keepsFunction exportedOnly)) = procedureCount functions := by
  rw [procedureCount, procedureCount, List.filter_filter]
  congr 1
  refine List.filter_congr fun f _ => ?_
  cases hprocedure : f.isProcedure <;> simp [keepsFunction, hprocedure]

/-- There are no sections where a record has no path. -/
theorem ne_empty_of_sections {paths texts : List String}
    (h : sections cwd root functions types paths = .ok texts) : ∀ path ∈ paths, path ≠ "" := by
  induction paths generalizing texts with
  | nil => exact fun _ hpath => nomatch hpath
  | cons path rest ih =>
    unfold sections Path.relative? at h
    by_cases hempty : path = ""
    · rw [if_pos hempty] at h
      cases h
    · rw [if_neg hempty] at h
      cases hrest : sections cwd root functions types rest with
      | error fault =>
        rw [hrest] at h
        cases h
      | ok texts => exact List.forall_mem_cons.mpr ⟨hempty, ih hrest⟩

theorem bodyText_eq_ok {text : String} (h : bodyText cwd root functions types = .ok text) :
    (∀ path ∈ filePaths functions types, path ≠ "") ∧
      text = trim (title ++ "\n\n" ++ join "" (((filePaths functions types).map
        (fileSection cwd root functions types)).map Section.text)) ++ "\n" := by
  unfold bodyText at h
  cases hsections : sections cwd root functions types (filePaths functions types) with
  | error fault =>
    rw [hsections] at h
    cases h
  | ok texts =>
    have hpaths := ne_empty_of_sections hsections
    -- so every path has a heading, and the texts are those of its section
    rw [sections_of_relative? fun path hpath => relative?_eq_fileHeading (hpaths path hpath)] at h
    refine ⟨hpaths, ?_⟩
    rw [List.map_map, ← Except.ok.inj h]
    simp only [sectionText_eq_text]
    rfl

/-- **A document** is written from the sections of the kept records. -/
theorem isWritten_document {markdown : String}
    (h : document cwd root exportedOnly functions types = .ok markdown) :
    let functions' := functions.filter (keepsFunction exportedOnly)
    let types' := types.filter (keepsType exportedOnly)
    (∀ path ∈ filePaths functions' types', path ≠ "") ∧
      IsWritten markdown
        ((filePaths functions' types').map (fileSection cwd root functions' types')) := by
  intro functions' types'
  by_cases hkept : functions' ≠ [] ∨ types' ≠ []
  · rw [document_of_kept root hkept] at h
    obtain ⟨hpaths, htext⟩ := bodyText_eq_ok h
    refine ⟨hpaths, ?_⟩
    rw [htext]
    exact .sections (by simpa using filePaths_ne_nil hkept)
  · -- nothing is kept: one of the two notes, and no path
    obtain ⟨hfunctions, htypes⟩ : functions' = [] ∧ types' = [] := by
      simpa only [not_or, not_not] using hkept
    have hpaths : filePaths functions' types' = [] := by
      rw [hfunctions, htypes]
      exact List.mergeSort_nil
    have hempty : (functions'.isEmpty && types'.isEmpty) = true := by
      rw [hfunctions, htypes]
      rfl
    unfold document at h
    dsimp only at h
    rw [hpaths]
    refine ⟨nofun, ?_⟩
    by_cases hall : (functions.isEmpty && types.isEmpty) = true
    · rw [if_pos hall] at h
      cases h
      exact .nothingFound
    · rw [if_neg hall, if_pos hempty] at h
      cases h
      exact .nothingExported

/-- What the document of records and its sections have to do with each other. -/
structure HasSections (cwd : Place) (root : String) (exportedOnly : Bool)
    (functions : List FunctionSignature) (types : List TypeSignature) (markdown : String)
    (sections : List Section) : Prop where
  document : document cwd root exportedOnly functions types = .ok markdown
  written : IsWritten markdown sections
  /-- There is one section for each path of a kept record, in the order of the paths, with what there is
      to say about it. -/
  lists : List.Forall₂
    (Lists cwd root (functions.filter (keepsFunction exportedOnly))
      (types.filter (keepsType exportedOnly)))
    (filePaths (functions.filter (keepsFunction exportedOnly)) (types.filter (keepsType exportedOnly)))
    sections
  /-- All procedures are in the sections, exported or not. -/
  procedures : (sections.map Section.procedureCount).sum = procedureCount functions
  /-- If everything is shown, there is a section for each file that the summary counts. -/
  files : exportedOnly = false → sections.length = fileCount functions types
  /-- If all kept records can be listed, the sections are what a reader finds in the text. -/
  readable : (∀ f ∈ functions.filter (keepsFunction exportedOnly), IsListable cwd f) →
    (∀ t ∈ types.filter (keepsType exportedOnly), IsListableType cwd t) →
    (functions.filter (keepsFunction exportedOnly) ≠ [] ∨ types.filter (keepsType exportedOnly) ≠ []) →
    read? markdown = some sections

theorem exists_sections {markdown : String}
    (h : document cwd root exportedOnly functions types = .ok markdown) :
    ∃ sections, HasSections cwd root exportedOnly functions types markdown sections := by
  obtain ⟨hpaths, hwritten⟩ := isWritten_document h
  refine ⟨_, h, hwritten, lists_fileSections hpaths, ?_, ?_, ?_⟩
  · rw [sum_procedureCount, procedureCount_filter]
  · rintro rfl
    have hfunctions : functions.filter (keepsFunction false) = functions :=
      List.filter_eq_self.mpr fun _ _ => rfl
    have htypes : types.filter (keepsType false) = types := List.filter_eq_self.mpr fun _ _ => rfl
    rw [List.length_map, hfunctions, htypes]
    exact List.length_mergeSort _
  · intro hfunctions htypes hkept
    obtain ⟨text, htext, hlines⟩ := bodyText_lines root hfunctions htypes hkept
    rw [document_of_kept root hkept, htext] at h
    rw [← Except.ok.inj h]
    exact read?_of_lines hfunctions htypes hlines

end Document

end Report

/-! ## §4 The files -/

/-- **The files with records** and the files that were skipped are not more than all files. -/
theorem Analysis.fileCount_add_failed_le (w : World) (c : Config) (root : String)
    (files : List String) :
    Report.fileCount (ofFiles w c root files).functions (ofFiles w c root files).types +
      (ofFiles w c root files).failedFiles.length ≤ files.length := by
  obtain ⟨hfunctions, htypes⟩ := filePath_ofFiles w c root files
  generalize (ofFiles w c root files).functions = functions at hfunctions
  generalize (ofFiles w c root files).types = types at htypes
  have hfailed : (ofFiles w c root files).failedFiles = files.filter (w.fails c) := rfl
  -- the path of a record is that of a file that does not fail
  have hpaths : (functions.map (·.filePath) ++ types.map (·.filePath)).toFinset ⊆
      ((files.filter fun f => !w.fails c f).map Path.normalText).toFinset := by
    intro path hpath
    rw [List.mem_toFinset] at hpath ⊢
    have hfile : ∃ f ∈ files, w.fails c f = false ∧ path = Path.normalText f := by
      rcases List.mem_append.mp hpath with hpath | hpath
      · obtain ⟨f, hf, rfl⟩ := List.mem_map.mp hpath
        exact hfunctions f hf
      · obtain ⟨t, ht, rfl⟩ := List.mem_map.mp hpath
        exact htypes t ht
    obtain ⟨f, hf, houtline, rfl⟩ := hfile
    exact List.mem_map_of_mem (List.mem_filter.mpr ⟨hf, by rw [houtline]; rfl⟩)
  have hcount : Report.fileCount functions types ≤ (files.filter fun f => !w.fails c f).length := by
    rw [Report.fileCount, length_firstSeen]
    refine (Finset.card_le_card hpaths).trans ((List.toFinset_card_le _).trans ?_)
    rw [List.length_map]
  calc Report.fileCount functions types + (ofFiles w c root files).failedFiles.length
      ≤ (files.filter fun f => !w.fails c f).length + (files.filter (w.fails c)).length := by
        rw [hfailed]
        exact Nat.add_le_add_right hcount _
    _ = files.length := by
        rw [Nat.add_comm]
        exact (List.length_eq_length_filter_add _).symm

/-! ## §5 The report of a project -/

namespace Service

/-- **The counts of a report** agree with each other, with the text and with the analysis. -/
structure Document.Agrees (w : World) (c : Config) (r : Analysis) (d : Document) : Prop where
  /-- The summary has the counts, and with them that of the files with records. -/
  summary : Report.readSummary? d.text = some ⟨d.filesScanned, d.functionCount, d.procedureCount,
    d.typeCount, Report.fileCount r.functions r.types⟩
  filesScanned : d.filesScanned = r.files.length
  /-- Every record of a callable is counted once. -/
  functions : d.functionCount + d.procedureCount = r.functions.length
  procedures : d.procedureCount = r.procedureCount
  types : d.typeCount = r.types.length
  /-- Files with records are counted by their paths. -/
  files : Report.fileCount r.functions r.types =
    (r.functions.map (·.filePath) ++ r.types.map (·.filePath)).toFinset.card
  /-- Skipped files have no records. -/
  skipped : Report.fileCount r.functions r.types + r.failedFiles.length ≤ d.filesScanned
  /-- Behind the summary is a document with these files and procedures. -/
  sections : ∃ markdown sections,
    d.text = Report.summarize markdown r.files.length r.functions r.types c.exportedOnly c.blacklist ∧
      Report.HasSections w.fs.cwd r.root c.exportedOnly r.functions r.types markdown sections

/-- **Counts agree everywhere.** Where the analysis of the configured workspace finds files, its report
    is a document whose counts are the numbers in the summary of its text. Functions and procedures
    together are the records of callables; the summary counts the files that a record comes from, and
    these and the skipped files are not more than were scanned. The document behind the summary lists
    every procedure, and has a section for each counted file if it shows everything. -/
theorem counts_agree (w : World) (c : Config) (p : Analyzer.Progress)
    (hp : (Analyzer.ofConfig c true).analyze w none = .ok p) (hfiles : p.analysis.files ≠ []) :
    (documentOf w c).1.Agrees w c p.analysis := by
  obtain ⟨root, files, -, -, hsettings, hanalysis, -⟩ :=
    Analyzer.exists_ofFiles_of_analyze (c := c) rfl hp
  obtain ⟨text, htext⟩ := Analyzer.exists_render_of_analyze (c := c) rfl hp
  have hdocument : (documentOf w c).1 = ⟨text, p.analysis.files.length,
      p.analysis.functions.length - p.analysis.procedureCount, p.analysis.procedureCount,
      p.analysis.types.length⟩ := by
    unfold documentOf
    rw [hp]
    dsimp only
    rw [if_neg (by simpa using hfiles), htext]
  have hskipped : Report.fileCount p.analysis.functions p.analysis.types +
      p.analysis.failedFiles.length ≤ p.analysis.files.length := by
    rw [hanalysis]
    exact Analysis.fileCount_add_failed_le w c root files
  -- the text is a summary of the document
  rw [hsettings, Analyzer.render, Settings.showsExportedOnly_ofConfig] at htext
  cases hmarkdown : Report.document w.fs.cwd p.analysis.root c.exportedOnly p.analysis.functions
      p.analysis.types with
  | error fault =>
    rw [hmarkdown] at htext
    cases htext
  | ok markdown =>
    rw [hmarkdown] at htext
    dsimp only at htext
    rw [Settings.patterns?_ofConfig] at htext
    obtain ⟨sections, hsections⟩ := Report.exists_sections hmarkdown
    rw [hdocument]
    exact {
      summary := Except.ok.inj htext ▸ Report.readSummary?_summarize ..
      filesScanned := rfl
      functions := Nat.sub_add_cancel (List.length_filter_le _ _)
      procedures := rfl
      types := rfl
      files := length_firstSeen _
      skipped := hskipped
      sections := ⟨markdown, sections, (Except.ok.inj htext).symm, hsections⟩ }

/-- The configuration of the project with one readable file of two. -/
def halfReadableConfig : Config :=
  Config.default.withWorkspace "/p"

/-- Two files are scanned, one of them has a record, and the other was skipped. -/
theorem halfReadable_counts :
    ∃ p, (Analyzer.ofConfig halfReadableConfig true).analyze halfReadable none = .ok p ∧
      p.analysis.files ≠ [] ∧ p.analysis.failedFiles = ["/p/b.ts"] ∧
      (documentOf halfReadable halfReadableConfig).1.Agrees halfReadable halfReadableConfig
        p.analysis ∧
      Report.readSummary? (documentOf halfReadable halfReadableConfig).1.text =
        some ⟨2, 1, 0, 0, 1⟩ := by
  obtain ⟨spec, hspec, hkept⟩ := halfReadable_files
  have hplace : FileSystem.resolve halfReadable.fs.cwd "/p" = .ok ["p"] := by
    decide +kernel
  have hfolder : Discovery.folderOf halfReadable.fs "/p" = .ok (["p"], halfReadableFolder) :=
    Discovery.folderOf_eq_ok_iff.mpr ⟨hplace, by rfl, rfl⟩
  have hdiscover : Discovery.discover halfReadable.fs "/p" halfReadableConfig.blacklist =
      .ok ["/p/a.ts", "/p/b.ts"] := by
    rw [Discovery.discover_of_folderOf hfolder, Discovery.discoverAt]
    rw [show halfReadableConfig.blacklist = [] from rfl, hspec]
    dsimp only
    rw [hkept]
    exact congrArg Except.ok (List.mergeSort_of_pairwise (by decide))
  have hroot : Analyzer.rootOf halfReadable.fs.cwd (.ofConfig halfReadableConfig) none = .ok "/p" := by
    have htext : Path.placeText ["p"] = "/p" := by decide +kernel
    rw [halfReadableConfig, rootOf_withWorkspace (by decide) hplace, htext]
  obtain ⟨p, hp, -, hanalysis⟩ := Analyzer.analyze_of_discover_ok
    (a := .ofConfig halfReadableConfig true) rfl none hroot hdiscover
  have hfiles : p.analysis.files = ["/p/a.ts", "/p/b.ts"] := by
    rw [hanalysis]
    rfl
  have hagrees := counts_agree halfReadable halfReadableConfig p hp (by rw [hfiles]; decide)
  refine ⟨p, hp, by rw [hfiles]; decide, ?_, hagrees, ?_⟩
  · rw [hanalysis]
    decide +kernel
  · have hprocedures : p.analysis.procedureCount = 0 := by
      rw [hanalysis]
      decide +kernel
    have hfunctions : p.analysis.functions.length = 1 := by
      rw [hanalysis]
      decide +kernel
    have htypes : p.analysis.types.length = 0 := by
      rw [hanalysis]
      decide +kernel
    have hcount : Report.fileCount p.analysis.functions p.analysis.types = 1 := by
      rw [hanalysis]
      decide +kernel
    have hplain : (documentOf halfReadable halfReadableConfig).1.functionCount = 1 := by
      have hboth := hagrees.functions
      rwa [hagrees.procedures, hprocedures, hfunctions, Nat.add_zero] at hboth
    rw [hagrees.summary, hagrees.filesScanned, hagrees.procedures, hagrees.types, hprocedures, htypes,
      hcount, hfiles, hplain]
    rfl

end Service

end TsOutline
