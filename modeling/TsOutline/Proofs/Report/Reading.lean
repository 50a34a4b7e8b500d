import TsOutline.Proofs.Report.Lines

/-!
# Reading a Report

A reader that knows nothing but the text of a document: it goes through the lines from top to bottom,
tells headings, procedures and other entries apart, and refuses a line that stands in the wrong place.

- **One line** (`State.step`): what the reader does with it, and what it refuses.
- **One section** (`run_sectionLines`): the lines of a section are read back as the section.
- **The document** (`Recovers`): reading it gives every kept record once, under its file and
  in its place, and nothing else.
-/

namespace TsOutline.Report

open Text (OneLine startsWith pieces trim)

/-! ## §1 A reader -/

/-- What a section says about a file. -/
structure Section where
  heading : String
  routers : List (String × List String)
  functions : List String
  types : List String
  deriving Repr, DecidableEq

/-- A line by its looks. -/
inductive Line where
  | blank
  | file (heading : String)
  | router (name : String)
  | functions
  | types
  | procedure (text : String)
  | entry (text : String)
  | unknown
  deriving Repr, DecidableEq

/-- What follows a mark at the start of a line. -/
def after? (mark line : String) : Option String :=
  if startsWith line mark then some (String.ofList (line.toList.drop mark.toList.length)) else none

/-- Tells lines apart; headings of other forms are unknown. -/
def Line.ofText (s : String) : Line :=
  if s = "" then .blank
  else if s = "### Other Functions" then .functions
  else if s = "### Types" then .types
  else
    -- the marks exclude each other, so their order does not matter
    match after? "## " s, after? "### Router: " s, after? "- " s with
    | some heading, _, _ => .file heading
    | _, some name, _ => .router name
    | _, _, some text => .procedure text
    | none, none, none => if startsWith s "#" then .unknown else .entry s

/-- The parts of a section, in their order. -/
inductive Part where
  | routers
  | functions
  | types
  deriving Repr, DecidableEq

/-- The sections read so far, the last one first, and the part of it that is being read. -/
structure State where
  sections : List Section
  part : Part
  deriving Repr, DecidableEq

/-- Adds a procedure to the last router; there has to be one. -/
def addToLast? (text : String) : List (String × List String) → Option (List (String × List String))
  | [] => none
  | [(name, texts)] => some [(name, texts ++ [text])]
  | router :: next :: rest => (addToLast? text (next :: rest)).map (router :: ·)

/-- Reads a line of a section. Routers come first, then the other functions (under a heading if there
    are routers, and only then), then the types. -/
def readIn (s : Section) : Part → Line → Option (Section × Part)
  | .routers, .router name => some ({ s with routers := s.routers ++ [(name, [])] }, .routers)
  | .routers, .procedure text =>
    (addToLast? text s.routers).map fun routers => ({ s with routers }, .routers)
  | .routers, .functions => if s.routers.isEmpty then none else some (s, .functions)
  -- without routers there is no heading: the first entry is the first function
  | .routers, .entry text =>
    if s.routers.isEmpty then some ({ s with functions := [text] }, .functions) else none
  | .functions, .entry text => some ({ s with functions := s.functions ++ [text] }, .functions)
  | .routers, .types => some (s, .types)
  | .functions, .types => some (s, .types)
  | .types, .entry text => some ({ s with types := s.types ++ [text] }, .types)
  | _, _ => none

/-- Reads one line: blank lines say nothing, and the heading of a file starts a section. -/
def State.step (st : State) (text : String) : Option State :=
  match Line.ofText text, st.sections with
  | .blank, _ => some st
  | .file heading, sections => some ⟨⟨heading, [], [], []⟩ :: sections, .routers⟩
  | _, [] => none
  | line, s :: older => (readIn s st.part line).map fun (s', part) => ⟨s' :: older, part⟩

/-- Reads lines one after the other. -/
def State.run (st : State) (lines : List String) : Option State :=
  lines.foldlM State.step st

/-- The sections of a document, read from its text. -/
def read? (text : String) : Option (List Section) :=
  match pieces '\n' text with
  | first :: lines =>
    if first = title then (State.run ⟨[], .routers⟩ lines).map (·.sections.reverse) else none
  | [] => none

/-! ## §2 Telling lines apart -/

theorem startsWith_iff {s start : String} :
    startsWith s start = true ↔ start.toList <+: s.toList :=
  List.isPrefixOf_iff_prefix

theorem after?_append (mark s : String) : after? mark (mark ++ s) = some s := by
  have hstart : startsWith (mark ++ s) mark = true := by
    rw [startsWith_iff, String.toList_append]
    exact List.prefix_append ..
  rw [after?, if_pos hstart, String.toList_append, List.drop_left, String.ofList_toList]

/-- Behind a longer mark there is nothing if there is nothing behind a shorter one. -/
theorem after?_eq_none {s short : String} (h : startsWith s short = false) (mark : String)
    (hmark : short.toList <+: mark.toList) : after? mark s = none := by
  refine if_neg fun hstart => ?_
  rw [startsWith_iff.mpr (hmark.trans (startsWith_iff.mp hstart))] at h
  cases h

@[simp] theorem ofText_file (heading : String) : Line.ofText ("## " ++ heading) = .file heading := by
  rw [Line.ofText, after?_append, if_neg, if_neg, if_neg]
  all_goals simp [← String.toList_inj]

@[simp] theorem ofText_router (name : String) :
    Line.ofText ("### Router: " ++ name) = .router name := by
  have hfile : after? "## " ("### Router: " ++ name) = none := by
    simp [after?, startsWith]
  rw [Line.ofText, after?_append, hfile, if_neg, if_neg, if_neg]
  all_goals simp [← String.toList_inj]

@[simp] theorem ofText_procedure (text : String) :
    Line.ofText ("- " ++ text) = .procedure text := by
  have hfile : after? "## " ("- " ++ text) = none := by
    simp [after?, startsWith]
  have hrouter : after? "### Router: " ("- " ++ text) = none := by
    simp [after?, startsWith]
  rw [Line.ofText, after?_append, hfile, hrouter, if_neg, if_neg, if_neg]
  all_goals simp [← String.toList_inj]

theorem IsEntry.ofText {s : String} (h : IsEntry s) : Line.ofText s = .entry s := by
  have hne (mark : String) (hmark : startsWith mark "#" = true) : s ≠ mark := by
    rintro rfl
    exact Bool.noConfusion (h.noHeading.symm.trans hmark)
  have hfile : after? "## " s = none := after?_eq_none h.noHeading _ (by decide)
  have hrouter : after? "### Router: " s = none := after?_eq_none h.noHeading _ (by decide)
  have hitem : after? "- " s = none := after?_eq_none h.noItem _ (List.prefix_refl _)
  rw [Line.ofText, if_neg h.nonempty, if_neg (hne _ rfl), if_neg (hne _ rfl), hfile, hrouter, hitem]
  exact if_neg (by simp [h.noHeading])

/-! ## §3 Steps and runs -/

namespace State

variable {st : State} {s s' : Section} {older : List Section} {part part' : Part}

theorem step_blank (st : State) : st.step "" = some st :=
  rfl

theorem step_file (st : State) (heading : String) :
    st.step ("## " ++ heading) = some ⟨⟨heading, [], [], []⟩ :: st.sections, .routers⟩ := by
  rw [step, ofText_file]

/-- **One line of a section**: what the section makes of it is what the reader makes of it. -/
theorem step_of_readIn {text : String} (h : readIn s part (Line.ofText text) = some (s', part')) :
    step ⟨s :: older, part⟩ text = some ⟨s' :: older, part'⟩ := by
  unfold step
  cases hline : Line.ofText text with
  -- a section makes nothing of blank lines and headings of files
  | blank => rw [hline] at h; cases part <;> cases h
  | file heading => rw [hline] at h; cases part <;> cases h
  | _ =>
    rw [hline] at h
    simp [h]

theorem run_cons (st : State) (line : String) (lines : List String) :
    st.run (line :: lines) = (st.step line).bind fun next => next.run lines :=
  rfl

theorem run_append (st : State) (lines more : List String) :
    st.run (lines ++ more) = (st.run lines).bind fun next => next.run more := by
  rw [run, List.foldlM_append]
  rfl

theorem run_blank (st : State) : st.run [""] = some st :=
  rfl

/-- **A list of entries**: if each line adds its text to a part of the section, all lines add all
    texts, in their order. -/
theorem run_map {α : Type} {xs : List α} (line text : α → String) (put : List String → Section)
    (hstep : ∀ acc, ∀ x ∈ xs,
      step ⟨put acc :: older, part⟩ (line x) = some ⟨put (acc ++ [text x]) :: older, part⟩)
    (acc : List String) :
    run ⟨put acc :: older, part⟩ (xs.map line) = some ⟨put (acc ++ xs.map text) :: older, part⟩ := by
  induction xs generalizing acc with
  | nil => simp [run]
  | cons x xs ih =>
    rw [List.map_cons, run_cons, hstep acc x (List.mem_cons_self ..), Option.bind_some,
      ih fun acc y hy => hstep acc y (List.mem_cons_of_mem _ hy)]
    simp

end State

/-! ## §4 Sections -/

theorem addToLast?_concat (text name : String) (texts : List String)
    (routers : List (String × List String)) :
    addToLast? text (routers ++ [(name, texts)]) = some (routers ++ [(name, texts ++ [text])]) := by
  induction routers with
  | nil => rfl
  | cons router rest ih =>
    cases rest with
    | nil => rfl
    | cons next rest =>
      show (addToLast? text (next :: rest ++ [(name, texts)])).map _ = _
      rw [ih]
      rfl

section Sections

variable {s : Section} (older : List Section) {functions : List FunctionSignature}
  {types : List TypeSignature}

/-- A router with the texts of its procedures. -/
def routerEntry (group : String × List FunctionSignature) : String × List String :=
  (group.1, group.2.map (·.fullSignature))

theorem run_routerLines (group : String × List FunctionSignature) :
    State.run ⟨s :: older, .routers⟩ (routerLines group) =
      some ⟨{ s with routers := s.routers ++ [routerEntry group] } :: older, .routers⟩ := by
  have hheading : State.step ⟨s :: older, .routers⟩ ("### Router: " ++ group.1) =
      some ⟨{ s with routers := s.routers ++ [(group.1, [])] } :: older, .routers⟩ := by
    apply State.step_of_readIn
    rw [ofText_router]
    rfl
  have hprocedure (texts : List String) (f : FunctionSignature) (_ : f ∈ group.2) :
      State.step ⟨{ s with routers := s.routers ++ [(group.1, texts)] } :: older, .routers⟩
          ("- " ++ f.fullSignature) =
        some ⟨{ s with routers := s.routers ++ [(group.1, texts ++ [f.fullSignature])] } :: older,
          .routers⟩ := by
    apply State.step_of_readIn
    rw [ofText_procedure, readIn, addToLast?_concat]
    rfl
  -- the heading, the procedures, the empty line
  rw [routerLines, List.cons_append, State.run_cons, hheading, Option.bind_some, State.run_append,
    State.run_map _ (·.fullSignature) (fun texts =>
      { s with routers := s.routers ++ [(group.1, texts)] }) hprocedure []]
  rfl

/-- The routers of a section, one after the other. -/
theorem run_routers (groups : List (String × List FunctionSignature)) :
    State.run ⟨s :: older, .routers⟩ (groups.flatMap routerLines) =
      some ⟨{ s with routers := s.routers ++ groups.map routerEntry } :: older, .routers⟩ := by
  induction groups generalizing s with
  | nil => simp [State.run]
  | cons group rest ih =>
    rw [List.flatMap_cons, State.run_append, run_routerLines, Option.bind_some, ih]
    simp

theorem run_entries (h : ∀ f ∈ functions, IsEntry f.fullSignature) (texts : List String) :
    State.run ⟨{ s with functions := texts } :: older, .functions⟩ (functions.map (·.fullSignature)) =
      some ⟨{ s with functions := texts ++ functions.map (·.fullSignature) } :: older,
        .functions⟩ := by
  refine State.run_map FunctionSignature.fullSignature FunctionSignature.fullSignature
    (fun texts => { s with functions := texts }) (fun acc f hf => State.step_of_readIn ?_) texts
  rw [(h f hf).ofText]
  rfl

/-- The other functions of a section: the first one, or the heading if there are routers, ends the
    part of the routers. -/
theorem run_functionsLines (hs : s.functions = []) (h : ∀ f ∈ functions, IsEntry f.fullSignature) :
    ∃ part, part ≠ .types ∧
      State.run ⟨s :: older, .routers⟩ (functionsLines (!s.routers.isEmpty) functions) =
        some ⟨{ s with functions := functions.map (·.fullSignature) } :: older, part⟩ := by
  cases functions with
  | nil =>
    refine ⟨.routers, by decide, ?_⟩
    rw [List.map_nil, ← hs]
    rfl
  | cons f fs =>
    refine ⟨.functions, by decide, ?_⟩
    have hrest : ∀ g ∈ fs, IsEntry g.fullSignature := fun g hg => h g (List.mem_cons_of_mem _ hg)
    cases hrouters : s.routers.isEmpty with
    | true =>
      -- no heading: the first function is read while routers may still come
      have hfirst : State.step ⟨s :: older, .routers⟩ f.fullSignature =
          some ⟨{ s with functions := [f.fullSignature] } :: older, .functions⟩ := by
        apply State.step_of_readIn
        rw [(h f (List.mem_cons_self ..)).ofText, readIn, if_pos hrouters]
      show State.run _ (f.fullSignature :: (fs.map (·.fullSignature) ++ [""])) = _
      rw [State.run_cons, hfirst, Option.bind_some, State.run_append, run_entries older hrest]
      rfl
    | false =>
      have hheading : State.step ⟨s :: older, .routers⟩ "### Other Functions" =
          some ⟨s :: older, .functions⟩ := by
        apply State.step_of_readIn
        show readIn s .routers .functions = _
        rw [readIn, if_neg (by simp [hrouters])]
      -- the heading adds nothing to the section, and then all functions are read alike
      have hself : { s with functions := [] } = s := by rw [← hs]
      show State.run _ ("### Other Functions" :: ((f :: fs).map (·.fullSignature) ++ [""])) = _
      rw [State.run_cons, hheading, Option.bind_some, State.run_append, ← hself, run_entries older h]
      rfl

/-- The types of a section, under their heading. -/
theorem run_typesLines {part : Part} (hpart : part ≠ .types) (hs : s.types = [])
    (h : ∀ t ∈ types, IsEntry t.fullSignature) :
    ∃ part', State.run ⟨s :: older, part⟩ (typesLines types) =
      some ⟨{ s with types := types.map (·.fullSignature) } :: older, part'⟩ := by
  have hself : { s with types := [] } = s := by rw [← hs]
  by_cases hnil : types = []
  · refine ⟨part, ?_⟩
    rw [hnil, List.map_nil, hself]
    rfl
  · refine ⟨.types, ?_⟩
    have hheading : State.step ⟨s :: older, part⟩ "### Types" = some ⟨s :: older, .types⟩ := by
      apply State.step_of_readIn
      show readIn s part .types = _
      cases part with
      | routers => rfl
      | functions => rfl
      | types => exact absurd rfl hpart
    have hentry (texts : List String) (t : TypeSignature) (ht : t ∈ types) :
        State.step ⟨{ s with types := texts } :: older, .types⟩ t.fullSignature =
          some ⟨{ s with types := texts ++ [t.fullSignature] } :: older, .types⟩ := by
      apply State.step_of_readIn
      rw [(h t ht).ofText]
      rfl
    rw [typesLines, if_neg (by simpa using hnil), List.cons_append, State.run_cons, hheading,
      Option.bind_some, State.run_append, ← hself,
      State.run_map _ TypeSignature.fullSignature (fun texts => { s with types := texts }) hentry []]
    rfl

/-- What the section of a file says about its records. -/
def sectionOf (heading : String) (functions : List FunctionSignature) (types : List TypeSignature) :
    Section where
  heading
  routers := (groupBy routerOf (functions.filter (·.isProcedure))).map routerEntry
  functions := (functions.filter fun f => !f.isProcedure).map (·.fullSignature)
  types := types.map (·.fullSignature)

/-- **One section**: its lines are read as what it says, after whatever was read before. -/
theorem run_sectionLines (st : State) (heading : String)
    (hfunctions : ∀ f ∈ functions, IsEntry f.fullSignature)
    (htypes : ∀ t ∈ types, IsEntry t.fullSignature) :
    ∃ part, st.run (sectionLines heading functions types) =
      some ⟨sectionOf heading functions types :: st.sections, part⟩ := by
  have hheading : st.run ["## " ++ heading, ""] =
      some ⟨⟨heading, [], [], []⟩ :: st.sections, .routers⟩ := by
    rw [State.run_cons, State.step_file, Option.bind_some, State.run_blank]
  have hplain : ∀ f ∈ functions.filter (fun f => !f.isProcedure), IsEntry f.fullSignature :=
    fun f hf => hfunctions f (List.mem_filter.mp hf).1
  -- how the procedures were grouped does not matter to the reader
  unfold sectionLines sectionOf
  generalize groupBy routerOf (functions.filter (·.isProcedure)) = groups
  generalize functions.filter (fun f => !f.isProcedure) = plain at hplain
  obtain ⟨part, hpart, hfunctions⟩ := run_functionsLines st.sections
    (s := ⟨heading, groups.map routerEntry, [], []⟩) rfl hplain
  obtain ⟨part', htypes⟩ := run_typesLines st.sections
    (s := ⟨heading, groups.map routerEntry, plain.map (·.fullSignature), []⟩) hpart rfl htypes
  refine ⟨part', ?_⟩
  dsimp only at hfunctions ⊢
  rw [List.isEmpty_map] at hfunctions
  rw [State.run_append, State.run_append, State.run_append, hheading, Option.bind_some,
    run_routers, Option.bind_some, List.nil_append, hfunctions, Option.bind_some, htypes]

end Sections

/-! ## §5 The document -/

section Document

variable {cwd : Place} {root : String} {functions : List FunctionSignature}
  {types : List TypeSignature}

/-- What the section of a path says. -/
def fileSection (cwd : Place) (root : String) (functions : List FunctionSignature)
    (types : List TypeSignature) (path : String) : Section :=
  sectionOf (fileHeading cwd root path) (functions.filter fun f => f.filePath = path)
    (types.filter fun t => t.filePath = path)

/-- **All sections**, one after the other. -/
theorem run_files (cwd : Place) (root : String)
    (hfunctions : ∀ f ∈ functions, IsEntry f.fullSignature)
    (htypes : ∀ t ∈ types, IsEntry t.fullSignature) (st : State) (paths : List String) :
    ∃ part, st.run (paths.flatMap (fileLines cwd root functions types)) =
      some ⟨(paths.map (fileSection cwd root functions types)).reverse ++ st.sections, part⟩ := by
  induction paths generalizing st with
  | nil => exact ⟨st.part, rfl⟩
  | cons path rest ih =>
    obtain ⟨part, hsection⟩ := run_sectionLines st (fileHeading cwd root path)
      (fun f hf => hfunctions f (List.mem_filter.mp hf).1)
      (fun t ht => htypes t (List.mem_filter.mp ht).1)
    obtain ⟨part', hrest⟩ := ih ⟨fileSection cwd root functions types path :: st.sections, part⟩
    refine ⟨part', ?_⟩
    rw [List.flatMap_cons, State.run_append, fileLines, hsection, Option.bind_some]
    -- the next files are read after this one, whatever part it ended in
    show State.run ⟨fileSection cwd root functions types path :: st.sections, part⟩ _ = _
    rw [hrest, List.map_cons, List.reverse_cons, List.append_assoc]
    rfl

/-- A section says what there is to say about the records of a path: it has one router for each one
    that a procedure of the file belongs to, with all these procedures, and after the routers the other
    functions and the types of the file. All are in the order of the records. -/
structure Lists (cwd : Place) (root : String) (functions : List FunctionSignature)
    (types : List TypeSignature) (path : String) (s : Section) : Prop where
  heading : Path.relative? cwd path root = some s.heading
  routers_nodup : (s.routers.map Prod.fst).Nodup
  mem_routers : ∀ name, name ∈ s.routers.map Prod.fst ↔
    ∃ f ∈ functions, f.filePath = path ∧ f.isProcedure = true ∧ routerOf f = name
  procedures : ∀ router ∈ s.routers, router.2 =
    (functions.filter fun f => f.filePath = path ∧ f.isProcedure = true ∧ routerOf f = router.1).map
      (·.fullSignature)
  functions : s.functions =
    (functions.filter fun f => f.filePath = path ∧ f.isProcedure = false).map (·.fullSignature)
  types : s.types = (types.filter fun t => t.filePath = path).map (·.fullSignature)

theorem map_fst_routerEntry (groups : List (String × List FunctionSignature)) :
    (groups.map routerEntry).map Prod.fst = groups.map Prod.fst := by
  rw [List.map_map]
  rfl

theorem lists_fileSection (functions : List FunctionSignature) (types : List TypeSignature)
    {path : String} (hpath : path ≠ "") :
    Lists cwd root functions types path (fileSection cwd root functions types path) := by
  have hnames : (fileSection cwd root functions types path).routers.map Prod.fst =
      firstSeen (((functions.filter fun f => f.filePath = path).filter (·.isProcedure)).map routerOf) :=
    (map_fst_routerEntry _).trans (map_fst_groupBy ..)
  refine ⟨relative?_eq_fileHeading hpath, ?_, ?_, ?_, ?_, rfl⟩
  · rw [hnames]
    exact nodup_firstSeen _
  · intro name
    rw [hnames, mem_firstSeen]
    simp only [List.mem_map, List.mem_filter, decide_eq_true_eq, and_assoc]
  · intro router hrouter
    obtain ⟨group, hgroup, rfl⟩ := List.mem_map.mp hrouter
    -- the group of a router was made in two steps, by file and then by router
    show group.2.map _ = _
    rw [(mem_groupBy.mp hgroup).2, List.filter_filter, List.filter_filter]
    congr 1
    refine List.filter_congr fun f _ => Bool.eq_iff_iff.mpr ?_
    simp only [Bool.and_eq_true, decide_eq_true_eq]
    exact ⟨fun ⟨⟨hrouter, hprocedure⟩, hfile⟩ => ⟨hfile, hprocedure, hrouter⟩,
      fun ⟨hfile, hprocedure, hrouter⟩ => ⟨⟨hrouter, hprocedure⟩, hfile⟩⟩
  · show ((functions.filter _).filter _).map _ = _
    rw [List.filter_filter]
    congr 1
    refine List.filter_congr fun f _ => Bool.eq_iff_iff.mpr ?_
    simp only [Bool.and_eq_true, Bool.not_eq_true', decide_eq_true_eq, and_comm]

/-- Reading a document gives the records: one section for each path that a record has, in increasing
    order of the paths, each with what there is to say about its path. -/
def Recovers (cwd : Place) (root : String) (functions : List FunctionSignature)
    (types : List TypeSignature) (text : String) : Prop :=
  ∃ paths sections, read? text = some sections ∧
    paths.Pairwise (· < ·) ∧
    (∀ path, path ∈ paths ↔
      (∃ f ∈ functions, f.filePath = path) ∨ ∃ t ∈ types, t.filePath = path) ∧
    List.Forall₂ (Lists cwd root functions types) paths sections

/-- **The document** is read as the sections of its files. -/
theorem read?_of_lines {text : String} (hfunctions : ∀ f ∈ functions, IsListable cwd f)
    (htypes : ∀ t ∈ types, IsListableType cwd t)
    (htext : pieces '\n' text =
      title :: "" :: (filePaths functions types).flatMap (fileLines cwd root functions types)) :
    read? text = some ((filePaths functions types).map (fileSection cwd root functions types)) := by
  obtain ⟨part, hrun⟩ := run_files cwd root (fun f hf => (hfunctions f hf).entry)
    (fun t ht => (htypes t ht).entry) ⟨[], .routers⟩ (filePaths functions types)
  rw [read?, htext]
  dsimp only
  rw [if_pos rfl, State.run_cons, State.step_blank, Option.bind_some, hrun]
  simp

/-- The sections of files list what there is to say about them. -/
theorem lists_fileSections {paths : List String} (h : ∀ path ∈ paths, path ≠ "") :
    List.Forall₂ (Lists cwd root functions types) paths
      (paths.map (fileSection cwd root functions types)) := by
  rw [List.forall₂_map_right_iff, List.forall₂_same]
  exact fun path hpath => lists_fileSection functions types (h path hpath)

theorem recovers_of_lines {text : String} (hfunctions : ∀ f ∈ functions, IsListable cwd f)
    (htypes : ∀ t ∈ types, IsListableType cwd t)
    (htext : pieces '\n' text =
      title :: "" :: (filePaths functions types).flatMap (fileLines cwd root functions types)) :
    Recovers cwd root functions types text :=
  ⟨filePaths functions types, (filePaths functions types).map (fileSection cwd root functions types),
    read?_of_lines hfunctions htypes htext, pairwise_sorted (nodup_firstSeen _),
    fun _ => mem_filePaths, lists_fileSections fun _ hpath =>
      (isHeaded_of_mem_filePaths hfunctions htypes hpath).nonempty⟩

end Document

/-- **Reading recovers the records.** If something is kept, there is a document, and reading its lines
    from top to bottom gives the kept records: one section per file in strictly increasing order of the
    paths, every kept procedure once under its router, every other kept function once after all
    routers, every kept type once among the types, each in the order of the records.

    The heading of a file is the way from the root to the place that its path means. A relative path
    means a place below the working place, whose names come into the heading although the path does not
    show them: a line feed in one of them would break the heading in two. So `IsListable` asks of a
    relative path that the working place has no such name; an absolute path is free of this. -/
theorem document_recovers (cwd : Place) (root : String) (exportedOnly : Bool)
    (functions : List FunctionSignature) (types : List TypeSignature)
    (hfunctions : ∀ f ∈ functions.filter (keepsFunction exportedOnly), IsListable cwd f)
    (htypes : ∀ t ∈ types.filter (keepsType exportedOnly), IsListableType cwd t)
    (hkept : functions.filter (keepsFunction exportedOnly) ≠ [] ∨
      types.filter (keepsType exportedOnly) ≠ []) :
    ∃ text, document cwd root exportedOnly functions types = .ok text ∧
      Recovers cwd root (functions.filter (keepsFunction exportedOnly))
        (types.filter (keepsType exportedOnly)) text := by
  obtain ⟨text, htext, hlines⟩ := bodyText_lines root hfunctions htypes hkept
  exact ⟨text, (document_of_kept root hkept).trans htext, recovers_of_lines hfunctions htypes hlines⟩

/-- A plain function and a procedure of one file, neither of them exported. -/
def helperAndPing : List FunctionSignature :=
  [⟨"helper", [], "void", "helper(): void", "/p/b.ts", false, none, none⟩,
   ⟨"ping", [], "inferred", "app.ping: query", "/p/b.ts", false, some "app",
     some ⟨.query, false, none, none⟩⟩]

/-- An exported type of another file. -/
def exportedAlias : TypeSignature :=
  ⟨"Id", .typeAlias, "type Id = string", "/p/a.ts", true⟩

/-- With only exported records shown, reading gives the procedure and the type. -/
theorem helperAndPing_recovered :
    ∃ text, document ["p"] "/p" true helperAndPing [exportedAlias] = .ok text ∧
      Recovers ["p"] "/p" (helperAndPing.filter (keepsFunction true)) [exportedAlias] text :=
  document_recovers ["p"] "/p" true helperAndPing [exportedAlias] (by decide) (by decide)
    (.inl (by decide))

end TsOutline.Report
