import TsOutline.Proofs.Grouping
import TsOutline.Proofs.OneLine.Type
import TsOutline.Report

/-!
# The Lines of a Report

A document is put together from texts that bring their own line feeds, and is trimmed at the end. This
module says which lines come out.

- **Texts of lines** (`Text.unlines`): every block of a section is a list of lines, and splitting a
  text of lines gives them back.
- **Headings** (`Path.IsHeaded`): the way from the root to a file is one line if the path is.
- **The document** (`bodyText_lines`): the title, and then the lines of each file in the order of the
  paths, nothing lost to the trimming.
-/

namespace TsOutline

/-! ## §1 Texts of lines -/

namespace Text

/-- The lines one after the other, each with a line feed behind it. -/
def unlines : List String → String
  | [] => ""
  | line :: rest => line ++ "\n" ++ unlines rest

@[simp] theorem unlines_append (ls ms : List String) :
    unlines (ls ++ ms) = unlines ls ++ unlines ms := by
  induction ls with
  | nil => simp [unlines]
  | cons l ls ih => simp [unlines, ih, String.append_assoc]

/-- Lines with an empty line behind them. -/
theorem join_paragraph {ls : List String} (hne : ls ≠ []) :
    join "\n" ls ++ "\n\n" = unlines (ls ++ [""]) := by
  fun_induction join "\n" ls with
  | case1 => exact absurd rfl hne
  | case2 l =>
    rw [List.singleton_append, unlines, unlines, String.append_assoc]
    rfl
  | case3 l m rest ih =>
    rw [String.append_assoc, ih (by simp)]
    rfl

theorem join_empty_cons (x : String) (xs : List String) : join "" (x :: xs) = x ++ join "" xs := by
  cases xs with
  | nil => simp [join]
  | cons y ys => simp [join]

/-- Blocks of lines one after the other are the lines of all blocks. -/
theorem join_unlines {α : Type} (lines : α → List String) (xs : List α) :
    join "" (xs.map fun x => unlines (lines x)) = unlines (xs.flatMap lines) := by
  induction xs with
  | nil => rfl
  | cons x xs ih => rw [List.map_cons, join_empty_cons, ih, List.flatMap_cons, unlines_append]

/-- **Splitting** a text of lines gives the lines back, and the empty rest behind the last one. -/
theorem pieces_unlines {ls : List String} (h : ∀ l ∈ ls, OneLine l) :
    pieces '\n' (unlines ls) = ls ++ [""] := by
  induction ls with
  | nil => rfl
  | cons l ls ih =>
    have hchars : (unlines (l :: ls)).toList = l.toList ++ '\n' :: (unlines ls).toList := by
      simp [unlines]
    rw [pieces, hchars, piecesOf_append_cons, piecesOf_of_not_mem (h l (List.mem_cons_self ..)),
      List.map_append]
    show [String.ofList l.toList] ++ pieces '\n' (unlines ls) = l :: ls ++ [""]
    rw [ih fun m hm => h m (List.mem_cons_of_mem _ hm), String.ofList_toList]
    rfl

/-! ## §2 Trimming the end -/

/-- The text ends with a character that is not blank. -/
def EndsFirmly (s : String) : Prop :=
  ∃ cs c, s.toList = cs ++ [c] ∧ isBlank c = false

theorem EndsFirmly.append {s : String} (h : EndsFirmly s) (t : String) : EndsFirmly (t ++ s) := by
  obtain ⟨cs, c, hcs, hc⟩ := h
  exact ⟨t.toList ++ cs, c, by simp [hcs], hc⟩

/-- A text without blanks around it ends with a character that is not blank. -/
theorem endsFirmly_of_trim {s : String} (htrim : trim s = s) (hne : s ≠ "") : EndsFirmly s := by
  have hchars : trimChars s.toList = s.toList := by
    have h := congrArg String.toList htrim
    rwa [trim, String.toList_ofList] at h
  have hnil : s.toList ≠ [] := fun h => hne (String.toList_inj.mp h)
  refine ⟨_, s.toList.getLast hnil, (List.dropLast_append_getLast hnil).symm, ?_⟩
  -- the last character is the first one that trimming leaves, read from the end
  have hhead := List.head?_dropWhile_not isBlank (s.toList.dropWhile isBlank).reverse
  have hlast : ((s.toList.dropWhile isBlank).reverse.dropWhile isBlank).head? =
      some (s.toList.getLast hnil) := by
    rw [← List.getLast?_reverse, ← List.getLast?_eq_some_getLast hnil]
    exact congrArg List.getLast? hchars
  rw [hlast] at hhead
  exact hhead

/-- Trimming takes the blanks behind a text that starts and ends firmly, and nothing else. -/
theorem trim_append {s t : String} {c : Char} {cs : List Char} (hfirst : s.toList = c :: cs)
    (hc : isBlank c = false) (hlast : EndsFirmly s) (hblank : ∀ b ∈ t.toList, isBlank b = true) :
    trim (s ++ t) = s := by
  obtain ⟨ds, d, hds, hd⟩ := hlast
  -- nothing is dropped in front, and behind only what was appended
  have hstart : (s ++ t).toList.dropWhile isBlank = s.toList ++ t.toList := by
    rw [String.toList_append, hfirst, List.cons_append, List.dropWhile_cons_of_neg (by simp [hc])]
  have hend : (s.toList ++ t.toList).reverse.dropWhile isBlank = s.toList.reverse := by
    rw [List.reverse_append, List.dropWhile_append_of_pos (by simpa using hblank), hds,
      List.reverse_append]
    exact List.dropWhile_cons_of_neg (by simp [hd])
  rw [trim, trimChars, hstart, hend, List.reverse_reverse, String.ofList_toList]

/-- The lines end with a line that ends firmly and one empty line. -/
def EndFirmly (lines : List String) : Prop :=
  ∃ front last, lines = front ++ [last, ""] ∧ EndsFirmly last

theorem EndFirmly.append {ms : List String} (h : EndFirmly ms) (ls : List String) :
    EndFirmly (ls ++ ms) := by
  obtain ⟨front, last, rfl, hlast⟩ := h
  exact ⟨ls ++ front, last, by simp, hlast⟩

theorem endFirmly_map {α : Type} {line : α → String} {xs : List α} (hne : xs ≠ [])
    (h : ∀ x ∈ xs, EndsFirmly (line x)) : EndFirmly (xs.map line ++ [""]) := by
  obtain ⟨front, x, rfl⟩ := (List.eq_nil_or_concat xs).resolve_left hne
  exact ⟨front.map line, line x, by simp, h x (by simp)⟩

theorem endFirmly_flatMap {α : Type} {lines : α → List String} {xs : List α} (hne : xs ≠ [])
    (h : ∀ x ∈ xs, EndFirmly (lines x)) : EndFirmly (xs.flatMap lines) := by
  obtain ⟨front, x, rfl⟩ := (List.eq_nil_or_concat xs).resolve_left hne
  rw [List.concat_eq_append, List.flatMap_append, List.flatMap_singleton]
  exact (h x (by simp)).append _

/-- **Trimming a text of lines** that starts and ends firmly takes its last line feed, so that one line
    feed more brings all lines back. -/
theorem pieces_trim_unlines {l : String} {ls : List String} {c : Char} {cs : List Char}
    (hfirst : l.toList = c :: cs) (hc : isBlank c = false) (hlast : EndFirmly ls)
    (hone : ∀ m ∈ l :: ls, OneLine m) :
    pieces '\n' (trim (unlines (l :: ls)) ++ "\n") = l :: ls := by
  obtain ⟨front, last, rfl, hlast⟩ := hlast
  -- behind the last entry there are two line feeds: its own and that of the empty line
  have hsplit : unlines (l :: (front ++ [last, ""])) =
      (unlines (l :: front) ++ last) ++ "\n\n" := by
    simp only [unlines, unlines_append, String.append_assoc]
    rfl
  have hstart : (unlines (l :: front) ++ last).toList =
      c :: (cs ++ '\n' :: (unlines front ++ last).toList) := by
    simp [unlines, hfirst]
  have hback : unlines (l :: front) ++ last ++ "\n" = unlines (l :: (front ++ [last])) := by
    simp [unlines, String.append_assoc]
  have hblank (b : Char) (hb : b ∈ "\n\n".toList) : isBlank b = true := by
    obtain rfl : b = '\n' := by simpa using hb
    decide
  rw [hsplit, trim_append hstart hc (hlast.append _) hblank, hback, pieces_unlines]
  · simp
  · intro m hm
    apply hone m
    rcases List.mem_cons.mp hm with rfl | hm
    · exact List.mem_cons_self ..
    · rcases List.mem_append.mp hm with hfront | hlast
      · exact List.mem_cons_of_mem _ (List.mem_append_left _ hfront)
      · rw [List.mem_singleton.mp hlast]
        simp

end Text

open Text (OneLine unlines EndsFirmly EndFirmly pieces trim)

/-! ## §3 Headings -/

namespace Path

theorem mem_foldl_step {parts : List String} {start : Place} {name : String}
    (h : name ∈ parts.foldl step start) : name ∈ start ∨ name ∈ parts := by
  induction parts generalizing start with
  | nil => exact .inl h
  | cons part rest ih =>
    rcases ih h with hstep | hrest
    · -- one step keeps what was there, less one name if it goes up
      unfold step at hstep
      split at hstep
      · exact .inl (List.dropLast_subset _ hstep)
      · rcases List.mem_append.mp hstep with hstart | hpart
        · exact .inl hstart
        · exact .inr (List.mem_cons.mpr (.inl (List.mem_singleton.mp hpart)))
    · exact .inr (List.mem_cons_of_mem _ hrest)

theorem mem_afterCommon {as bs : List String} {name : String} (h : name ∈ (afterCommon as bs).2) :
    name ∈ bs := by
  fun_induction afterCommon as bs with
  | case1 a as bs ih => exact List.mem_cons_of_mem _ (ih h)
  | case2 => exact h
  | case3 => exact h

/-- The names of the place that a path means come from the path, or from the working place if the path
    starts there. -/
theorem mem_placeOf {cwd : Place} {s name : String} (h : name ∈ placeOf cwd s) :
    name ∈ pieces '/' s ∨ (ofText s).isAbsolute = false ∧ name ∈ cwd := by
  rcases mem_foldl_step h with hstart | hpart
  · by_cases habs : (ofText s).isAbsolute = true
    · rw [if_pos habs] at hstart
      cases hstart
    · rw [if_neg habs] at hstart
      exact .inr ⟨by simpa using habs, hstart⟩
  · exact .inl (List.mem_filter.mp hpart).1

theorem oneLine_of_mem_pieces {s part : String} (hs : OneLine s) (h : part ∈ pieces '/' s) :
    OneLine part := by
  obtain ⟨p, hp, rfl⟩ := List.mem_map.mp h
  rw [OneLine, String.toList_ofList]
  exact fun hmem => hs ((Text.mem_iff_mem_piecesOf (by decide)).mpr ⟨p, hp, hmem⟩)

/-- A path that a heading can be made from: it names a file, and neither it nor the working place, if
    it starts there, has a line feed. -/
@[mk_iff] structure IsHeaded (cwd : Place) (path : String) : Prop where
  nonempty : path ≠ ""
  oneLine : OneLine path
  /-- The heading of a relative path can go through names of the working place. -/
  working : (ofText path).isAbsolute = false → ∀ name ∈ cwd, OneLine name

instance (cwd : Place) (path : String) : Decidable (IsHeaded cwd path) :=
  decidable_of_iff' _ (isHeaded_iff cwd path)

/-- **Headings**: the way to such a path exists and is one line. -/
theorem IsHeaded.relative? {cwd : Place} {path : String} (h : IsHeaded cwd path) (root : String) :
    ∃ heading, relative? cwd path root = some heading ∧ OneLine heading := by
  refine ⟨_, if_neg h.nonempty, ?_⟩
  split
  · decide
  · rw [Text.oneLine_join (by decide)]
    intro name hname
    -- the way goes up by dots and then down by names of the target
    rcases List.mem_append.mp hname with hup | hdown
    · rw [List.eq_of_mem_replicate hup]
      decide
    · rcases mem_placeOf (mem_afterCommon hdown) with hpart | ⟨hrelative, hcwd⟩
      · exact oneLine_of_mem_pieces h.oneLine hpart
      · exact h.working hrelative name hcwd

end Path

/-! ## §4 The lines of a section -/

namespace Report

/-- The procedures of one router. -/
def routerLines (router : String × List FunctionSignature) : List String :=
  ("### Router: " ++ router.1) :: (router.2.map fun f => "- " ++ f.fullSignature) ++ [""]

/-- The other functions of a file. -/
def functionsLines (afterRouters : Bool) (functions : List FunctionSignature) : List String :=
  if functions.isEmpty then []
  else (if afterRouters then ["### Other Functions"] else []) ++ functions.map (·.fullSignature) ++ [""]

/-- The types of a file. -/
def typesLines (types : List TypeSignature) : List String :=
  if types.isEmpty then [] else "### Types" :: types.map (·.fullSignature) ++ [""]

/-- The section of a file. -/
def sectionLines (heading : String) (functions : List FunctionSignature)
    (types : List TypeSignature) : List String :=
  let routers := groupBy routerOf (functions.filter (·.isProcedure))
  ["## " ++ heading, ""] ++ routers.flatMap routerLines ++
    functionsLines (!routers.isEmpty) (functions.filter fun f => !f.isProcedure) ++ typesLines types

theorem routerText_eq {router : String × List FunctionSignature} (hne : router.2 ≠ []) :
    routerText router = unlines (routerLines router) := by
  unfold routerText
  rw [String.append_assoc, Text.join_paragraph (by simpa using hne)]
  rfl

theorem functionsText_eq (afterRouters : Bool) (functions : List FunctionSignature) :
    functionsText afterRouters functions = unlines (functionsLines afterRouters functions) := by
  unfold functionsText functionsLines
  split
  · rfl
  · rename_i hne
    have hheading : (if afterRouters then "### Other Functions\n" else "") =
        unlines (if afterRouters then ["### Other Functions"] else []) := by
      cases afterRouters <;> rfl
    rw [String.append_assoc, Text.join_paragraph (by simpa using hne), hheading,
      ← Text.unlines_append, ← List.append_assoc]

theorem typesText_eq (types : List TypeSignature) :
    typesText types = unlines (typesLines types) := by
  unfold typesText typesLines
  split
  · rfl
  · rename_i hne
    rw [String.append_assoc, Text.join_paragraph (by simpa using hne)]
    rfl

/-- **Sections**: the text of a section is that of its lines. -/
theorem sectionText_eq (heading : String) (functions : List FunctionSignature)
    (types : List TypeSignature) :
    sectionText heading functions types = unlines (sectionLines heading functions types) := by
  have hrouters : Text.join "" ((groupBy routerOf (functions.filter (·.isProcedure))).map routerText) =
      unlines ((groupBy routerOf (functions.filter (·.isProcedure))).flatMap routerLines) := by
    rw [← Text.join_unlines]
    congr 1
    exact List.map_congr_left fun router hrouter => routerText_eq (ne_nil_of_mem_groupBy hrouter)
  unfold sectionText sectionLines
  dsimp only
  rw [hrouters, functionsText_eq, typesText_eq]
  simp only [unlines, Text.unlines_append, String.append_assoc]
  rfl

/-! ## §5 The lines of the document -/

/-- A text that can stand on a line of its own: one line that is not blank, with no blanks around it,
    and that cannot be mistaken for a heading or a procedure. -/
@[mk_iff] structure IsEntry (s : String) : Prop where
  oneLine : OneLine s
  nonempty : s ≠ ""
  trimmed : trim s = s
  noHeading : Text.startsWith s "#" = false
  noItem : Text.startsWith s "- " = false

instance (s : String) : Decidable (IsEntry s) :=
  decidable_of_iff' _ (isEntry_iff s)

theorem IsEntry.endsFirmly {s : String} (h : IsEntry s) : EndsFirmly s :=
  Text.endsFirmly_of_trim h.trimmed h.nonempty

/-- A function or procedure that can be listed. -/
@[mk_iff] structure IsListable (cwd : Place) (f : FunctionSignature) : Prop where
  path : Path.IsHeaded cwd f.filePath
  entry : IsEntry f.fullSignature
  router : f.isProcedure = true → OneLine (routerOf f)

instance (cwd : Place) (f : FunctionSignature) : Decidable (IsListable cwd f) :=
  decidable_of_iff' _ (isListable_iff cwd f)

/-- A type that can be listed. -/
@[mk_iff] structure IsListableType (cwd : Place) (t : TypeSignature) : Prop where
  path : Path.IsHeaded cwd t.filePath
  entry : IsEntry t.fullSignature

instance (cwd : Place) (t : TypeSignature) : Decidable (IsListableType cwd t) :=
  decidable_of_iff' _ (isListableType_iff cwd t)

section Document

variable {cwd : Place} {root heading : String} {functions : List FunctionSignature}
  {types : List TypeSignature}

theorem oneLine_of_mem_routerLines {group : String × List FunctionSignature}
    (hrouter : OneLine group.1) (h : ∀ f ∈ group.2, OneLine f.fullSignature) :
    ∀ l ∈ routerLines group, OneLine l := by
  intro l hl
  simp only [routerLines, List.mem_cons, List.mem_append, List.mem_map, List.not_mem_nil,
    or_false] at hl
  rcases hl with (rfl | ⟨f, hf, rfl⟩) | rfl
  · exact Text.oneLine_append.mpr ⟨by decide, hrouter⟩
  · exact Text.oneLine_append.mpr ⟨by decide, h f hf⟩
  · decide

theorem oneLine_of_mem_functionsLines (afterRouters : Bool)
    (h : ∀ f ∈ functions, OneLine f.fullSignature) :
    ∀ l ∈ functionsLines afterRouters functions, OneLine l := by
  intro l hl
  unfold functionsLines at hl
  split at hl
  · cases hl
  · simp only [List.mem_append, List.mem_map, List.mem_singleton] at hl
    rcases hl with (hheading | ⟨f, hf, rfl⟩) | rfl
    · cases afterRouters with
      | false => cases hheading
      | true =>
        rw [List.mem_singleton.mp hheading]
        decide
    · exact h f hf
    · decide

theorem oneLine_of_mem_typesLines (h : ∀ t ∈ types, OneLine t.fullSignature) :
    ∀ l ∈ typesLines types, OneLine l := by
  intro l hl
  unfold typesLines at hl
  split at hl
  · cases hl
  · simp only [List.mem_cons, List.mem_append, List.mem_map, List.not_mem_nil, or_false] at hl
    rcases hl with (rfl | ⟨t, ht, rfl⟩) | rfl
    · decide
    · exact h t ht
    · decide

theorem oneLine_of_mem_sectionLines (hheading : OneLine heading)
    (hfunctions : ∀ f ∈ functions, IsListable cwd f) (htypes : ∀ t ∈ types, IsListableType cwd t) :
    ∀ l ∈ sectionLines heading functions types, OneLine l := by
  intro l hl
  simp only [sectionLines, List.mem_cons, List.mem_append, List.not_mem_nil, or_false] at hl
  rcases hl with (((rfl | rfl) | hl) | hl) | hl
  · exact Text.oneLine_append.mpr ⟨by decide, hheading⟩
  · decide
  · -- a router is that of one of its procedures
    obtain ⟨group, hgroup, hl⟩ := List.mem_flatMap.mp hl
    obtain ⟨⟨f, hf, hrouter⟩, hitems⟩ := mem_groupBy.mp hgroup
    obtain ⟨hmem, hprocedure⟩ := List.mem_filter.mp hf
    refine oneLine_of_mem_routerLines (hrouter ▸ (hfunctions f hmem).router hprocedure) ?_ l hl
    intro g hg
    rw [hitems] at hg
    exact (hfunctions g (List.mem_filter.mp (List.mem_filter.mp hg).1).1).entry.oneLine
  · refine oneLine_of_mem_functionsLines _ ?_ l hl
    intro f hf
    exact (hfunctions f (List.mem_filter.mp hf).1).entry.oneLine
  · exact oneLine_of_mem_typesLines (fun t ht => (htypes t ht).entry.oneLine) l hl

theorem endFirmly_routerLines {group : String × List FunctionSignature} (hne : group.2 ≠ [])
    (h : ∀ f ∈ group.2, IsEntry f.fullSignature) : EndFirmly (routerLines group) := by
  refine EndFirmly.append (Text.endFirmly_map hne ?_) ["### Router: " ++ group.1]
  exact fun f hf => (h f hf).endsFirmly.append "- "

theorem endFirmly_functionsLines (afterRouters : Bool) (hne : functions ≠ [])
    (h : ∀ f ∈ functions, IsEntry f.fullSignature) :
    EndFirmly (functionsLines afterRouters functions) := by
  rw [functionsLines, if_neg (by simpa using hne), List.append_assoc]
  exact EndFirmly.append (Text.endFirmly_map hne fun f hf => (h f hf).endsFirmly) _

theorem endFirmly_typesLines (hne : types ≠ []) (h : ∀ t ∈ types, IsEntry t.fullSignature) :
    EndFirmly (typesLines types) := by
  rw [typesLines, if_neg (by simpa using hne)]
  exact EndFirmly.append (Text.endFirmly_map hne fun t ht => (h t ht).endsFirmly) ["### Types"]

/-- The last line of a section that lists something is one of its entries, with an empty line behind
    it. -/
theorem endFirmly_sectionLines (hfunctions : ∀ f ∈ functions, IsEntry f.fullSignature)
    (htypes : ∀ t ∈ types, IsEntry t.fullSignature) (hne : functions ≠ [] ∨ types ≠ []) :
    EndFirmly (sectionLines heading functions types) := by
  unfold sectionLines
  dsimp only
  by_cases htypesNil : types = []
  · have hlines : typesLines types = [] := by rw [htypesNil]; rfl
    rw [hlines, List.append_nil]
    by_cases hplain : functions.filter (fun f => !f.isProcedure) = []
    · -- without plain functions and types there is a procedure, so there is a last router
      have hprocedures : functions.filter (·.isProcedure) ≠ [] := by
        obtain ⟨f, hf⟩ := List.exists_mem_of_ne_nil _ (hne.resolve_right (not_not.mpr htypesNil))
        refine List.ne_nil_of_mem (List.mem_filter.mpr ⟨hf, ?_⟩)
        simpa using List.filter_eq_nil_iff.mp hplain f hf
      rw [hplain]
      show EndFirmly (_ ++ _ ++ [])
      rw [List.append_nil]
      refine EndFirmly.append (Text.endFirmly_flatMap (groupBy_ne_nil hprocedures) ?_) _
      intro group hgroup
      refine endFirmly_routerLines (ne_nil_of_mem_groupBy hgroup) fun f hf => ?_
      rw [(mem_groupBy.mp hgroup).2] at hf
      exact hfunctions f (List.mem_filter.mp (List.mem_filter.mp hf).1).1
    · refine EndFirmly.append (endFirmly_functionsLines _ hplain ?_) _
      exact fun f hf => hfunctions f (List.mem_filter.mp hf).1
  · exact (endFirmly_typesLines htypesNil htypes).append _

/-- The heading of a file: its path seen from the root. -/
def fileHeading (cwd : Place) (root path : String) : String :=
  (Path.relative? cwd path root).getD ""

/-- The lines of a file: the section of its records. -/
def fileLines (cwd : Place) (root : String) (functions : List FunctionSignature)
    (types : List TypeSignature) (path : String) : List String :=
  sectionLines (fileHeading cwd root path) (functions.filter fun f => f.filePath = path)
    (types.filter fun t => t.filePath = path)

theorem relative?_eq_fileHeading {path : String} (h : path ≠ "") :
    Path.relative? cwd path root = some (fileHeading cwd root path) := by
  unfold fileHeading Path.relative?
  rw [if_neg h, Option.getD_some]

/-- The sections of files, each under the way from the root to its file. -/
theorem sections_of_relative? {headingOf : String → String} {paths : List String}
    (h : ∀ path ∈ paths, Path.relative? cwd path root = some (headingOf path)) :
    sections cwd root functions types paths =
      .ok (paths.map fun path => sectionText (headingOf path)
        (functions.filter fun f => f.filePath = path) (types.filter fun t => t.filePath = path)) := by
  induction paths with
  | nil => rfl
  | cons path rest ih =>
    rw [sections, h path (List.mem_cons_self ..), ih fun p hp => h p (List.mem_cons_of_mem _ hp),
      List.map_cons]

theorem sections_eq {paths : List String} (h : ∀ path ∈ paths, path ≠ "") :
    sections cwd root functions types paths =
      .ok (paths.map fun path => unlines (fileLines cwd root functions types path)) := by
  rw [sections_of_relative? fun path hpath => relative?_eq_fileHeading (h path hpath)]
  simp only [fileLines, ← sectionText_eq]

/-- The files of a document are those that a record comes from. -/
theorem mem_filePaths {path : String} :
    path ∈ filePaths functions types ↔
      (∃ f ∈ functions, f.filePath = path) ∨ ∃ t ∈ types, t.filePath = path := by
  rw [filePaths, mem_sorted, mem_firstSeen, List.mem_append, List.mem_map, List.mem_map]

theorem isHeaded_of_mem_filePaths (hfunctions : ∀ f ∈ functions, IsListable cwd f)
    (htypes : ∀ t ∈ types, IsListableType cwd t) {path : String}
    (h : path ∈ filePaths functions types) : Path.IsHeaded cwd path := by
  rcases mem_filePaths.mp h with ⟨f, hf, rfl⟩ | ⟨t, ht, rfl⟩
  · exact (hfunctions f hf).path
  · exact (htypes t ht).path

theorem oneLine_of_mem_fileLines (hfunctions : ∀ f ∈ functions, IsListable cwd f)
    (htypes : ∀ t ∈ types, IsListableType cwd t) {path : String} (hpath : Path.IsHeaded cwd path) :
    ∀ l ∈ fileLines cwd root functions types path, OneLine l := by
  have hheading : OneLine (fileHeading cwd root path) := by
    obtain ⟨heading, hrelative, hone⟩ := hpath.relative? root
    rwa [fileHeading, hrelative]
  exact oneLine_of_mem_sectionLines hheading (fun f hf => hfunctions f (List.mem_filter.mp hf).1)
    fun t ht => htypes t (List.mem_filter.mp ht).1

theorem endFirmly_fileLines (hfunctions : ∀ f ∈ functions, IsListable cwd f)
    (htypes : ∀ t ∈ types, IsListableType cwd t) {path : String}
    (hpath : path ∈ filePaths functions types) :
    EndFirmly (fileLines cwd root functions types path) := by
  apply endFirmly_sectionLines
  · exact fun f hf => (hfunctions f (List.mem_filter.mp hf).1).entry
  · exact fun t ht => (htypes t (List.mem_filter.mp ht).1).entry
  · rcases mem_filePaths.mp hpath with ⟨f, hf, rfl⟩ | ⟨t, ht, rfl⟩
    · exact .inl (List.ne_nil_of_mem (List.mem_filter.mpr ⟨hf, by simp⟩))
    · exact .inr (List.ne_nil_of_mem (List.mem_filter.mpr ⟨ht, by simp⟩))

theorem filePaths_ne_nil (hne : functions ≠ [] ∨ types ≠ []) : filePaths functions types ≠ [] := by
  rcases hne with hne | hne
  · obtain ⟨f, hf⟩ := List.exists_mem_of_ne_nil _ hne
    exact List.ne_nil_of_mem (mem_filePaths.mpr (.inl ⟨f, hf, rfl⟩))
  · obtain ⟨t, ht⟩ := List.exists_mem_of_ne_nil _ hne
    exact List.ne_nil_of_mem (mem_filePaths.mpr (.inr ⟨t, ht, rfl⟩))

/-- **The lines of a document**: the title, an empty line and the lines of each file. -/
theorem bodyText_lines (root : String) (hfunctions : ∀ f ∈ functions, IsListable cwd f)
    (htypes : ∀ t ∈ types, IsListableType cwd t) (hne : functions ≠ [] ∨ types ≠ []) :
    ∃ text, bodyText cwd root functions types = .ok text ∧
      pieces '\n' text =
        title :: "" :: (filePaths functions types).flatMap (fileLines cwd root functions types) := by
  have hpaths {path : String} (hpath : path ∈ filePaths functions types) : Path.IsHeaded cwd path :=
    isHeaded_of_mem_filePaths hfunctions htypes hpath
  have hone : ∀ l ∈ title :: "" :: (filePaths functions types).flatMap
      (fileLines cwd root functions types), OneLine l := by
    intro l hl
    rcases List.mem_cons.mp hl with rfl | hl
    · decide
    rcases List.mem_cons.mp hl with rfl | hl
    · decide
    obtain ⟨path, hpath, hl⟩ := List.mem_flatMap.mp hl
    exact oneLine_of_mem_fileLines hfunctions htypes (hpaths hpath) l hl
  have hend : EndFirmly ((filePaths functions types).flatMap
      (fileLines cwd root functions types)) :=
    Text.endFirmly_flatMap (filePaths_ne_nil hne) fun path hpath =>
      endFirmly_fileLines hfunctions htypes hpath
  refine ⟨_, ?_, Text.pieces_trim_unlines rfl (by decide) (hend.append [""]) hone⟩
  rw [bodyText, sections_eq fun path hpath => (hpaths hpath).nonempty]
  simp only [Text.join_unlines]
  rfl

/-- Where something is kept, the document is that of what is kept. -/
theorem document_of_kept (root : String) {exportedOnly : Bool}
    (hne : functions.filter (keepsFunction exportedOnly) ≠ [] ∨
      types.filter (keepsType exportedOnly) ≠ []) :
    document cwd root exportedOnly functions types =
      bodyText cwd root (functions.filter (keepsFunction exportedOnly))
        (types.filter (keepsType exportedOnly)) := by
  have hall : ¬ (functions.isEmpty && types.isEmpty) = true := by
    rw [Bool.and_eq_true, List.isEmpty_iff, List.isEmpty_iff]
    rintro ⟨rfl, rfl⟩
    simp at hne
  have hkept : ¬ ((functions.filter (keepsFunction exportedOnly)).isEmpty &&
      (types.filter (keepsType exportedOnly)).isEmpty) = true := by
    rw [Bool.and_eq_true, List.isEmpty_iff, List.isEmpty_iff]
    exact not_and_or.mpr hne
  unfold document
  dsimp only
  rw [if_neg hall, if_neg hkept]

end Document

end Report

end TsOutline
