import TsOutline.Proofs.Exclusion.PlainNames
import TsOutline.Proofs.Grouping
import TsOutline.Proofs.Project.Files

/-!
# Discovered Files

Which files are found below a root, and when there is nothing to look for.

- **The root** (`folderOf_of_missing`, `discover_eq_noFolder_iff`): a root that is no folder is reported
  as missing, unless its path cannot even be looked up.
- **The files** (`mem_keptFiles_iff`, `isFile_of_mem_keptFiles`): what is found is what a lookup below
  the root finds to be a file, if its suffix is that of a source file and its path below the root is not
  left out.
- **Both together** (`discover_lists_sources`).
-/

namespace TsOutline

/-! ## §1 Places that cannot be looked up -/

namespace FileSystem

variable {fs : FileSystem} {place : Place}

/-- The path of a place is too long to be looked up: as a whole, or one of its names, which is looked
    for in a folder that exists. -/
inductive IsTooLong (fs : FileSystem) (place : Place) : Prop where
  | whole (long : pathLimit ≤ (Path.placeText place).utf8ByteSize)
  | name (above : Place) (name : String) (below : Place) (split : place = above ++ name :: below)
      (folder : ∃ es, fs.root.at? above = some (.folder es))
      (missing : fs.root.at? (above ++ [name]) = none) (long : nameLimit < name.utf8ByteSize)

/-- A path of a usual length with names of usual lengths can be looked up. -/
theorem not_isTooLong (hwhole : (Path.placeText place).utf8ByteSize < pathLimit)
    (hnames : ∀ name ∈ place, name.utf8ByteSize ≤ nameLimit) : ¬fs.IsTooLong place := by
  intro htoo
  cases htoo with
  | whole hlong => exact Nat.not_le.mpr hwhole hlong
  | name above name below hsplit _ _ hlong =>
    have hmem : name ∈ place := by simp [hsplit]
    exact Nat.not_le.mpr hlong (hnames name hmem)

/-- Nothing is found at a place, and it cannot be looked up either. -/
structure IsBeyondReach (fs : FileSystem) (place : Place) : Prop where
  missing : fs.root.at? place = none
  tooLong : fs.IsTooLong place

/-- **Following names** from some place fails for the length of a name if that name is looked for in a
    folder, and does not exist. -/
theorem follow_eq_tooLong_iff {path : String} {here names : Place} (hnames : Path.IsPlace names) :
    fs.follow path here names = .error (.tooLong path) ↔
      ∃ above name below, names = above ++ name :: below ∧
        (∃ es, fs.root.at? (here ++ above) = some (.folder es)) ∧
        fs.root.at? (here ++ above ++ [name]) = none ∧ nameLimit < name.utf8ByteSize := by
  -- by induction on the names: the fault is met at the first one, or behind it
  induction names generalizing here with
  | nil => simp [follow]
  | cons name rest ih =>
    have hname := hnames name (by simp)
    have hstep : Path.step here name = here ++ [name] := if_neg hname.notUp
    unfold follow
    split
    · rename_i es hhere
      rw [if_pos hname.proper]
      dsimp only
      rw [hstep]
      cases hnext : fs.root.at? (here ++ [name]) with
      | some e =>
        rw [Option.isSome_some, if_pos rfl, ih fun n hn => hnames n (by simp [hn])]
        constructor
        · rintro ⟨above, last, below, rfl, hfolder, hmissing, hlong⟩
          exact ⟨name :: above, last, below, rfl, by simpa using hfolder, by simpa using hmissing,
            hlong⟩
        · rintro ⟨above, last, below, hsplit, hfolder, hmissing, hlong⟩
          cases above with
          | nil =>
            obtain ⟨rfl, rfl⟩ := List.cons.inj hsplit
            rw [List.append_nil, hnext] at hmissing
            cases hmissing
          | cons first above =>
            obtain ⟨rfl, rfl⟩ := List.cons.inj hsplit
            exact ⟨above, last, below, rfl, by simpa using hfolder, by simpa using hmissing, hlong⟩
      | none =>
        rw [Option.isSome_none, if_neg Bool.false_ne_true]
        constructor
        · intro h
          split at h
          · exact ⟨[], name, rest, rfl, ⟨es, by simpa using hhere⟩, by simpa using hnext, ‹_›⟩
          · cases h
        · rintro ⟨above, last, below, hsplit, ⟨es', hfolder⟩, -, hlong⟩
          cases above with
          | nil =>
            obtain ⟨rfl, rfl⟩ := List.cons.inj hsplit
            rw [if_pos hlong]
          | cons first above =>
            -- there is nothing below what does not exist
            obtain ⟨rfl, rfl⟩ := List.cons.inj hsplit
            rw [List.append_cons, Entry.at?_append, hnext] at hfolder
            cases hfolder
    · rename_i hno
      simp only [Except.error.injEq, reduceCtorEq, false_iff]
      rintro ⟨above, last, below, hsplit, ⟨es', hfolder⟩, -, -⟩
      cases above with
      | nil => exact hno es' (by simpa using hfolder)
      | cons first above =>
        rw [Entry.at?_append] at hfolder
        obtain ⟨e, he, hbelow⟩ := Option.bind_eq_some_iff.mp hfolder
        obtain ⟨es, rfl⟩ := Entry.exists_folder_of_at?_cons hbelow
        exact hno es he

/-- The fault of an overlong name tells the whole path. -/
theorem eq_of_follow_eq_tooLong {path path' : String} {here : Place} {names : List String}
    (h : fs.follow path here names = .error (.tooLong path')) : path' = path := by
  induction names generalizing here with
  | nil => cases h
  | cons name rest ih =>
    unfold follow at h
    split at h
    · split at h
      · dsimp only at h
        split at h
        · exact ih h
        · split at h <;> cases h
          rfl
      · exact ih h
    · cases h

/-- A place whose path is too long cannot be looked up. -/
theorem locate_of_isTooLong (hplace : Path.IsPlace place) (hmissing : fs.root.at? place = none)
    (htoo : fs.IsTooLong place) :
    fs.locate (Path.placeText place) = .error (.tooLong (Path.placeText place)) := by
  have hne : place ≠ [] := by
    rintro rfl
    cases hmissing
  rw [locate_placeText_eq hne hplace]
  split
  · rfl
  · rename_i hshort
    cases htoo with
    | whole hlong => exact absurd hlong hshort
    | name above name below hsplit hfolder hnone hlong =>
      -- the name is looked for in a folder, so the root is one as well
      have hroot : ∃ es, fs.root = .folder es := by
        obtain ⟨es, hfolder⟩ := hfolder
        cases above with
        | nil => exact ⟨es, Option.some.inj hfolder⟩
        | cons first above => exact Entry.exists_folder_of_at?_cons hfolder
      obtain ⟨es, hroot⟩ := hroot
      rw [follow_empty_cons _ hroot]
      exact (follow_eq_tooLong_iff hplace).mpr ⟨above, name, below, hsplit, hfolder, hnone, hlong⟩

/-- **What does not exist** is reported as missing, unless its path cannot be looked up. -/
theorem probeAt_of_missing (hplace : Path.IsPlace place) (hmissing : fs.root.at? place = none) :
    (fs.IsTooLong place → fs.probeAt place = .error (.tooLong (Path.placeText place))) ∧
      (¬fs.IsTooLong place → fs.probeAt place = .ok none) := by
  have hne : place ≠ [] := by
    rintro rfl
    cases hmissing
  have hlocate : fs.locate (Path.placeText place) = _ := locate_placeText_eq hne hplace
  unfold probeAt
  rw [hmissing]
  dsimp only
  constructor
  · intro htoo
    rw [locate_of_isTooLong hplace hmissing htoo]
    rfl
  · intro hshort
    rw [if_neg fun hlong => hshort (.whole hlong)] at hlocate
    rw [hlocate]
    split
    · rename_i fault hfault
      -- the only fault that counts is that of an overlong name
      cases fault with
      | tooLong path =>
        obtain rfl := eq_of_follow_eq_tooLong hfault
        cases hroot : fs.root with
        | file bytes =>
          rw [follow, Entry.at?, hroot] at hfault
          cases hfault
        | folder es =>
          rw [follow_empty_cons _ hroot] at hfault
          obtain ⟨above, name, below, hsplit, hfolder, hnone, hlong⟩ :=
            (follow_eq_tooLong_iff hplace).mp hfault
          exact absurd (.name above name below hsplit hfolder hnone hlong) hshort
      | missing path => rfl
      | notFolder path => rfl
      | isFolder path => rfl
      | nullByte => rfl
    · rfl

end FileSystem

namespace Discovery

open FileSystem (IsBeyondReach)

variable {fs : FileSystem} {root : String} {place : Place}

/-! ## §2 The root -/

/-- The place of a root consists of names. -/
theorem isPlace_of_resolve (hfs : fs.WellFormed) (h : FileSystem.resolve fs.cwd root = .ok place) :
    Path.IsPlace place := by
  obtain ⟨hnull, rfl⟩ := FileSystem.resolve_eq_ok_iff.mp h
  apply Path.isPlace_placeOf hfs.cwd
  rw [← FileSystem.hasNull_iff, hnull]
  exact Bool.false_ne_true

theorem folderOf_of_missing (hfs : fs.WellFormed) (hroot : FileSystem.resolve fs.cwd root = .ok place)
    (hmissing : fs.root.at? place = none) :
    (fs.IsTooLong place → folderOf fs root = .error (.noAccess (.tooLong (Path.placeText place)))) ∧
      (¬fs.IsTooLong place → folderOf fs root = .error (.noFolder (Path.placeText place))) := by
  obtain ⟨hlong, hshort⟩ := FileSystem.probeAt_of_missing (isPlace_of_resolve hfs hroot) hmissing
  rw [folderOf, hroot]
  dsimp only
  constructor
  · intro h
    rw [hlong h]
  · intro h
    rw [hshort h]

theorem folderOf_of_file (hroot : FileSystem.resolve fs.cwd root = .ok place) {bytes : ByteArray}
    (hfile : fs.root.at? place = some (.file bytes)) :
    folderOf fs root = .error (.noFolder (Path.placeText place)) := by
  rw [folderOf, hroot]
  dsimp only
  rw [FileSystem.probeAt_eq_some_iff.mpr hfile]

theorem folderOf_of_folder (hroot : FileSystem.resolve fs.cwd root = .ok place)
    {es : List (String × Entry)} (hfolder : fs.root.at? place = some (.folder es)) :
    folderOf fs root = .ok (place, .folder es) :=
  folderOf_eq_ok_iff.mpr ⟨hroot, hfolder, rfl⟩

/-- **The root**: it has a folder, or it cannot be looked up, or it is reported as missing. -/
theorem discover_eq_noFolder_iff (hfs : fs.WellFormed)
    (hroot : FileSystem.resolve fs.cwd root = .ok place) (blacklist : List String) (r : String) :
    discover fs root blacklist = .error (.noFolder r) ↔
      (¬∃ es, fs.root.at? place = some (.folder es)) ∧ ¬fs.IsBeyondReach place ∧
        r = Path.placeText place := by
  have hfault {fault : Fault} (h : folderOf fs root = .error fault) :
      discover fs root blacklist = .error (.noFolder r) ↔ fault = .noFolder r := by
    rw [discover, h, Except.error.injEq]
  cases hat : fs.root.at? place with
  | none =>
    obtain ⟨hlong, hshort⟩ := folderOf_of_missing hfs hroot hat
    by_cases htoo : fs.IsTooLong place
    · have hbeyond : fs.IsBeyondReach place := ⟨hat, htoo⟩
      simp [hfault (hlong htoo), hbeyond]
    · have hreach : ¬fs.IsBeyondReach place := fun h => htoo h.tooLong
      simp [hfault (hshort htoo), hreach, eq_comm]
  | some e =>
    have hreach : ¬fs.IsBeyondReach place := by
      intro h
      rw [h.missing] at hat
      cases hat
    cases e with
    | file bytes => simp [hfault (folderOf_of_file hroot hat), hreach, eq_comm]
    | folder es =>
      -- then only the blacklist can be at fault
      rw [discover_of_folderOf (folderOf_of_folder hroot hat), discoverAt]
      cases Exclusion.build blacklist <;> simp

/-! ## §3 The files -/

/-- A source file below a folder. -/
structure IsSourceAt (fs : FileSystem) (place below : Place) : Prop where
  file : ∃ bytes, fs.root.at? (place ++ below) = some (.file bytes)
  suffix : Path.suffix (Path.placeText (place ++ below)) ∈
    [".ts", ".mts", ".cts", ".tsx", ".js", ".jsx", ".mjs", ".cjs"]

/-- A source file below a folder that is not left out. -/
structure IsFoundAt (fs : FileSystem) (spec : Exclusion.Spec) (place below : Place) : Prop
    extends IsSourceAt fs place below where
  kept : Exclusion.excludes spec (relativeText below) = false

variable {spec : Exclusion.Spec} {es : List (String × Entry)}

namespace IsSourceAt

variable {below : Place}

theorem isPlace (h : IsSourceAt fs place below) (hfs : fs.WellFormed) :
    Path.IsPlace (place ++ below) := by
  obtain ⟨bytes, hfile⟩ := h.file
  exact (hfs.root.at? hfile).2

/-- A source file below a folder is not the folder. -/
theorem ne_nil (h : IsSourceAt fs place below) (hfolder : fs.root.at? place = some (.folder es)) :
    below ≠ [] := by
  rintro rfl
  obtain ⟨bytes, hfile⟩ := h.file
  rw [List.append_nil, hfolder] at hfile
  cases hfile

end IsSourceAt

theorem suffix_placeText {p : Place} (hp : Path.IsPlace p) (hne : p ≠ []) :
    Path.suffix (Path.placeText p) = Path.nameSuffix (p.getLast hne) := by
  rw [Path.suffix, Path.ofText_placeText hp, List.getLast?_eq_some_getLast hne]

/-- The suffix of a file is that of its path. -/
theorem isSource_iff {below : Place} (hplace : Path.IsPlace (place ++ below)) (hne : below ≠ []) :
    isSource below = true ↔ Path.suffix (Path.placeText (place ++ below)) ∈ sourceSuffixes := by
  have happend : place ++ below ≠ [] := List.append_ne_nil_of_right_ne_nil place hne
  rw [suffix_placeText hplace happend, List.getLast_append_of_ne_nil happend hne, isSource,
    List.getLast?_eq_some_getLast hne, List.contains_iff_mem]

/-- **The files**: what is found below a folder are the source files there, each under the text of its
    place. -/
theorem mem_keptFiles_iff (hfs : fs.WellFormed) (hfolder : fs.root.at? place = some (.folder es))
    {path : String} :
    path ∈ keptFiles spec place (.folder es) ↔
      ∃ below, IsFoundAt fs spec place below ∧ path = Path.placeText (place ++ below) := by
  obtain ⟨hwell, hplace⟩ := hfs.root.at? hfolder
  have hat (below : Place) : fs.root.at? (place ++ below) = (Entry.folder es).at? below := by
    rw [Entry.at?_append, hfolder, Option.bind_some]
  simp only [keptFiles_eq, Entry.places, List.mem_map, List.mem_filter, Bool.and_eq_true,
    Bool.not_eq_true', Prod.exists, exists_and_right, exists_eq_right]
  refine exists_congr fun below => ?_
  constructor
  · rintro ⟨⟨⟨bytes, hfile⟩, hsource, hkept⟩, rfl⟩
    have hlookup := (hat below).trans ((Entry.mem_files_iff hwell).mp hfile)
    have hne : below ≠ [] := by
      rintro rfl
      cases hsource
    have hsuffix := (isSource_iff (hfs.root.at? hlookup).2 hne).mp hsource
    exact ⟨{ file := ⟨bytes, hlookup⟩, suffix := hsuffix, kept := hkept }, rfl⟩
  · rintro ⟨hfound, rfl⟩
    obtain ⟨bytes, hlookup⟩ := hfound.file
    have hfile := (Entry.mem_files_iff hwell).mpr ((hat below).symm.trans hlookup)
    have hsource := (isSource_iff (hfound.isPlace hfs) (hfound.ne_nil hfolder)).mpr hfound.suffix
    exact ⟨⟨⟨bytes, hfile⟩, hsource, hfound.kept⟩, rfl⟩

/-- Each of the kept paths, when asked, is that of a file. -/
theorem isFile_of_mem_keptFiles (hfs : fs.WellFormed) (hfolder : fs.root.at? place = some (.folder es))
    {path : String} (h : path ∈ keptFiles spec place (.folder es)) : fs.isFile path = .ok true := by
  obtain ⟨below, hfound, rfl⟩ := (mem_keptFiles_iff hfs hfolder).mp h
  obtain ⟨bytes, hfile⟩ := hfound.file
  have hne : place ++ below ≠ [] :=
    List.append_ne_nil_of_right_ne_nil place (hfound.ne_nil hfolder)
  rw [hfs.isFile_placeText hne hfile]
  rfl

/-- Something is discovered if there is a folder and the blacklist can be compiled. -/
theorem discover_eq_ok_iff {blacklist files : List String} :
    discover fs root blacklist = .ok files ↔
      ∃ place es spec, FileSystem.resolve fs.cwd root = .ok place ∧
        fs.root.at? place = some (.folder es) ∧ Exclusion.build blacklist = .ok spec ∧
        files = sorted (keptFiles spec place (.folder es)) := by
  constructor
  · intro h
    rw [discover] at h
    split at h
    · cases h
    · rename_i place folder hfolderOf
      obtain ⟨hroot, hfolder, hkind⟩ := folderOf_eq_ok_iff.mp hfolderOf
      rw [discoverAt] at h
      split at h <;> cases h
      cases folder with
      | file bytes => cases hkind
      | folder es => exact ⟨place, es, _, hroot, hfolder, ‹_›, rfl⟩
  · rintro ⟨place, es, spec, hroot, hfolder, hspec, rfl⟩
    rw [discover_of_folderOf (folderOf_of_folder hroot hfolder), discoverAt, hspec]

/-- **Discovery** lists exactly the source files below its root that are not left out, each once and in
    increasing order. A root that is no folder is reported as missing; only one that cannot be looked
    up, because of its length or a null character, is refused for that reason instead. A folder is
    never listed, whatever its name. -/
theorem discover_lists_sources (fs : FileSystem) (hfs : fs.WellFormed) (root : String)
    (blacklist : List String) (spec : Exclusion.Spec) (hspec : Exclusion.build blacklist = .ok spec) :
    (FileSystem.hasNull root = true → discover fs root blacklist = .error (.noAccess .nullByte)) ∧
    ∀ place, FileSystem.resolve fs.cwd root = .ok place →
      (∀ r, discover fs root blacklist = .error (.noFolder r) ↔
        (¬∃ es, fs.root.at? place = some (.folder es)) ∧ ¬fs.IsBeyondReach place ∧
          r = Path.placeText place) ∧
      (fs.IsBeyondReach place →
        discover fs root blacklist = .error (.noAccess (.tooLong (Path.placeText place)))) ∧
      ∀ es, fs.root.at? place = some (.folder es) →
        ∃ files, discover fs root blacklist = .ok files ∧ files.Pairwise (· < ·) ∧
          (∀ path, path ∈ files ↔
            ∃ below, IsFoundAt fs spec place below ∧ path = Path.placeText (place ++ below)) ∧
          ∀ p es', fs.root.at? p = some (.folder es') → Path.placeText p ∉ files := by
  constructor
  · intro hnull
    rw [discover, folderOf, FileSystem.resolve, if_pos hnull]
  intro place hroot
  refine ⟨discover_eq_noFolder_iff hfs hroot blacklist, ?_, ?_⟩
  · intro hbeyond
    rw [discover, (folderOf_of_missing hfs hroot hbeyond.missing).1 hbeyond.tooLong]
  · intro es hfolder
    have hmem (path : String) : path ∈ sorted (keptFiles spec place (.folder es)) ↔
        ∃ below, IsFoundAt fs spec place below ∧ path = Path.placeText (place ++ below) := by
      rw [mem_sorted, mem_keptFiles_iff hfs hfolder]
    refine ⟨sorted (keptFiles spec place (.folder es)),
      discover_eq_ok_iff.mpr ⟨place, es, spec, hroot, hfolder, hspec, rfl⟩,
      pairwise_sorted (keptFiles_nodup hfs hfolder), hmem, ?_⟩
    intro p es' hp hlisted
    -- the text of a place is that of no other place, and there is a folder here
    obtain ⟨below, hfound, htext⟩ := (hmem _).mp hlisted
    obtain rfl := Path.placeText_inj (hfs.root.at? hp).2 (hfound.isPlace hfs) htext
    obtain ⟨bytes, hfile⟩ := hfound.file
    rw [hp] at hfile
    cases hfile

/-- A folder that is named like a source file, with a source file in it and two others. -/
def sourceFolders : FileSystem :=
  ⟨.folder [("p", .folder [("x.ts", .folder
    [("y.ts", .file ⟨#[]⟩), (".ts", .file ⟨#[]⟩), ("dist", .folder [("z.ts", .file ⟨#[]⟩)])])])],
    ["p"]⟩

theorem sourceFolders_wellFormed : sourceFolders.WellFormed := by
  decide

/-- The file in the folder is listed, and neither the folder nor what is no source or left out. -/
theorem folder_named_like_source :
    sourceFolders.WellFormed ∧ (∃ spec, Exclusion.build ["legacy"] = .ok spec) ∧
    discover sourceFolders "q" ["legacy"] = .error (.noFolder "/p/q") ∧
    ∃ files, discover sourceFolders "x.ts/../." ["legacy"] = .ok files ∧
      "/p/x.ts/y.ts" ∈ files ∧ "/p/x.ts" ∉ files ∧ "/p/x.ts/.ts" ∉ files ∧
      "/p/x.ts/dist/z.ts" ∉ files := by
  have hfs := sourceFolders_wellFormed
  have hplain : ∀ entry ∈ ["legacy"], Exclusion.IsPlainEntry entry := by decide
  have hspec := Exclusion.exists_build hplain
  have hexcludes (below : Place) (hbelow : Path.IsRelative below) :
      Exclusion.excludes (Exclusion.specOf ["legacy"]) (relativeText below) = true ↔
        Exclusion.IsLeftOut ["legacy"] below :=
    Exclusion.excludes_specOf_iff hplain hbelow
  refine ⟨hfs, ⟨_, hspec⟩, ?_, ?_⟩
  · obtain ⟨hmissing, -⟩ :=
      (discover_lists_sources _ hfs "q" _ _ hspec).2 ["p", "q"] (by decide +kernel)
    refine (hmissing "/p/q").mpr ⟨?_, ?_, by decide⟩
    · rintro ⟨es, hfolder⟩
      cases hfolder
    · rintro ⟨-, hlong⟩
      exact FileSystem.not_isTooLong (by decide) (by decide) hlong
  · obtain ⟨-, -, hfiles⟩ :=
      (discover_lists_sources _ hfs "x.ts/../." _ _ hspec).2 ["p"] (by decide +kernel)
    obtain ⟨files, hdiscover, -, hmem, hfolders⟩ := hfiles _ rfl
    refine ⟨files, hdiscover, ?_, ?_, ?_, ?_⟩
    · have hkept : ¬Exclusion.IsLeftOut ["legacy"] ["x.ts", "y.ts"] := by decide
      rw [← hexcludes _ (by decide), Bool.not_eq_true] at hkept
      exact (hmem _).mpr ⟨_, ⟨⟨⟨_, rfl⟩, by decide +kernel⟩, hkept⟩, rfl⟩
    · exact hfolders ["p", "x.ts"] _ rfl
    · intro hlisted
      obtain ⟨below, hfound, htext⟩ := (hmem _).mp hlisted
      have hsuffix := hfound.suffix
      rw [← htext] at hsuffix
      exact absurd hsuffix (by decide +kernel)
    · intro hlisted
      obtain ⟨below, hfound, htext⟩ := (hmem _).mp hlisted
      have hplace : ["p", "x.ts", "dist", "z.ts"] = ["p"] ++ below :=
        Path.placeText_inj (by decide) (hfound.isPlace hfs) htext
      obtain rfl : ["x.ts", "dist", "z.ts"] = below := (List.cons.inj hplace).2
      have hout : Exclusion.IsLeftOut ["legacy"] ["x.ts", "dist", "z.ts"] := by decide
      rw [← hexcludes _ (by decide), hfound.kept] at hout
      cases hout

/-- A name of `n` bytes. -/
def nameOfLength (n : Nat) : String :=
  String.ofList (List.replicate n 'a')

theorem nameOfLength_isName {n : Nat} (hn : 0 < n) : Path.IsName (nameOfLength n) := by
  have hne (cs : List Char) (h : 'a' ∉ cs) : nameOfLength n ≠ String.ofList cs := by
    intro heq
    rw [← String.ofList_inj.mp heq] at h
    exact h (List.mem_replicate.mpr ⟨hn.ne', rfl⟩)
  have hproper : Path.isProperPart (nameOfLength n) = true := by
    simpa [Path.isProperPart] using And.intro (hne [] (by decide)) (hne ['.'] (by decide))
  have hmem (c : Char) (h : c ≠ 'a') : c ∉ (nameOfLength n).toList := by
    rw [nameOfLength, String.toList_ofList, List.mem_replicate]
    exact fun hc => h hc.2
  exact ⟨hproper, hne ['.', '.'] (by decide), hmem '/' (by decide), hmem '\x00' (by decide)⟩

theorem utf8ByteSize_nameOfLength (n : Nat) : (nameOfLength n).utf8ByteSize = n := by
  induction n with
  | zero => rfl
  | succ n ih =>
    have hsplit : nameOfLength (n + 1) = nameOfLength n ++ "a" := by
      rw [nameOfLength, List.replicate_succ', String.ofList_append]
      rfl
    rw [hsplit, String.utf8ByteSize_append, ih]
    rfl

/-- In an empty file system a name of 256 bytes cannot be looked up. -/
theorem isTooLong_nameOfLength :
    (⟨.folder [], []⟩ : FileSystem).IsTooLong [nameOfLength 256] := by
  have hlength : FileSystem.nameLimit < (nameOfLength 256).utf8ByteSize := by
    rw [utf8ByteSize_nameOfLength]
    decide
  exact .name [] (nameOfLength 256) [] rfl ⟨[], rfl⟩ rfl hlength

/-- **There is nothing** in the file system, so the root is no folder. It is not reported as missing. -/
theorem overlong_root_not_missing :
    (⟨.folder [], []⟩ : FileSystem).WellFormed ∧ (∃ spec, Exclusion.build [] = .ok spec) ∧
    FileSystem.resolve [] (Path.placeText [nameOfLength 256]) = .ok [nameOfLength 256] ∧
    (Entry.folder []).at? [nameOfLength 256] = none ∧
    ∀ r, discover ⟨.folder [], []⟩ (Path.placeText [nameOfLength 256]) [] ≠ .error (.noFolder r) := by
  have hfs : (⟨.folder [], []⟩ : FileSystem).WellFormed := by decide
  have hroot : FileSystem.resolve [] (Path.placeText [nameOfLength 256]) = .ok [nameOfLength 256] :=
    FileSystem.resolve_placeText [] (List.forall_mem_singleton.mpr (nameOfLength_isName (by decide)))
  refine ⟨hfs, ⟨_, Exclusion.exists_build (by simp)⟩, hroot, rfl, ?_⟩
  intro r hnoFolder
  rw [discover, (folderOf_of_missing hfs hroot rfl).1 isTooLong_nameOfLength] at hnoFolder
  cases hnoFolder

end Discovery

end TsOutline
