import Mathlib.Data.List.DropRight
import TsOutline.Proofs.Discovery

/-!
# Entries That Take Back

A blacklist is read to the end: the last of its entries that says something of a path decides, and the
fixed exclusions decide only where no entry does. Most entries can only say that a path is left out. An
entry that is written as a glob or a path with a mark of negation in front says the contrary, so it can
bring files back, even those of the fixed exclusions.

- **The last word** (`excludes_specOf`): from what one entry more changes (`excludes_specOf_concat`),
  by induction on the blacklist.
- **Who takes back** (`isNegation_of_verdict`).
- **What it does to discovery** (`further_entry_removes_iff`).
-/

namespace TsOutline

namespace Exclusion

open Text (trim trimEndChars)

variable {blacklist : List String} {entry path : String}

/-! ## §1 What entries say -/

/-- What an entry says of a path: that it is left out, that it is taken back, or nothing. -/
def verdict? (path entry : String) : Option Bool :=
  ((patternOf? entry).filter fun p => p.hits path).map fun p => !p.negated

/-- The last word of a blacklist on a path. -/
def lastVerdict? (path : String) (blacklist : List String) : Option Bool :=
  blacklist.reverse.findSome? (verdict? path)

theorem excludes_append_toList (spec : Spec) (p? : Option Glob.Pattern) (path : String) :
    excludes (spec ++ p?.toList) path =
      ((p?.filter fun p => p.hits path).map fun p => !p.negated).getD (excludes spec path) := by
  cases p? with
  | none => simp
  | some p =>
    rw [Option.toList_some, excludes_concat, Option.filter_some]
    split <;> simp

/-- **One entry more** decides if it says something, and changes nothing otherwise. -/
theorem excludes_specOf_concat (blacklist : List String) (entry path : String) :
    excludes (specOf (blacklist ++ [entry])) path =
      (verdict? path entry).getD (excludes (specOf blacklist) path) := by
  have hpattern : [entry].filterMap patternOf? = (patternOf? entry).toList := by
    cases hp : patternOf? entry <;> simp [hp]
  rw [specOf_append, hpattern, excludes_append_toList, verdict?]

theorem lastVerdict?_concat (blacklist : List String) (entry path : String) :
    lastVerdict? path (blacklist ++ [entry]) =
      (verdict? path entry).or (lastVerdict? path blacklist) := by
  rw [lastVerdict?, List.reverse_append, List.reverse_singleton, List.singleton_append,
    List.findSome?_cons]
  cases verdict? path entry <;> rfl

/-- **The last word** of a blacklist decides, and the fixed exclusions do where there is none. -/
theorem excludes_specOf (blacklist : List String) (path : String) :
    excludes (specOf blacklist) path =
      (lastVerdict? path blacklist).getD (excludes fixedSpec path) := by
  -- by induction from the end: the last entry is the first to be asked
  induction blacklist using List.reverseRecOn with
  | nil =>
    rw [specOf, List.filterMap_nil, List.append_nil, lastVerdict?, List.reverse_nil,
      List.findSome?_nil, Option.getD_none]
  | append_singleton front entry ih =>
    rw [excludes_specOf_concat, lastVerdict?_concat, ih, Option.getD_or]

/-- The last word is that of an entry after which no other says anything. -/
theorem lastVerdict?_eq_some_iff {verdict : Bool} :
    lastVerdict? path blacklist = some verdict ↔
      ∃ front entry back, blacklist = front ++ entry :: back ∧
        verdict? path entry = some verdict ∧ ∀ later ∈ back, verdict? path later = none := by
  rw [lastVerdict?, List.findSome?_eq_some_iff]
  constructor
  · rintro ⟨back, entry, front, hsplit, hverdict, hlater⟩
    refine ⟨front.reverse, entry, back.reverse, ?_, hverdict, by simpa using hlater⟩
    simpa using congrArg List.reverse hsplit
  · rintro ⟨front, entry, back, rfl, hverdict, hlater⟩
    exact ⟨back.reverse, entry, front.reverse, by simp, hverdict, by simpa using hlater⟩

/-! ## §2 Entries with a mark of negation -/

/-- The entry is a glob or a path, which are taken as they are, and starts with a mark of negation. -/
def IsNegation (entry : String) : Prop :=
  (entryChars entry).head? = some '!' ∧
    ((entryChars entry).any isWildcard = true ∨ '/' ∈ entryChars entry)

instance (entry : String) : Decidable (IsNegation entry) :=
  inferInstanceAs (Decidable (_ ∧ _))

/-- The pattern of a text is negated if the text starts with the mark. -/
theorem head?_of_negated {text : String} {p : Glob.Pattern} (h : Glob.ofText? text = some p)
    (hnegated : p.negated = true) : text.toList.head? = some '!' := by
  have hhead : (trimEndChars text.toList).head? = some '!' := by
    unfold Glob.ofText? at h
    split at h
    · cases h
    · cases h
    · cases h
    · simp [*]
    · obtain ⟨body, -, rfl⟩ := Option.map_eq_some_iff.mp h
      cases hnegated
  -- trimming the end takes nothing from the start
  obtain ⟨rest, hrest⟩ : trimEndChars text.toList <+: text.toList := List.rdropWhile_prefix ..
  rw [← hrest, List.head?_append, hhead]
  rfl

/-- **Who takes back**: only an entry with a mark of negation. Names are looked for as they are. -/
theorem isNegation_of_verdict (h : verdict? path entry = some false) : IsNegation entry := by
  obtain ⟨p, hp, hnegated⟩ := Option.map_eq_some_iff.mp h
  obtain ⟨hpattern, -⟩ := Option.filter_eq_some_iff.mp hp
  unfold patternOf? at hpattern
  split at hpattern
  · cases hpattern
  · -- only globs and paths reach the pattern language as they are written
    have hhead := head?_of_negated hpattern (by simpa using hnegated)
    unfold globOf at hhead
    dsimp only at hhead
    split at hhead
    · rename_i hkept
      refine ⟨by simpa using hhead, ?_⟩
      simpa using hkept
    · -- the glob of a name starts with folders
      split at hhead <;> simp at hhead

/-- No blacklist without marks of negation takes anything back. -/
theorem lastVerdict?_ne_of_forall (h : ∀ entry ∈ blacklist, ¬IsNegation entry) :
    lastVerdict? path blacklist ≠ some false := by
  intro hlast
  obtain ⟨front, entry, back, rfl, hverdict, -⟩ := lastVerdict?_eq_some_iff.mp hlast
  exact h entry (by simp) (isNegation_of_verdict hverdict)

end Exclusion

namespace Discovery

open Exclusion (IsNegation lastVerdict? specOf verdict?)

/-! ## §3 What is found with one entry more -/

variable {fs : FileSystem} {root : String} {place below : Place} {blacklist blacklist' : List String}
  {files files' : List String}

/-- Only source files are listed. -/
theorem exists_isSourceAt_of_mem (hfs : fs.WellFormed)
    (hroot : FileSystem.resolve fs.cwd root = .ok place)
    (hfiles : discover fs root blacklist = .ok files) {path : String} (hpath : path ∈ files) :
    ∃ below, IsSourceAt fs place below ∧ path = Path.placeText (place ++ below) := by
  obtain ⟨place', es, spec, hroot', hfolder, -, rfl⟩ := discover_eq_ok_iff.mp hfiles
  obtain rfl := Except.ok.inj (hroot.symm.trans hroot')
  obtain ⟨below, hfound, htext⟩ := (mem_keptFiles_iff hfs hfolder).mp (mem_sorted.mp hpath)
  exact ⟨below, hfound.toIsSourceAt, htext⟩

/-- A source file is listed if it is not left out. -/
theorem placeText_mem_iff (hfs : fs.WellFormed)
    (hroot : FileSystem.resolve fs.cwd root = .ok place)
    (hfiles : discover fs root blacklist = .ok files) (hsource : IsSourceAt fs place below) :
    Path.placeText (place ++ below) ∈ files ↔
      Exclusion.excludes (specOf blacklist) (relativeText below) = false := by
  obtain ⟨place', es, spec, hroot', hfolder, hspec, rfl⟩ := discover_eq_ok_iff.mp hfiles
  obtain rfl := Except.ok.inj (hroot.symm.trans hroot')
  obtain rfl := Exclusion.build_eq_ok hspec
  rw [mem_sorted, mem_keptFiles_iff hfs hfolder]
  constructor
  · rintro ⟨below', hfound, htext⟩
    -- what is listed under the text of this file can only be this file
    have hplace := Path.placeText_inj (hsource.isPlace hfs) (hfound.isPlace hfs) htext
    rw [List.append_cancel_left hplace]
    exact hfound.kept
  · intro hkept
    exact ⟨below, ⟨hsource, hkept⟩, rfl⟩

/-- **Adding words**: where a blacklist has further words on what another one leaves out, it finds no
    more than the other if none of them takes a source file back. -/
theorem subset_iff_of_verdict (hfs : fs.WellFormed)
    (hroot : FileSystem.resolve fs.cwd root = .ok place)
    (hfiles : discover fs root blacklist = .ok files)
    (hfiles' : discover fs root blacklist' = .ok files') (further? : String → Option Bool)
    (hfurther : ∀ path, Exclusion.excludes (specOf blacklist') path =
      (further? path).getD (Exclusion.excludes (specOf blacklist) path)) :
    files' ⊆ files ↔ ∀ below, IsSourceAt fs place below →
      Path.placeText (place ++ below) ∉ files → further? (relativeText below) ≠ some false := by
  constructor
  · intro hsubset below hsource hout htaken
    -- a file that is taken back is listed, so it would have been listed before
    apply hout
    apply hsubset
    rw [placeText_mem_iff hfs hroot hfiles' hsource, hfurther, htaken, Option.getD_some]
  · intro hnone path hpath
    obtain ⟨below, hsource, rfl⟩ := exists_isSourceAt_of_mem hfs hroot hfiles' hpath
    rw [placeText_mem_iff hfs hroot hfiles' hsource, hfurther] at hpath
    by_contra hout
    have hword := hnone below hsource hout
    rw [placeText_mem_iff hfs hroot hfiles hsource, Bool.not_eq_false] at hout
    -- left out before, so it takes a further word to list the file
    rw [hout] at hpath
    rcases Option.getD_eq_iff.mp hpath with htaken | ⟨-, hfalse⟩
    · exact hword htaken
    · cases hfalse

/-- **A further entry** only removes files if it takes back no source file that was left out, and the
    files that the fixed exclusions leave out stay so if the last word of the blacklist on none of
    them is that it is taken back. Both hold where no entry has a mark of negation. -/
theorem further_entry_removes_iff (fs : FileSystem) (hfs : fs.WellFormed) (root : String)
    (blacklist : List String) (entry : String) (files files' : List String)
    (hfiles : discover fs root blacklist = .ok files)
    (hfiles' : discover fs root (blacklist ++ [entry]) = .ok files') :
    ∃ place fixed, FileSystem.resolve fs.cwd root = .ok place ∧ discover fs root [] = .ok fixed ∧
      (files' ⊆ files ↔ ∀ below, IsSourceAt fs place below →
        Path.placeText (place ++ below) ∉ files →
          verdict? (relativeText below) entry ≠ some false) ∧
      (¬IsNegation entry → files' ⊆ files) ∧
      (files ⊆ fixed ↔ ∀ below, IsSourceAt fs place below →
        Path.placeText (place ++ below) ∉ fixed →
          lastVerdict? (relativeText below) blacklist ≠ some false) ∧
      ((∀ e ∈ blacklist, ¬IsNegation e) → files ⊆ fixed) := by
  obtain ⟨place, es, -, hroot, hfolder, -⟩ := discover_eq_ok_iff.mp hfiles
  have hnone : Exclusion.build [] = .ok (specOf []) := Exclusion.exists_build (by simp)
  have hfixed : discover fs root [] = .ok _ :=
    discover_eq_ok_iff.mpr ⟨place, es, _, hroot, hfolder, hnone, rfl⟩
  have hfurther := subset_iff_of_verdict hfs hroot hfiles hfiles'
    (fun path => verdict? path entry) (Exclusion.excludes_specOf_concat blacklist entry)
  -- all entries together are further words on what the fixed exclusions say
  have hlast := subset_iff_of_verdict hfs hroot hfixed hfiles
    (fun path => lastVerdict? path blacklist) fun path => by
      rw [Exclusion.excludes_specOf, specOf, List.filterMap_nil, List.append_nil]
  refine ⟨place, _, hroot, hfixed, hfurther, ?_, hlast, ?_⟩
  · intro hpositive
    refine hfurther.mpr fun below _ _ htaken => ?_
    exact hpositive (Exclusion.isNegation_of_verdict htaken)
  · intro hpositive
    exact hlast.mpr fun below _ _ => Exclusion.lastVerdict?_ne_of_forall hpositive

/-- A file of a package, and one of the project itself. -/
def vendored : FileSystem :=
  ⟨.folder [("node_modules", .folder [("a.ts", .file ⟨#[]⟩)]), ("b.ts", .file ⟨#[]⟩)], []⟩

theorem vendored_wellFormed : vendored.WellFormed := by
  decide

theorem vendored_discover {blacklist : List String}
    (h : Exclusion.build blacklist = .ok (specOf blacklist)) :
    ∃ files, discover vendored "/" blacklist = .ok files :=
  ⟨_, discover_eq_ok_iff.mpr ⟨[], _, _, by decide +kernel, rfl, h, rfl⟩⟩

/-- A name with an exclamation mark in front is a name like any other. -/
theorem marked_name_removes :
    vendored.WellFormed ∧ ¬IsNegation "!node_modules" ∧
    ∃ files files', discover vendored "/" ["b.ts"] = .ok files ∧
      discover vendored "/" (["b.ts"] ++ ["!node_modules"]) = .ok files' ∧ files' ⊆ files := by
  have hname : ¬IsNegation "!node_modules" := by decide
  have hplain : ∀ entry ∈ ["b.ts"], Exclusion.IsPlainEntry entry := by decide
  have hplain' : ∀ entry ∈ ["b.ts"] ++ ["!node_modules"], Exclusion.IsPlainEntry entry := by decide
  obtain ⟨files, hfiles⟩ := vendored_discover (Exclusion.exists_build hplain)
  obtain ⟨files', hfiles'⟩ := vendored_discover (Exclusion.exists_build hplain')
  obtain ⟨_, _, _, _, _, hremoves, _⟩ :=
    further_entry_removes_iff _ vendored_wellFormed "/" _ _ _ _ hfiles hfiles'
  exact ⟨vendored_wellFormed, hname, files, files', hfiles, hfiles', hremoves hname⟩

/-- **A package is found**: with a mark of negation, an entry undoes a fixed exclusion. -/
theorem negation_undoes_fixed :
    vendored.WellFormed ∧
    ∃ files files', discover vendored "/" [] = .ok files ∧
      discover vendored "/" ([] ++ ["!node_modules/"]) = .ok files' ∧
      "/node_modules/a.ts" ∈ files' ∧ "/node_modules/a.ts" ∉ files := by
  have hroot : FileSystem.resolve vendored.cwd "/" = .ok [] := by decide +kernel
  have hsource : IsSourceAt vendored [] ["node_modules", "a.ts"] := ⟨⟨_, rfl⟩, by decide +kernel⟩
  have htext : "/node_modules/a.ts" = Path.placeText ([] ++ ["node_modules", "a.ts"]) := rfl
  have hplain : ∀ entry ∈ [], Exclusion.IsPlainEntry entry := by simp
  have hsound : Exclusion.IsSound (Exclusion.globOf "!node_modules/") :=
    ⟨Glob.ofText? "!node_modules/", by decide +kernel⟩
  have hbuild := Exclusion.build_concat (Exclusion.exists_build hplain) hsound
  obtain ⟨files, hfiles⟩ := vendored_discover (Exclusion.exists_build hplain)
  obtain ⟨files', hfiles'⟩ := vendored_discover hbuild
  refine ⟨vendored_wellFormed, files, files', hfiles, hfiles', ?_, ?_⟩
  · -- the entry has the last word
    have hverdict : verdict? (relativeText ["node_modules", "a.ts"]) "!node_modules/" =
        some false := by decide +kernel
    rw [htext, placeText_mem_iff vendored_wellFormed hroot hfiles' hsource,
      Exclusion.excludes_specOf_concat, hverdict, Option.getD_some]
  · rw [htext, placeText_mem_iff vendored_wellFormed hroot hfiles hsource, Bool.not_eq_false]
    exact (Exclusion.excludes_specOf_iff hplain (by decide)).mpr (by decide)

end Discovery

end TsOutline
