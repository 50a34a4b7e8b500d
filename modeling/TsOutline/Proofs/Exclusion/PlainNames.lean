import Mathlib.Data.List.DropRight
import Mathlib.Data.List.Infix
import TsOutline.Proofs.Exclusion.Glob
import TsOutline.Proofs.Exclusion.Spec

/-!
# Plain Names in a Blacklist

A blacklist of plain names says which folders and files to leave out, wherever they are. A name without
a dot is that of a folder, so it leaves out what is below; a name with a dot may be that of a file as
well. Together with the fixed exclusions this is the whole meaning (`excludes_plain_iff`): the names of
a path decide, and it does not matter in which order or how often the entries stand in the list.
-/

namespace TsOutline

namespace Text

variable {c : Char} {cs : List Char}

theorem mem_dropWhile_isBlank (hc : isBlank c = false) : c ∈ cs.dropWhile isBlank ↔ c ∈ cs := by
  induction cs with
  | nil => rfl
  | cons d cs ih =>
    by_cases hd : isBlank d = true
    · -- what is dropped is blank, and the character is not
      have hne : c ≠ d := by
        rintro rfl
        rw [hc] at hd
        cases hd
      rw [List.dropWhile_cons_of_pos hd, ih, List.mem_cons, or_iff_right hne]
    · rw [List.dropWhile_cons_of_neg hd]

/-- Trimming keeps every character that is not blank. -/
theorem mem_toList_trim {s : String} (hc : isBlank c = false) :
    c ∈ (trim s).toList ↔ c ∈ s.toList := by
  rw [trim, String.toList_ofList, trimChars, List.mem_reverse, mem_dropWhile_isBlank hc,
    List.mem_reverse, mem_dropWhile_isBlank hc]

theorem trimEndChars_trim (s : String) : trimEndChars (trim s).toList = (trim s).toList := by
  rw [trim, String.toList_ofList, trimChars, trimEndChars, List.reverse_reverse,
    List.dropWhile_idempotent]

end Text

namespace Exclusion

open Text (join trim)
open TsOutline.Path (IsRelative)
open Glob (IsPlain Pattern)

/-! ## §1 The fixed exclusions -/

theorem ofText?_eq {glob : String} {p? : Option Pattern} (h : Glob.compile glob = .ok p?) :
    Glob.ofText? glob = p? :=
  (compile_eq_ok h).symm

theorem compile_folder {name : String} (h : IsPlain name) :
    Glob.compile ("**/" ++ name ++ "/**") = .ok (some (.below [name])) := by
  apply Glob.compile_below (List.cons_ne_nil name [])
  simpa using h

theorem compile_components :
    Glob.compile "**/src/components/ui/**" = .ok (some (.below ["src", "components", "ui"])) :=
  Glob.compile_below (List.cons_ne_nil "src" ["components", "ui"]) (by decide)

theorem isPlain_of_mem_folderNames {name : String} (h : name ∈ folderNames) : IsPlain name := by
  have hall : ∀ n ∈ folderNames, IsPlain n := by decide
  exact hall name h

/-- Every fixed glob can be compiled. -/
theorem isSound_of_mem_fixedGlobs {glob : String} (h : glob ∈ fixedGlobs) : IsSound glob := by
  simp only [fixedGlobs, List.mem_append, List.mem_map, List.mem_cons, List.not_mem_nil,
    or_false] at h
  rcases h with ⟨name, hname, rfl⟩ | rfl | rfl
  · exact ⟨_, compile_folder (isPlain_of_mem_folderNames hname)⟩
  · exact ⟨_, compile_components⟩
  · exact ⟨_, Glob.compile_belowStarting_env⟩

theorem fixedSpec_eq :
    fixedSpec = folderNames.map (fun name => Pattern.below [name]) ++
      [.below ["src", "components", "ui"], .belowStarting ".env"] := by
  have hfolders : (folderNames.map fun name => "**/" ++ name ++ "/**").filterMap Glob.ofText? =
      folderNames.map fun name => Pattern.below [name] := by
    rw [List.filterMap_map, ← List.filterMap_eq_map]
    apply List.filterMap_congr
    intro name hname
    exact ofText?_eq (compile_folder (isPlain_of_mem_folderNames hname))
  rw [fixedSpec, fixedGlobs, List.filterMap_append, hfolders]
  simp [ofText?_eq compile_components, ofText?_eq Glob.compile_belowStarting_env]

/-! ## §2 Entries that are plain names -/

/-- An entry that is a plain name once it is trimmed: it has neither a slash nor a backslash nor the
    sign of a wildcard. It may be blank. -/
@[mk_iff] structure IsPlainEntry (entry : String) : Prop where
  plain : IsPlain (trim entry)
  noBackslash : '\\' ∉ (trim entry).toList

instance (entry : String) : Decidable (IsPlainEntry entry) :=
  decidable_of_iff' _ (isPlainEntry_iff entry)

/-- A name with a dot may be a file, and any other is a folder. -/
def plainPattern (name : String) : Pattern :=
  if '.' ∈ name.toList then .named name else .below [name]

section Entries

variable {entry : String}

theorem dropHere_of_not_mem {cs : List Char} (h : '/' ∉ cs) : dropHere cs = cs := by
  fun_cases dropHere cs with
  | case1 cs => exact absurd (by simp) h
  | case2 => rfl

theorem entryChars_of_isPlainEntry (h : IsPlainEntry entry) :
    entryChars entry = (trim entry).toList := by
  have hslashes : (trim entry).toList.map (fun c => if c = '\\' then '/' else c) =
      (trim entry).toList := by
    rw [List.map_congr_left (g := id), List.map_id]
    intro c hc
    refine if_neg ?_
    rintro rfl
    exact h.noBackslash hc
  have htrim : Text.trimChars entry.toList = (trim entry).toList := by
    rw [trim, String.toList_ofList]
  rw [entryChars, htrim, hslashes, dropHere_of_not_mem h.plain.noSlash]

/-- **The glob of a plain name** is compiled to the pattern of that name. -/
theorem compile_globOf (h : IsPlainEntry entry) (hne : trim entry ≠ "") :
    Glob.compile (globOf entry) = .ok (some (plainPattern (trim entry))) := by
  have hnone : (trim entry).toList.any isWildcard = false := by
    simpa using h.plain.noWildcard
  unfold globOf plainPattern
  dsimp only
  rw [entryChars_of_isPlainEntry h, hnone, String.ofList_toList]
  by_cases hdot : '.' ∈ (trim entry).toList
  · simpa [h.plain.noSlash, hdot] using
      Glob.compile_named hne h.plain (Text.trimEndChars_trim entry)
  · simpa [h.plain.noSlash, hdot] using compile_folder h.plain

theorem patternOf?_eq_some_iff (h : IsPlainEntry entry) {p : Pattern} :
    patternOf? entry = some p ↔ trim entry ≠ "" ∧ plainPattern (trim entry) = p := by
  unfold patternOf?
  by_cases hne : trim entry = ""
  · simp [hne]
  · simp [hne, ofText?_eq (compile_globOf h hne)]

theorem plainPattern_positive (name : String) : (plainPattern name).negated = false := by
  unfold plainPattern
  split <;> rfl

theorem hits_plainPattern_iff {name : String} (h : IsPlain name) {place : Place}
    (hplace : IsRelative place) :
    (plainPattern name).hits (join "/" place) = true ↔
      if '.' ∈ name.toList then name ∈ place else name ∈ place.dropLast := by
  unfold plainPattern
  split
  · exact Pattern.hits_named_iff h.noSlash hplace
  · rw [Pattern.hits_below_iff (List.cons_ne_nil name []) (by simpa using h.noSlash) hplace,
      List.singleton_infix_iff]

end Entries

/-! ## §3 Blacklists of plain names -/

/-- Why the names of a path leave it out. All names but the last one are those of folders. -/
@[mk_iff] inductive IsLeftOut (blacklist : List String) (place : Place) : Prop where
  /-- It is below a folder that is never looked into. -/
  | fixedFolder (name : String) (mem : name ∈ place.dropLast) (fixed : name ∈ folderNames)
  /-- It is below a folder of environment settings. -/
  | environment (name : String) (mem : name ∈ place.dropLast)
      (start : Text.startsWith name ".env" = true)
  /-- It is below the folder of generated user-interface components. -/
  | components (neighbours : ["src", "components", "ui"] <:+: place.dropLast)
  /-- It is below a folder that an entry without a dot names. -/
  | folder (entry : String) (listed : entry ∈ blacklist) (nonblank : trim entry ≠ "")
      (noDot : '.' ∉ entry.toList) (mem : trim entry ∈ place.dropLast)
  /-- It is, or is below, what an entry with a dot names. -/
  | name (entry : String) (listed : entry ∈ blacklist) (dot : '.' ∈ entry.toList)
      (mem : trim entry ∈ place)

instance (blacklist : List String) (place : Place) : Decidable (IsLeftOut blacklist place) :=
  decidable_of_iff' _ (isLeftOut_iff blacklist place)

section Plain

variable {blacklist : List String} {place : Place}

theorem mem_specOf_iff (h : ∀ entry ∈ blacklist, IsPlainEntry entry) {p : Pattern} :
    p ∈ specOf blacklist ↔
      (∃ name ∈ folderNames, Pattern.below [name] = p) ∨
      p = .below ["src", "components", "ui"] ∨ p = .belowStarting ".env" ∨
      ∃ entry ∈ blacklist, trim entry ≠ "" ∧ plainPattern (trim entry) = p := by
  have hentries : (∃ entry ∈ blacklist, patternOf? entry = some p) ↔
      ∃ entry ∈ blacklist, trim entry ≠ "" ∧ plainPattern (trim entry) = p := by
    refine exists_congr fun entry => and_congr_right fun hentry => ?_
    exact patternOf?_eq_some_iff (h entry hentry)
  rw [specOf, fixedSpec_eq]
  simp only [List.mem_append, List.mem_map, List.mem_cons, List.not_mem_nil, or_false,
    List.mem_filterMap, hentries, or_assoc]

theorem specOf_positive (h : ∀ entry ∈ blacklist, IsPlainEntry entry) :
    ∀ p ∈ specOf blacklist, p.negated = false := by
  intro p hp
  rcases (mem_specOf_iff h).mp hp with ⟨name, _, rfl⟩ | rfl | rfl | ⟨entry, _, _, rfl⟩
  · rfl
  · rfl
  · rfl
  · exact plainPattern_positive _

theorem exists_build (h : ∀ entry ∈ blacklist, IsPlainEntry entry) :
    build blacklist = .ok (specOf blacklist) := by
  refine build_eq_ok_iff.mpr ⟨?_, rfl⟩
  intro g hg
  rcases List.mem_append.mp hg with hfixed | hentry
  · exact isSound_of_mem_fixedGlobs hfixed
  · obtain ⟨entry, hmem, rfl⟩ := List.mem_map.mp hentry
    obtain ⟨hlisted, hne⟩ := List.mem_filter.mp hmem
    exact ⟨_, compile_globOf (h entry hlisted) (of_decide_eq_true hne)⟩

/-- **The names of a path decide**: each pattern stands for one reason to leave a path out. -/
theorem excludes_specOf_iff (h : ∀ entry ∈ blacklist, IsPlainEntry entry)
    (hplace : IsRelative place) :
    excludes (specOf blacklist) (join "/" place) = true ↔ IsLeftOut blacklist place := by
  have hdot (entry : String) : '.' ∈ (trim entry).toList ↔ '.' ∈ entry.toList :=
    Text.mem_toList_trim (by decide)
  have hfolder (name : String) (hname : name ∈ folderNames) :=
    Pattern.hits_below_iff (List.cons_ne_nil name [])
      (by simpa using (isPlain_of_mem_folderNames hname).noSlash) hplace
  have hcomponents := Pattern.hits_below_iff (List.cons_ne_nil "src" ["components", "ui"])
    (by decide) hplace
  have henv : (Pattern.belowStarting ".env").hits (join "/" place) = true ↔
      ∃ name ∈ place.dropLast, Text.startsWith name ".env" = true :=
    Pattern.hits_belowStarting_iff (by decide) hplace
  rw [excludes_of_positive (specOf_positive h)]
  constructor
  · rintro ⟨p, hp, hhit⟩
    rcases (mem_specOf_iff h).mp hp with ⟨name, hname, rfl⟩ | rfl | rfl | ⟨entry, hentry, hne, rfl⟩
    · exact .fixedFolder name ((List.singleton_infix_iff name _).mp ((hfolder name hname).mp hhit)) hname
    · exact .components (hcomponents.mp hhit)
    · obtain ⟨name, hmem, hstart⟩ := henv.mp hhit
      exact .environment name hmem hstart
    · rw [hits_plainPattern_iff (h entry hentry).plain hplace] at hhit
      split at hhit
      · exact .name entry hentry ((hdot entry).mp ‹_›) hhit
      · exact .folder entry hentry hne (fun hmem => ‹¬_› ((hdot entry).mpr hmem)) hhit
  · intro hout
    cases hout with
    | fixedFolder name hmem hname =>
      refine ⟨_, (mem_specOf_iff h).mpr (.inl ⟨name, hname, rfl⟩), ?_⟩
      exact (hfolder name hname).mpr ((List.singleton_infix_iff name _).mpr hmem)
    | environment name hmem hstart =>
      refine ⟨_, (mem_specOf_iff h).mpr (.inr (.inr (.inl rfl))), ?_⟩
      exact henv.mpr ⟨name, hmem, hstart⟩
    | components hinfix =>
      exact ⟨_, (mem_specOf_iff h).mpr (.inr (.inl rfl)), hcomponents.mpr hinfix⟩
    | folder entry hentry hne hnodot hmem =>
      refine ⟨_, (mem_specOf_iff h).mpr (.inr (.inr (.inr ⟨entry, hentry, hne, rfl⟩))), ?_⟩
      rw [hits_plainPattern_iff (h entry hentry).plain hplace,
        if_neg fun hmem => hnodot ((hdot entry).mp hmem)]
      exact hmem
    | name entry hentry hhasdot hmem =>
      have hinside := (hdot entry).mpr hhasdot
      have hne : trim entry ≠ "" := by
        intro hempty
        rw [hempty] at hinside
        exact List.not_mem_nil hinside
      refine ⟨_, (mem_specOf_iff h).mpr (.inr (.inr (.inr ⟨entry, hentry, hne, rfl⟩))), ?_⟩
      rw [hits_plainPattern_iff (h entry hentry).plain hplace, if_pos hinside]
      exact hmem

end Plain

/-- **The meaning of a blacklist of plain names.** It can be compiled, and it leaves out a path below
    the root exactly if its names give a reason: a folder on the way that is never looked into, one
    that starts like an environment file, the folder of generated components, a folder that an entry
    without a dot names, or anything that an entry with a dot names. A list with the same entries, in
    any order and number, leaves out the same paths. -/
theorem excludes_plain_iff (blacklist : List String)
    (hplain : ∀ entry ∈ blacklist, IsPlainEntry entry) :
    ∃ spec, build blacklist = .ok spec ∧
      (∀ place, IsRelative place →
        (excludes spec (join "/" place) = true ↔ IsLeftOut blacklist place)) ∧
      ∀ blacklist', (∀ entry, entry ∈ blacklist' ↔ entry ∈ blacklist) →
        ∃ spec', build blacklist' = .ok spec' ∧
          ∀ path, excludes spec' path = excludes spec path := by
  refine ⟨_, exists_build hplain, fun place => excludes_specOf_iff hplain, ?_⟩
  intro blacklist' hsame
  have hplain' : ∀ entry ∈ blacklist', IsPlainEntry entry :=
    fun entry hentry => hplain entry ((hsame entry).mp hentry)
  refine ⟨_, exists_build hplain', ?_⟩
  intro path
  apply excludes_congr (specOf_positive hplain)
  intro p
  simp only [mem_specOf_iff hplain, mem_specOf_iff hplain', hsame]

/-- Three names, one of them with blanks around it, leave out what is below a folder and what has a
    name; a file whose name only starts like that of the folder stays. -/
theorem legacy_left_out :
    (∀ entry ∈ [" legacy ", "config.test.ts", "!x"], IsPlainEntry entry) ∧
    ∃ spec, build [" legacy ", "config.test.ts", "!x"] = .ok spec ∧
      excludes spec "src/legacy/a.ts" = true ∧ excludes spec "src/config.test.ts" = true ∧
      excludes spec "!x/a.ts" = true ∧ excludes spec "src/legacy.ts" = false := by
  have hplain : ∀ entry ∈ [" legacy ", "config.test.ts", "!x"], IsPlainEntry entry := by decide
  obtain ⟨spec, hspec, hmeaning, -⟩ := excludes_plain_iff _ hplain
  refine ⟨hplain, spec, hspec, ?_, ?_, ?_, ?_⟩
  · exact (hmeaning ["src", "legacy", "a.ts"] (by decide)).mpr (by decide)
  · exact (hmeaning ["src", "config.test.ts"] (by decide)).mpr (by decide)
  · exact (hmeaning ["!x", "a.ts"] (by decide)).mpr (by decide)
  · rw [← Bool.not_eq_true]
    exact (hmeaning ["src", "legacy.ts"] (by decide)).not.mpr (by decide)

end Exclusion

end TsOutline
