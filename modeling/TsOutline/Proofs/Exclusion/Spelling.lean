import TsOutline.Analysis.Settings
import TsOutline.Proofs.Config.Fields
import TsOutline.Proofs.Exclusion.PlainNames
import TsOutline.Proofs.Path

/-!
# Ways to Write a Blacklist

A blacklist can be given as a list, as one text with commas, or behind an option among arguments. A
list is kept as it is written, and its entries are trimmed when they are compiled; a text is split, and
the pieces are trimmed at once. What decides is the same for all of them: the entries without the
blanks around them, and without the blank ones (`cleaned`).

- **Trimming** (`Text.trim_trim`) can be done twice, so it does not matter where it is done.
- **Blanks** (`AlikeButBlanks`): lists that differ in them only are compiled alike.
- **Commas** (`entriesOf_join`): what was joined with them is taken apart again.
-/

namespace TsOutline

/-! ## §1 Trimming twice -/

namespace Text

/-- A text that starts without a blank still does when the blanks behind it are taken away. -/
theorem dropWhile_rdropWhile_of_head {cs : List Char} (h : cs.dropWhile isBlank = cs) :
    (cs.rdropWhile isBlank).dropWhile isBlank = cs.rdropWhile isBlank := by
  obtain ⟨rest, hrest⟩ : cs.rdropWhile isBlank <+: cs := List.rdropWhile_prefix ..
  cases hkept : cs.rdropWhile isBlank with
  | nil => rfl
  | cons c kept =>
    rw [hkept, List.cons_append] at hrest
    -- the first character is that of the whole text, which is not blank
    have hc : ¬isBlank c = true := by
      intro hblank
      rw [← hrest, List.dropWhile_cons_of_pos hblank] at h
      have hshort := (List.dropWhile_sublist (p := isBlank) (l := kept ++ rest)).length_le
      rw [h, List.length_cons] at hshort
      omega
    exact List.dropWhile_cons_of_neg hc

theorem trimChars_trimChars (cs : List Char) : trimChars (trimChars cs) = trimChars cs := by
  have hstart : (trimChars cs).dropWhile isBlank = trimChars cs :=
    dropWhile_rdropWhile_of_head (List.dropWhile_idempotent ..)
  have hend : (trimChars cs).rdropWhile isBlank = trimChars cs := List.rdropWhile_idempotent ..
  rw [trimChars, hstart]
  exact hend

@[simp] theorem trim_trim (s : String) : trim (trim s) = trim s := by
  rw [trim, trim, String.toList_ofList, trimChars_trimChars]

end Text

namespace Exclusion

open Text (trim pieces join)

variable {entries : List String} {entry : String}

/-! ## §2 Entries without blanks -/

/-- The entries without the blanks around them, blank ones dropped. -/
def cleaned (entries : List String) : List String :=
  (entries.map trim).filter (· ≠ "")

theorem mem_cleaned (h : entry ∈ cleaned entries) :
    entry ≠ "" ∧ trim entry = entry ∧ ∃ written ∈ entries, trim written = entry := by
  obtain ⟨hmem, hne⟩ := List.mem_filter.mp h
  obtain ⟨written, hwritten, rfl⟩ := List.mem_map.mp hmem
  exact ⟨of_decide_eq_true hne, Text.trim_trim written, written, hwritten, rfl⟩

theorem cleaned_cleaned (entries : List String) : cleaned (cleaned entries) = cleaned entries := by
  have htrimmed : (cleaned entries).map trim = cleaned entries := by
    rw [List.map_congr_left (g := id) fun e he => (mem_cleaned he).2.1, List.map_id]
  rw [cleaned, htrimmed, List.filter_eq_self]
  exact fun e he => decide_eq_true (mem_cleaned he).1

theorem globOf_trim (entry : String) : globOf (trim entry) = globOf entry := by
  have hchars : entryChars (trim entry) = entryChars entry := by
    rw [entryChars, trim, String.toList_ofList, Text.trimChars_trimChars, entryChars]
  rw [globOf, hchars, globOf]

theorem globs_cleaned (entries : List String) : globs (cleaned entries) = globs entries := by
  have hall : (cleaned entries).filter (fun e => trim e ≠ "") = cleaned entries := by
    rw [List.filter_eq_self]
    intro e he
    rw [(mem_cleaned he).2.1]
    exact decide_eq_true (mem_cleaned he).1
  have hglobs : (cleaned entries).map globOf =
      (entries.filter fun e => trim e ≠ "").map globOf := by
    simp only [cleaned, List.filter_map, List.map_map, Function.comp_def, globOf_trim]
  rw [globs, globs, hall, hglobs]

/-- **A list is compiled** as its entries without blanks are, and fails as they do. -/
theorem build_cleaned (entries : List String) : build (cleaned entries) = build entries := by
  rw [build, build, globs_cleaned]

/-- Two lists that differ only in blank entries and in the blanks around entries. -/
inductive AlikeButBlanks : List String → List String → Prop where
  | nil : AlikeButBlanks [] []
  | blankLeft {x : String} {xs ys : List String} :
      trim x = "" → AlikeButBlanks xs ys → AlikeButBlanks (x :: xs) ys
  | blankRight {y : String} {xs ys : List String} :
      trim y = "" → AlikeButBlanks xs ys → AlikeButBlanks xs (y :: ys)
  | same {x y : String} {xs ys : List String} :
      trim x = trim y → AlikeButBlanks xs ys → AlikeButBlanks (x :: xs) (y :: ys)

theorem cleaned_cons_of_blank (h : trim entry = "") (entries : List String) :
    cleaned (entry :: entries) = cleaned entries := by
  rw [cleaned, List.map_cons, h]
  rfl

/-- Such lists have the same entries once blanks are left out. -/
theorem AlikeButBlanks.cleaned_eq {xs ys : List String} (h : AlikeButBlanks xs ys) :
    cleaned xs = cleaned ys := by
  -- blank entries leave nothing on either side, others leave the same trimmed text
  induction h with
  | nil => rfl
  | blankLeft hblank _ ih => rw [cleaned_cons_of_blank hblank, ih]
  | blankRight hblank _ ih => rw [cleaned_cons_of_blank hblank, ih]
  | same htrim _ ih =>
    unfold cleaned at ih ⊢
    rw [List.map_cons, List.map_cons, htrim, List.filter_cons, List.filter_cons, ih]

/-! ## §3 Entries in one text -/

theorem entriesOf_eq_cleaned (value : String) : entriesOf value = cleaned (pieces ',' value) :=
  rfl

/-- **Entries joined with commas** are taken apart again, without their blanks. -/
theorem entriesOf_join (hcomma : ∀ e ∈ entries, ',' ∉ e.toList) :
    entriesOf (join "," entries) = cleaned entries := by
  by_cases hnil : entries = []
  · -- nothing joined is the empty text, which is one blank piece
    subst hnil
    decide
  · rw [entriesOf_eq_cleaned, Text.pieces_join_separator (by decide) hnil hcomma]

theorem mem_entriesOf {value : String} (h : entry ∈ entriesOf value) :
    entry ≠ "" ∧ trim entry = entry ∧ ',' ∉ entry.toList := by
  obtain ⟨hne, htrim, piece, hpiece, rfl⟩ := mem_cleaned h
  refine ⟨hne, htrim, ?_⟩
  -- trimming keeps commas and adds none, and a piece has none to start with
  obtain ⟨p, hp, rfl⟩ := List.mem_map.mp hpiece
  rw [Text.mem_toList_trim (by decide), String.toList_ofList]
  exact Text.not_mem_of_mem_piecesOf hp

/-! ## §4 Entries among arguments -/

/-- A search for a word finds what follows its first occurrence. -/
theorem argumentAfter?_append {word : String} {before : List String} (h : word ∉ before)
    (value : String) (after : List String) :
    argumentAfter? word (before ++ word :: value :: after) = some value := by
  induction before with
  | nil => exact if_pos rfl
  | cons a rest ih =>
    obtain ⟨ha, hrest⟩ := not_or.mp (mt List.mem_cons.mpr h)
    rw [List.cons_append, argumentAfter?, if_neg fun heq => ha heq.symm, ih hrest]

theorem ofArguments_append {before : List String} (h : option ∉ before) (value : String)
    (after : List String) : ofArguments (before ++ option :: value :: after) = entriesOf value := by
  rw [ofArguments, argumentAfter?_append h]

/-! ## §5 Every way -/

/-- Whether a blacklist leaves out a path, if it can be compiled. -/
def leavesOut (blacklist : List String) (path : String) : Except Glob.RangeFault Bool :=
  (build blacklist).map fun spec => excludes spec path

theorem leavesOut_cleaned (entries : List String) (path : String) :
    leavesOut (cleaned entries) path = leavesOut entries path := by
  rw [leavesOut, build_cleaned, leavesOut]

/-- **The way a blacklist is written does not matter.** Let `entries` have no comma. A configuration is
    accepted with the list of them exactly if it is with the text that joins them, and keeps the list,
    or the entries of the text; an option that is first followed by that text gives these entries too;
    and both leave out the same paths, or have the same glob that cannot be compiled. Entries that
    differ in blanks only leave out the same paths, and the same entries are read from the text that
    joins them. What is read from any text are trimmed entries with neither blank ones nor commas, and
    reading the text that joins them gives them back. -/
theorem blacklist_written_alike (entries : List String) (hcomma : ∀ e ∈ entries, ',' ∉ e.toList) :
    let joined := join "," entries
    (∀ fields : Config.Fields,
      let listed := Config.ofFields (Config.setField "blacklist" (Settings.textsValue entries) fields)
      (∀ c, listed = .ok c → c.blacklist = entries) ∧
        Config.ofFields (Config.setField "blacklist" (.text joined) fields) =
          listed.map fun c => c.withBlacklist (entriesOf joined)) ∧
    (∀ before after, option ∉ before →
      ofArguments (before ++ option :: joined :: after) = entriesOf joined) ∧
    (∀ path, leavesOut (entriesOf joined) path = leavesOut entries path) ∧
    (∀ spaced, AlikeButBlanks spaced entries →
      (∀ path, leavesOut spaced path = leavesOut entries path) ∧
        ((∀ e ∈ spaced, ',' ∉ e.toList) → entriesOf (join "," spaced) = entriesOf joined)) ∧
    ∀ value,
      (∀ e ∈ entriesOf value, e ≠ "" ∧ trim e = e ∧ ',' ∉ e.toList) ∧
        entriesOf (join "," (entriesOf value)) = entriesOf value := by
  intro joined
  have hjoined : entriesOf joined = cleaned entries := entriesOf_join hcomma
  refine ⟨fun fields => ?_, fun before after hbefore => ofArguments_append hbefore joined after,
    fun path => ?_, fun spaced hspaced => ⟨fun path => ?_, fun hspacedComma => ?_⟩,
    fun value => ⟨fun e he => mem_entriesOf he, ?_⟩⟩
  · exact ⟨fun c hc => Config.blacklist_of_setField
      (Config.checkedBlacklist_textsValue _ entries) hc,
      Config.ofFields_setBlacklist_congr (Config.checkedBlacklist_textsValue _ entries) rfl fields⟩
  · rw [hjoined, leavesOut_cleaned]
  · rw [← leavesOut_cleaned, hspaced.cleaned_eq, leavesOut_cleaned]
  · rw [entriesOf_join hspacedComma, hspaced.cleaned_eq, hjoined]
  · rw [entriesOf_join fun e he => (mem_entriesOf he).2.2, entriesOf_eq_cleaned, cleaned_cleaned]

/-- Two entries in blanks, and a blank one between them. -/
def spacedEntries : List String := [" legacy", "", "*.gen.ts "]

/-- As a list, as one text and behind an option they leave out the same paths. -/
theorem spacedEntries_written_alike :
    (∀ e ∈ spacedEntries, ',' ∉ e.toList) ∧
    Config.ofFields [("blacklist", Settings.textsValue spacedEntries)] =
      .ok (Config.default.withBlacklist spacedEntries) ∧
    Config.ofFields [("blacklist", .text " legacy,,*.gen.ts ")] =
      .ok (Config.default.withBlacklist ["legacy", "*.gen.ts"]) ∧
    ofArguments ["--config", "c.yaml", "--blacklist", " legacy,,*.gen.ts ", "--blacklist", "src"] =
      ["legacy", "*.gen.ts"] ∧
    (∀ path, leavesOut ["legacy", "*.gen.ts"] path = leavesOut spacedEntries path) ∧
    AlikeButBlanks ["legacy", "*.gen.ts", "\t"] spacedEntries ∧
    (∀ path, leavesOut ["legacy", "*.gen.ts", "\t"] path = leavesOut spacedEntries path) ∧
    leavesOut spacedEntries "src/legacy/a.ts" = .ok true := by
  have hcomma : ∀ e ∈ spacedEntries, ',' ∉ e.toList := by decide
  have halike : AlikeButBlanks ["legacy", "*.gen.ts", "\t"] spacedEntries :=
    .same (by decide +kernel) (.blankRight (by decide +kernel)
      (.same (by decide +kernel) (.blankLeft (by decide +kernel) .nil)))
  have hlisted : Config.ofFields [("blacklist", Settings.textsValue spacedEntries)] =
      .ok (Config.default.withBlacklist spacedEntries) := rfl
  have hjoined : join "," spacedEntries = " legacy,,*.gen.ts " := by decide +kernel
  have hentries : entriesOf " legacy,,*.gen.ts " = ["legacy", "*.gen.ts"] := by decide +kernel
  obtain ⟨hfields, hoption, hpaths, hspaced, -⟩ := blacklist_written_alike spacedEntries hcomma
  rw [hjoined, hentries] at hoption hpaths
  have htext := (hfields []).2
  rw [hjoined, hentries, Config.setField, Config.setField, hlisted] at htext
  exact ⟨hcomma, hlisted, htext, hoption ["--config", "c.yaml"] ["--blacklist", "src"] (by decide),
    hpaths, halike, (hspaced _ halike).1, by decide +kernel⟩

end Exclusion

end TsOutline
