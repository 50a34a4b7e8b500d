import TsOutline.Analysis.Settings
import TsOutline.Config.Load

/-!
# Configurations and Their Fields

A configuration is read from loose fields, each under its name, and the fields are put together from a
config file and from overrides.

- **Looking up** (`fieldValue?_setFields`): after fields were set one after the other, a name has the
  value that was set last, or the value that it had.
- **Reading** (`ofFields_eq_ok_iff`): which configuration fields are read to is decided by the six
  settings and by the fields that are none. So setting one of the six changes that setting only.
- **Loading** (`load_of_fileFields`): overrides are set after the fields of the config file.
-/

namespace TsOutline

namespace Config

/-! ## §1 Looking up -/

section Lookup

variable {name : String}

theorem fieldValue?_cons (p : String × Value) (rest : Fields) (n : String) :
    fieldValue? (p :: rest) n = if p.1 = n then some p.2 else fieldValue? rest n := by
  unfold fieldValue?
  by_cases hp : p.1 = n <;> simp [hp]

theorem fieldValue?_setField (name : String) (v : Value) (fields : Fields) (n : String) :
    fieldValue? (setField name v fields) n =
      if name = n then some v else fieldValue? fields n := by
  induction fields with
  | nil => rw [setField, fieldValue?_cons]
  | cons p rest ih =>
    unfold setField
    by_cases hp : p.1 = name
    · -- the field is replaced where it stands, and the rest is not looked at
      rw [if_pos (by simpa using hp), fieldValue?_cons, fieldValue?_cons, hp]
      split <;> rfl
    · rw [if_neg (by simpa using hp), fieldValue?_cons, fieldValue?_cons, ih]
      by_cases hn : name = n
      · have hpn : p.1 ≠ n := fun heq => hp (heq.trans hn.symm)
        rw [if_pos hn, if_neg hpn, if_pos hn]
      · rw [if_neg hn, if_neg hn]

/-- The last value under a name. -/
def lastValue? (name : String) (entries : Fields) : Option Value :=
  ((entries.filter fun p => p.1 = name).getLast?).map (·.2)

theorem lastValue?_cons (name : String) (p : String × Value) (rest : Fields) :
    lastValue? name (p :: rest) =
      (lastValue? name rest).or (if p.1 = name then some p.2 else none) := by
  unfold lastValue?
  by_cases hp : p.1 = name
  · -- this value is the last one only if no other follows under the name
    rw [List.filter_cons_of_pos (by simpa using hp), List.getLast?_cons, if_pos hp]
    cases (rest.filter fun q => q.1 = name).getLast? <;> rfl
  · rw [List.filter_cons_of_neg (by simpa using hp), if_neg hp, Option.or_none]

theorem lastValue?_append (name : String) (entries more : Fields) :
    lastValue? name (entries ++ more) = (lastValue? name more).or (lastValue? name entries) := by
  induction entries with
  | nil => rw [List.nil_append]; exact (Option.or_none).symm
  | cons p rest ih =>
    rw [List.cons_append, lastValue?_cons, ih, lastValue?_cons, Option.or_assoc]

/-- **The last value wins** where fields are set one after the other. -/
theorem fieldValue?_setFields (fields new : Fields) (name : String) :
    fieldValue? (setFields fields new) name =
      (lastValue? name new).or (fieldValue? fields name) := by
  -- on what is set: a field that is set first can still be overwritten by the rest
  induction new generalizing fields with
  | nil => rfl
  | cons p rest ih =>
    have hcons : setFields fields (p :: rest) = setFields (setField p.1 p.2 fields) rest := rfl
    rw [hcons, ih, fieldValue?_setField, lastValue?_cons, Option.or_assoc]
    split <;> rfl

/-- Setting a field adds its name if there was none. -/
theorem map_fst_setField (name : String) (v : Value) (fields : Fields) :
    (setField name v fields).map Prod.fst =
      if name ∈ fields.map Prod.fst then fields.map Prod.fst else fields.map Prod.fst ++ [name] := by
  induction fields with
  | nil => rfl
  | cons p rest ih =>
    unfold setField
    by_cases hp : p.1 = name
    · rw [if_pos (by simpa using hp), List.map_cons, List.map_cons, hp,
        if_pos (List.mem_cons_self ..)]
    · have hmem : name ∈ (p :: rest).map Prod.fst ↔ name ∈ rest.map Prod.fst := by
        rw [List.map_cons, List.mem_cons, or_iff_right fun heq => hp heq.symm]
      rw [if_neg (by simpa using hp), List.map_cons, ih]
      simp only [hmem]
      split <;> rfl

theorem nodup_setFields {fields : Fields} (h : (fields.map Prod.fst).Nodup) (new : Fields) :
    ((setFields fields new).map Prod.fst).Nodup := by
  induction new generalizing fields with
  | nil => exact h
  | cons p rest ih =>
    have hset : ((setField p.1 p.2 fields).map Prod.fst).Nodup := by
      rw [map_fst_setField]
      split
      · exact h
      · -- a name that is not there yet is added behind the others
        rename_i hnew
        exact List.nodup_append.mpr ⟨h, List.pairwise_singleton _ _, fun a ha b hb heq =>
          hnew (List.mem_singleton.mp hb ▸ heq ▸ ha)⟩
    exact ih hset

/-- A field of a setting is not among the unknown fields. -/
theorem filter_setField (h : name ∈ fieldNames) (v : Value) (fields : Fields) :
    (setField name v fields).filter (fun p => !fieldNames.contains p.1) =
      fields.filter fun p => !fieldNames.contains p.1 := by
  induction fields with
  | nil => rw [setField, List.filter_cons_of_neg (by simp [h])]
  | cons p rest ih =>
    unfold setField
    by_cases hp : p.1 = name
    · rw [if_pos (by simpa using hp), List.filter_cons_of_neg (by simp [h]),
        List.filter_cons_of_neg (by simp [hp, h])]
    · rw [if_neg (by simpa using hp), List.filter_cons, List.filter_cons, ih]

theorem filter_setFields {new : Fields} (h : ∀ p ∈ new, p.1 ∈ fieldNames) (fields : Fields) :
    (setFields fields new).filter (fun p => !fieldNames.contains p.1) =
      fields.filter fun p => !fieldNames.contains p.1 := by
  induction new generalizing fields with
  | nil => rfl
  | cons p rest ih =>
    obtain ⟨hp, hrest⟩ := List.forall_mem_cons.mp h
    exact (ih hrest (setField p.1 p.2 fields)).trans (filter_setField hp p.2 fields)

/-- The unknown fields keep their values. -/
theorem fieldValue?_filter (h : name ∉ fieldNames) (fields : Fields) :
    fieldValue? (fields.filter fun p => !fieldNames.contains p.1) name = fieldValue? fields name := by
  unfold fieldValue?
  rw [List.find?_filter]
  congr 2
  funext p
  by_cases hp : p.1 = name <;> simp [hp, h]

end Lookup

/-! ## §2 Reading -/

section Reading

variable {fields : Fields} {c : Config} {v : Value}

/-- **The fields are read to a configuration**: each setting from the field under its name, or its
    default, and all fields that are no settings are kept. -/
structure Reads (fields : Fields) (c : Config) : Prop where
  workspace : fieldOr fields "workspace" default.workspace checkedWorkspace = .ok c.workspace
  blacklist : fieldOr fields "blacklist" default.blacklist checkedBlacklist = .ok c.blacklist
  typeDepth : fieldOr fields "type_depth" default.typeDepth (fun n => checkedAs n readDepth) =
    .ok c.typeDepth
  exportedOnly : fieldOr fields "exported_only" default.exportedOnly (fun n => checkedAs n readTruth) =
    .ok c.exportedOnly
  includeTypes : fieldOr fields "include_types" default.includeTypes (fun n => checkedAs n readTruth) =
    .ok c.includeTypes
  routerFactories : fieldOr fields "router_factories" default.routerFactories checkedTexts =
    .ok c.routerFactories
  extras : c.extras = fields.filter fun p => !fieldNames.contains p.1

theorem ofFields_eq_ok_iff : ofFields fields = .ok c ↔ Reads fields c := by
  unfold ofFields
  dsimp only
  constructor
  · intro h
    split at h
    · rename_i hw hb hd he ht hf
      cases h
      exact ⟨hw, hb, hd, he, ht, hf, rfl⟩
    · cases h
  · rintro ⟨hw, hb, hd, he, ht, hf, hextras⟩
    rw [hw, hb, hd, he, ht, hf, ← hextras]

theorem fieldOr_congr {α : Type} {fields fields' : Fields} {n : String}
    (h : fieldValue? fields' n = fieldValue? fields n) (fallback : α)
    (check : String → Value → Checked α) :
    fieldOr fields' n fallback check = fieldOr fields n fallback check := by
  rw [fieldOr, h]
  rfl

theorem fieldOr_setField_of_ne {α : Type} {n name : String} (h : name ≠ n) (v : Value)
    (fields : Fields) (fallback : α) (check : String → Value → Checked α) :
    fieldOr (setField name v fields) n fallback check = fieldOr fields n fallback check := by
  apply fieldOr_congr
  rw [fieldValue?_setField, if_neg h]

theorem fieldOr_setField_self {α : Type} {name : String} {check : String → Value → Checked α} {a : α}
    (h : check name v = .ok a) (fields : Fields) (fallback : α) :
    fieldOr (setField name v fields) name fallback check = .ok a := by
  rw [fieldOr, fieldValue?_setField, if_pos rfl]
  exact h

theorem fieldOr_of_some {α : Type} {n : String} (h : fieldValue? fields n = some v) (fallback : α)
    (check : String → Value → Checked α) : fieldOr fields n fallback check = check n v := by
  rw [fieldOr, h]

theorem fieldOr_of_none {α : Type} {n : String} (h : fieldValue? fields n = none) (fallback : α)
    (check : String → Value → Checked α) : fieldOr fields n fallback check = .ok fallback := by
  rw [fieldOr, h]

/-- The configuration with another workspace. -/
def withWorkspace (c : Config) (path : String) : Config :=
  { c with workspace := some path }

/-- The configuration with another blacklist. -/
def withBlacklist (c : Config) (entries : List String) : Config :=
  { c with blacklist := entries }

/-- An overridden workspace changes the workspace only. -/
theorem ofFields_setWorkspace (h : ofFields fields = .ok c) (path : String) :
    ofFields (setField "workspace" (.text path) fields) =
      .ok (c.withWorkspace path) := by
  obtain ⟨-, hb, hd, he, ht, hf, hextras⟩ := ofFields_eq_ok_iff.mp h
  -- the other five settings are read as before
  rw [ofFields_eq_ok_iff]
  refine ⟨?_, ?_, ?_, ?_, ?_, ?_, ?_⟩
  · exact fieldOr_setField_self rfl fields _
  · rwa [fieldOr_setField_of_ne (by decide)]
  · rwa [fieldOr_setField_of_ne (by decide)]
  · rwa [fieldOr_setField_of_ne (by decide)]
  · rwa [fieldOr_setField_of_ne (by decide)]
  · rwa [fieldOr_setField_of_ne (by decide)]
  · rw [filter_setField (by decide)]
    exact hextras

/-! ### The blacklist -/

theorem itemIssues_map_text (name : String) (n : Nat) (texts : List String) :
    itemIssues name n (texts.map .text) = [] := by
  induction texts generalizing n with
  | nil => rfl
  | cons t rest ih => exact ih (n + 1)

theorem textsOf_map_text (texts : List String) : textsOf (texts.map .text) = texts := by
  rw [textsOf, List.filterMap_map]
  exact List.filterMap_some

/-- A list of texts is a blacklist as it is. -/
theorem checkedBlacklist_textsValue (name : String) (entries : List String) :
    checkedBlacklist name (Settings.textsValue entries) = .ok entries := by
  show checkedTexts name (.list (entries.map .text)) = _
  rw [checkedTexts, itemIssues_map_text, textsOf_map_text]

variable {b : List String}

/-- Fields that differ from others in the blacklist only are read to a configuration that does. -/
theorem Reads.withBlacklist {fields' : Fields} (h : Reads fields c)
    (hsame : ∀ n, n ≠ "blacklist" → fieldValue? fields' n = fieldValue? fields n)
    (hextras : fields'.filter (fun p => !fieldNames.contains p.1) =
      fields.filter fun p => !fieldNames.contains p.1)
    (hblacklist : fieldOr fields' "blacklist" default.blacklist checkedBlacklist = .ok b) :
    Reads fields' (c.withBlacklist b) where
  workspace := (fieldOr_congr (hsame _ (by decide)) _ _).trans h.workspace
  blacklist := hblacklist
  typeDepth := (fieldOr_congr (hsame _ (by decide)) _ _).trans h.typeDepth
  exportedOnly := (fieldOr_congr (hsame _ (by decide)) _ _).trans h.exportedOnly
  includeTypes := (fieldOr_congr (hsame _ (by decide)) _ _).trans h.includeTypes
  routerFactories := (fieldOr_congr (hsame _ (by decide)) _ _).trans h.routerFactories
  extras := h.extras.trans hextras.symm

/-- A blacklist that is set is that of the configuration. -/
theorem blacklist_of_setField (h : checkedBlacklist "blacklist" v = .ok b)
    (hof : ofFields (setField "blacklist" v fields) = .ok c) : c.blacklist = b := by
  have hread := (ofFields_eq_ok_iff.mp hof).blacklist
  rw [fieldOr_setField_self h] at hread
  exact (Except.ok.inj hread).symm

/-- **One blacklist or another**: the fields are accepted with both or with neither, and the rest of the
    configuration, or of what is wrong, stays the same. -/
theorem ofFields_setBlacklist_congr {v' : Value} {b' : List String}
    (h : checkedBlacklist "blacklist" v = .ok b) (h' : checkedBlacklist "blacklist" v' = .ok b')
    (fields : Fields) :
    ofFields (setField "blacklist" v' fields) =
      (ofFields (setField "blacklist" v fields)).map fun c => c.withBlacklist b' := by
  unfold ofFields
  dsimp only
  rw [fieldOr_setField_self h, fieldOr_setField_self h', filter_setField (by decide),
    filter_setField (by decide)]
  -- the other five settings are read alike on both sides
  iterate 5 rw [fieldOr_setField_of_ne (by decide), fieldOr_setField_of_ne (by decide)]
  split
  · rename_i hw hb hd he ht hf
    cases hb
    rw [hw, hd, he, ht, hf]
    rfl
  · -- something else is wrong, and it is wrong with the other blacklist too
    rename_i hbad
    split
    · rename_i hw hb hd he ht hf
      exact absurd hf (hbad _ _ _ _ _ _ hw rfl hd he ht)
    · rfl

end Reading

/-! ## §3 Loading -/

section Loading

variable {fs : FileSystem} {readData : DataReader} {path? : Option String} {c : Config}
  {warnings : List Warning} {fields : Fields}

/-- Overrides that say something are set after the fields of the config file. -/
theorem load_of_fileFields (h : fileFields fs readData path? = (.ok fields, warnings))
    (overrides : Fields) :
    load fs readData path? overrides =
      ((ofFields (setFields fields (givenOverrides overrides))).mapError .invalid, warnings) := by
  unfold load
  rw [h]
  dsimp only
  cases ofFields (setFields fields (givenOverrides overrides)) <;> rfl

/-- What is loaded was read from fields of the config file. -/
theorem exists_fileFields_of_load {overrides : Fields}
    (h : load fs readData path? overrides = (.ok c, warnings)) :
    ∃ fields, fileFields fs readData path? = (.ok fields, warnings) ∧
      ofFields (setFields fields (givenOverrides overrides)) = .ok c := by
  cases hfields : fileFields fs readData path? with
  | mk result found =>
    cases result with
    | error fault =>
      unfold load at h
      rw [hfields] at h
      cases h
    | ok fields =>
      rw [load_of_fileFields hfields] at h
      obtain ⟨hresult, rfl⟩ := Prod.mk.inj h
      refine ⟨fields, rfl, ?_⟩
      cases hof : ofFields (setFields fields (givenOverrides overrides)) with
      | error issues =>
        rw [hof] at hresult
        cases hresult
      | ok c' =>
        rw [hof] at hresult
        rw [Except.ok.inj hresult]

/-- A config file that can be read is loaded. -/
theorem load_of_file {text : String} {v : Value}
    (hfile : fs.isFile (Path.normalText (pathOr path?)) = .ok true)
    (hread : fs.read (Path.normalText (pathOr path?)) = .ok text) (hdata : readData text = some v)
    (hfields : fieldsOfData v = .ok fields) (hconfig : ofFields fields = .ok c) :
    load fs readData path? [] = (.ok c, []) := by
  have hloaded : fileFields fs readData path? = (.ok fields, []) := by
    unfold fileFields readFields
    rw [hfile]
    dsimp only
    rw [hread]
    dsimp only
    rw [hdata]
    dsimp only
    rw [hfields]
  have hnone : setFields fields (givenOverrides []) = fields := rfl
  rw [load_of_fileFields hloaded, hnone, hconfig]
  rfl

theorem load_setWorkspace (h : load fs readData path? [] = (.ok c, warnings)) (path : String) :
    load fs readData path? [("workspace", .text path)] =
      (.ok (c.withWorkspace path), warnings) := by
  obtain ⟨fields, hfields, hof⟩ := exists_fileFields_of_load h
  -- overrides come after the file, so the file is read to the same fields
  have hset : setFields fields (givenOverrides [("workspace", .text path)]) =
      setField "workspace" (.text path) fields := rfl
  have hnone : setFields fields (givenOverrides []) = fields := rfl
  rw [hnone] at hof
  rw [load_of_fileFields hfields, hset, ofFields_setWorkspace hof]
  rfl

end Loading

end Config

end TsOutline
