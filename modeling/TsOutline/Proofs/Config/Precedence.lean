import TsOutline.Proofs.Config.Fields
import TsOutline.Proofs.Discovery

/-!
# Precedence of Settings

A setting comes from the overrides, else from the config file, and else it has its default.

- **Data** (`fieldsOfData_eq_ok_iff`): a value of a config file gives fields if it is a mapping or a
  list of pairs, and all of its keys are texts.
- **Files** (`fileFields_of_supplies`, `fileFields_of_refuses`): what a config file supplies, and what it
  is refused for.
- **Merging** (`fieldValue?_merged`): a null among the overrides says nothing; a null in the file does.
- **Loading** (`load_precedence`): the merged mapping is what the configuration is read from.
-/

namespace TsOutline

/-! ## §1 A file or none -/

namespace FileSystem

variable {fs : FileSystem} {path : String}

/-- The fault of a length tells the path. -/
theorem eq_of_locate_eq_tooLong {path' : String} (h : fs.locate path = .error (.tooLong path')) :
    path' = path := by
  unfold locate at h
  split at h
  · cases h
  · split at h
    · cases h
    · split at h
      · cases h
        rfl
      · exact eq_of_follow_eq_tooLong h

/-- A path leads to a file or to none, if it is not too long to be looked up. -/
theorem isFile_cases (fs : FileSystem) (path : String) :
    fs.isFile path = .ok false ∨ (∃ bytes, fs.entry? path = some (.file bytes)) ∨
      fs.locate path = .error (.tooLong path) := by
  cases hlocate : fs.locate path with
  | ok place =>
    cases hat : fs.root.at? place with
    | none =>
      left
      rw [isFile, probe, hlocate]
      dsimp only
      rw [hat]
      rfl
    | some e =>
      cases e with
      | file bytes =>
        right; left
        refine ⟨bytes, ?_⟩
        unfold entry?
        rw [hlocate]
        exact hat
      | folder es =>
        left
        rw [isFile, probe, hlocate]
        dsimp only
        rw [hat]
        rfl
  | error fault =>
    cases fault with
    | tooLong path' => exact .inr (.inr (by rw [eq_of_locate_eq_tooLong hlocate]))
    -- all other faults mean that there is no such file
    | missing _ | notFolder _ | isFolder _ | nullByte =>
      left
      rw [isFile, probe, hlocate]
      rfl

theorem isFile_of_tooLong (h : fs.locate path = .error (.tooLong path)) :
    fs.isFile path = .error (.tooLong path) := by
  rw [isFile, probe, h]
  rfl

end FileSystem

namespace Config

/-! ## §2 Data as fields -/

section Data

variable {v : Value} {items : List Value} {entries : List (Value × Value)} {fields : Fields}

/-- The item is a pair of key and value: it has two members. A text of two characters is one. -/
def IsPair (item : Value) (entry : Value × Value) : Prop :=
  item.members? = some [entry.1, entry.2]

/-- The value is a mapping with these entries, or the list of them. -/
inductive HasEntries : Value → List (Value × Value) → Prop where
  | mapping (entries : List (Value × Value)) : HasEntries (.map entries) entries
  | pairs {items : List Value} {entries : List (Value × Value)} :
      List.Forall₂ IsPair items entries → HasEntries (.list items) entries

theorem isPair_rightUnique : Relator.RightUnique IsPair := by
  intro item entry entry' h h'
  have hpair : some [entry.1, entry.2] = some [entry'.1, entry'.2] := h.symm.trans h'
  simp only [Option.some.injEq, List.cons.injEq, and_true] at hpair
  exact Prod.ext hpair.1 hpair.2

/-- A value has its entries in one way. -/
theorem HasEntries.unique {entries' : List (Value × Value)} (h : HasEntries v entries)
    (h' : HasEntries v entries') : entries' = entries := by
  cases h with
  | mapping =>
    cases h'
    rfl
  | pairs hpairs =>
    obtain _ | hpairs' := h'
    exact isPair_rightUnique.forall₂ hpairs' hpairs

/-- Fields as the entries of a mapping. -/
def named (fields : Fields) : List (Value × Value) :=
  fields.map fun p => (.text p.1, p.2)

theorem fieldsOfEntries_named (fields : Fields) : fieldsOfEntries (named fields) = .ok fields := by
  induction fields with
  | nil => rfl
  | cons p rest ih =>
    have hcons : named (p :: rest) = (.text p.1, p.2) :: named rest := rfl
    rw [hcons]
    unfold fieldsOfEntries
    rw [ih]

/-- Entries are fields if all of their keys are texts. -/
theorem fieldsOfEntries_eq_ok_iff : fieldsOfEntries entries = .ok fields ↔ entries = named fields := by
  constructor
  · intro h
    induction entries generalizing fields with
    | nil =>
      cases h
      rfl
    | cons e rest ih =>
      obtain ⟨key, value⟩ := e
      unfold fieldsOfEntries at h
      split at h
      · rename_i name fields' hrest
        cases h
        rw [ih hrest]
        rfl
      · cases h
      · cases h
  · rintro rfl
    exact fieldsOfEntries_named fields

theorem forall₂_of_pairsFrom {n : Nat} (h : pairsFrom n items = .ok entries) :
    List.Forall₂ IsPair items entries := by
  induction items generalizing n entries with
  | nil =>
    cases h
    exact .nil
  | cons v rest ih =>
    unfold pairsFrom at h
    split at h
    · cases h
    · rename_i key value hmembers
      split at h
      · cases hrest : pairsFrom (n + 1) rest with
        | error fault =>
          rw [hrest] at h
          cases h
        | ok entries' =>
          rw [hrest] at h
          cases h
          exact .cons hmembers (ih hrest)
      · cases h
    · cases h

/-- Pairs are taken one by one; a text can be looked up, so no key is in the way. -/
theorem pairsFrom_of_forall₂ {n : Nat} (h : List.Forall₂ IsPair items (named fields)) :
    pairsFrom n items = .ok (named fields) := by
  induction fields generalizing n items with
  | nil =>
    obtain rfl := List.forall₂_nil_right_iff.mp h
    rfl
  | cons p rest ih =>
    obtain ⟨item, items', hpair, hrest, rfl⟩ := List.forall₂_cons_right_iff.mp h
    have hmembers : item.members? = some [.text p.1, p.2] := hpair
    have hkey : (Value.text p.1).isKey = true := rfl
    rw [pairsFrom, hmembers]
    dsimp only
    rw [if_pos hkey, ih hrest]
    rfl

/-- A text is no list of pairs: each of its characters is one member. -/
theorem entriesOf_text (s : String) (h : s ≠ "") : entriesOf (.text s) ≠ .ok entries := by
  intro hok
  have hpairs := forall₂_of_pairsFrom (show pairsFrom 0 _ = .ok entries from hok)
  cases hchars : s.toList with
  | nil => exact h (String.toList_eq_nil_iff.mp hchars)
  | cons c cs =>
    rw [hchars, List.map_cons] at hpairs
    -- the first character would have to be a text of two characters
    obtain ⟨entry, _, hpair, -, -⟩ := List.forall₂_cons_left_iff.mp hpairs
    have hone : some ((String.ofList [c]).toList.map fun d => Value.text (String.ofList [d])) =
        some [entry.1, entry.2] := hpair
    rw [String.toList_ofList] at hone
    simp at hone

theorem hasEntries_of_entriesOf (htruthy : v.isTruthy = true) (h : entriesOf v = .ok entries) :
    HasEntries v entries := by
  cases v with
  | map es =>
    cases h
    exact .mapping _
  | list items => exact .pairs (forall₂_of_pairsFrom h)
  | text s => exact absurd h (entriesOf_text s (by simpa [Value.isTruthy] using htruthy))
  | null | bool _ | int _ | real _ _ => cases h

theorem entriesOf_of_hasEntries (h : HasEntries v (named fields)) :
    entriesOf v = .ok (named fields) := by
  obtain _ | hpairs := h
  · rfl
  · exact pairsFrom_of_forall₂ hpairs

/-- **The fields of a value** that says something: those of a mapping, or of a list of pairs. -/
theorem fieldsOfData_eq_ok_iff (htruthy : v.isTruthy = true) {read : Fields} :
    fieldsOfData v = .ok read ↔ ∃ fields, HasEntries v (named fields) ∧ setFields [] fields = read := by
  rw [fieldsOfData, if_pos htruthy]
  constructor
  · intro h
    cases hentries : entriesOf v with
    | error fault =>
      rw [hentries] at h
      cases h
    | ok entries =>
      rw [hentries] at h
      dsimp only at h
      cases hfields : fieldsOfEntries entries with
      | error fault =>
        rw [hfields] at h
        cases h
      | ok fields =>
        rw [hfields] at h
        refine ⟨fields, ?_, Except.ok.inj h⟩
        rw [← fieldsOfEntries_eq_ok_iff.mp hfields]
        exact hasEntries_of_entriesOf htruthy hentries
  · rintro ⟨fields, hentries, rfl⟩
    rw [entriesOf_of_hasEntries hentries]
    dsimp only
    rw [fieldsOfEntries_named]
    rfl

end Data

/-! ## §3 Files -/

section Files

variable {fs : FileSystem} {readData : DataReader} {path : String} {path? : Option String}
  {fields : Fields}

/-- The config file is a text with this value, or with none because it is not well-formed. -/
def HoldsData (fs : FileSystem) (readData : DataReader) (path : String) (v? : Option Value) : Prop :=
  ∃ bytes, ∃ valid : bytes.IsValidUTF8, fs.entry? path = some (.file bytes) ∧
    readData (Text.unifyLineEnds (.fromUTF8 bytes valid)) = v?

/-- **What a config file supplies**: a missing, a broken and an empty one nothing, any other its
    entries, all of them under names. -/
inductive Supplies (fs : FileSystem) (readData : DataReader) (path : String) : Fields → Prop where
  | missing (nofile : fs.isFile path = .ok false) : Supplies fs readData path []
  | broken (data : HoldsData fs readData path none) : Supplies fs readData path []
  | empty {v : Value} (data : HoldsData fs readData path (some v)) (falsy : v.isTruthy = false) :
      Supplies fs readData path []
  | entries {v : Value} {fields : Fields} (data : HoldsData fs readData path (some v))
      (truthy : v.isTruthy = true) (entries : HasEntries v (named fields)) :
      Supplies fs readData path fields

/-- **What a config file is refused for**: its path cannot be looked up, it is no text, it has no
    entries, or one of its keys is no text. -/
inductive Refuses (fs : FileSystem) (readData : DataReader) (path : String) : Prop where
  | tooLong (long : fs.locate path = .error (.tooLong path))
  | noText {bytes : ByteArray} (file : fs.entry? path = some (.file bytes))
      (invalid : ¬bytes.IsValidUTF8)
  | noEntries {v : Value} (data : HoldsData fs readData path (some v)) (truthy : v.isTruthy = true)
      (unpaired : ∀ es, ¬HasEntries v es)
  | noName {v : Value} {es : List (Value × Value)} (data : HoldsData fs readData path (some v))
      (truthy : v.isTruthy = true) (entries : HasEntries v es)
      (unnamed : ∃ e ∈ es, ∀ name, e.1 ≠ .text name)

/-- Entries whose keys are all texts are fields. -/
theorem exists_named {entries : List (Value × Value)} (h : ∀ e ∈ entries, ∃ name, e.1 = .text name) :
    ∃ fields, entries = named fields := by
  induction entries with
  | nil => exact ⟨[], rfl⟩
  | cons e rest ih =>
    obtain ⟨⟨name, hname⟩, hrest⟩ := List.forall_mem_cons.mp h
    obtain ⟨fields, rfl⟩ := ih hrest
    exact ⟨(name, e.2) :: fields, congrArg (· :: _) (Prod.ext hname rfl)⟩

/-- A config file is refused or supplies something. -/
theorem refuses_or_supplies (fs : FileSystem) (readData : DataReader) (path : String) :
    Refuses fs readData path ∨ ∃ fields, Supplies fs readData path fields := by
  -- the questions in the order in which loading asks them
  rcases fs.isFile_cases path with hnone | ⟨bytes, hfile⟩ | hlong
  · exact .inr ⟨[], .missing hnone⟩
  · by_cases hvalid : bytes.IsValidUTF8
    · cases hdata : readData (Text.unifyLineEnds (.fromUTF8 bytes hvalid)) with
      | none => exact .inr ⟨[], .broken ⟨bytes, hvalid, hfile, hdata⟩⟩
      | some v =>
        have hholds : HoldsData fs readData path (some v) := ⟨bytes, hvalid, hfile, hdata⟩
        cases htruthy : v.isTruthy with
        | false => exact .inr ⟨[], .empty hholds htruthy⟩
        | true =>
          by_cases hentries : ∃ entries, HasEntries v entries
          · obtain ⟨entries, hentries⟩ := hentries
            by_cases hnames : ∀ e ∈ entries, ∃ name, e.1 = .text name
            · obtain ⟨fields, rfl⟩ := exists_named hnames
              exact .inr ⟨fields, .entries hholds htruthy hentries⟩
            · push Not at hnames
              exact .inl (.noName hholds htruthy hentries hnames)
          · exact .inl (.noEntries hholds htruthy fun entries h => hentries ⟨entries, h⟩)
    · exact .inl (.noText hfile hvalid)
  · exact .inl (.tooLong hlong)

/-- A config file with a value is read to the fields of the value. -/
theorem fileFields_of_data {v? : Option Value}
    (h : HoldsData fs readData (Path.normalText (pathOr path?)) v?) :
    (fileFields fs readData path?).1 =
      v?.elim (.ok []) fun v => (fieldsOfData v).mapError .data := by
  obtain ⟨bytes, hvalid, hfile, hdata⟩ := h
  unfold fileFields readFields
  rw [FileSystem.isFile_of_entry? hfile, FileSystem.read_of_entry? hfile,
    FileSystem.textOf_of_valid hvalid]
  dsimp only
  rw [hdata]
  cases v? with
  | none => rfl
  | some v =>
    dsimp only [Option.elim_some]
    cases fieldsOfData v <;> rfl

theorem fileFields_of_supplies (h : Supplies fs readData (Path.normalText (pathOr path?)) fields) :
    (fileFields fs readData path?).1 = .ok (setFields [] fields) := by
  cases h with
  | missing hnone =>
    unfold fileFields
    rw [hnone]
    rfl
  | broken hdata => exact fileFields_of_data hdata
  | empty hdata hfalsy =>
    rw [fileFields_of_data hdata, Option.elim_some, fieldsOfData,
      if_neg (by rw [hfalsy]; exact Bool.false_ne_true)]
    rfl
  | entries hdata htruthy hentries =>
    rw [fileFields_of_data hdata, Option.elim_some,
      (fieldsOfData_eq_ok_iff htruthy).mpr ⟨fields, hentries, rfl⟩]
    rfl

/-- A value without fields is not read. -/
theorem fileFields_of_noFields {v : Value}
    (h : HoldsData fs readData (Path.normalText (pathOr path?)) (some v)) (htruthy : v.isTruthy = true)
    (hnone : ∀ fields, ¬HasEntries v (named fields)) :
    ∃ fault, (fileFields fs readData path?).1 = .error fault := by
  rw [fileFields_of_data h, Option.elim_some]
  cases hfields : fieldsOfData v with
  | error fault => exact ⟨.data fault, rfl⟩
  | ok read =>
    obtain ⟨fields, hentries, -⟩ := (fieldsOfData_eq_ok_iff htruthy).mp hfields
    exact absurd hentries (hnone fields)

theorem fileFields_of_refuses (h : Refuses fs readData (Path.normalText (pathOr path?))) :
    ∃ fault, (fileFields fs readData path?).1 = .error fault := by
  cases h with
  | tooLong hlong =>
    unfold fileFields
    rw [FileSystem.isFile_of_tooLong hlong]
    exact ⟨_, rfl⟩
  | noText hfile hinvalid =>
    obtain ⟨fault, hfault⟩ := FileSystem.exists_textOf_of_not_valid hinvalid
    unfold fileFields readFields
    rw [FileSystem.isFile_of_entry? hfile, FileSystem.read_of_entry? hfile, hfault]
    exact ⟨_, rfl⟩
  | noEntries hdata htruthy hnone =>
    exact fileFields_of_noFields hdata htruthy fun fields => hnone (named fields)
  | noName hdata htruthy hentries hunnamed =>
    refine fileFields_of_noFields hdata htruthy fun fields hnamed => ?_
    -- fields are entries under names, and there is only one list of entries
    obtain ⟨e, he, hno⟩ := hunnamed
    rw [← hentries.unique hnamed] at he
    obtain ⟨p, -, rfl⟩ := List.mem_map.mp he
    exact hno p.1 rfl

end Files

/-! ## §4 Merging -/

section Merging

variable {overrides : Fields} {name : String}

/-- The value says something: it is no null. -/
def isGiven : Value → Bool
  | .null => false
  | _ => true

/-- The value under a name: the override if there is one that says something, else the last value in the
    file. -/
def mergedValue? (fields overrides : Fields) (name : String) : Option Value :=
  ((fieldValue? overrides name).filter isGiven).or (lastValue? name fields)

/-- The fields of the file, each name once, with the overrides that say something set on top. -/
def merged (fields overrides : Fields) : Fields :=
  setFields (setFields [] fields) (givenOverrides overrides)

/-- There is no value under a name that is not among the names. -/
theorem fieldValue?_eq_none {fields : Fields} (h : name ∉ fields.map Prod.fst) :
    fieldValue? fields name = none := by
  rw [fieldValue?, Option.map_eq_none_iff, List.find?_eq_none]
  intro p hp heq
  exact h (eq_of_beq heq ▸ List.mem_map_of_mem hp)

/-- Where names occur once, the last value is the only one. -/
theorem lastValue?_of_nodup {fields : Fields} (h : (fields.map Prod.fst).Nodup) (name : String) :
    lastValue? name fields = fieldValue? fields name := by
  induction fields with
  | nil => rfl
  | cons p rest ih =>
    obtain ⟨hnew, hrest⟩ := List.nodup_cons.mp h
    rw [lastValue?_cons, ih hrest, fieldValue?_cons]
    by_cases hp : p.1 = name
    · rw [fieldValue?_eq_none (hp ▸ hnew)]
      rfl
    · rw [if_neg hp, if_neg hp, Option.or_none]

/-- Overrides that are null are as good as none. -/
theorem fieldValue?_givenOverrides (h : (overrides.map Prod.fst).Nodup) (name : String) :
    fieldValue? (givenOverrides overrides) name = (fieldValue? overrides name).filter isGiven := by
  show fieldValue? (overrides.filter fun p => isGiven p.2) name = _
  induction overrides with
  | nil => rfl
  | cons p rest ih =>
    obtain ⟨hnew, hrest⟩ := List.nodup_cons.mp h
    rw [fieldValue?_cons, List.filter_cons]
    by_cases hp : p.1 = name
    · rw [if_pos hp, Option.filter_some]
      split
      · rw [fieldValue?_cons, if_pos hp]
      · -- a null is left out, and no other override has its name
        rw [ih hrest, fieldValue?_eq_none (hp ▸ hnew)]
        rfl
    · rw [if_neg hp, ← ih hrest]
      split
      · rw [fieldValue?_cons, if_neg hp]
      · rfl

/-- **The merged mapping** has the overrides that say something, and else what the file has. -/
theorem fieldValue?_merged (h : (overrides.map Prod.fst).Nodup) (fields : Fields) (name : String) :
    fieldValue? (merged fields overrides) name = mergedValue? fields overrides name := by
  have hgiven : ((givenOverrides overrides).map Prod.fst).Nodup :=
    h.sublist (List.filter_sublist.map Prod.fst)
  have hnone : fieldValue? [] name = none := rfl
  rw [merged, fieldValue?_setFields, fieldValue?_setFields, lastValue?_of_nodup hgiven,
    fieldValue?_givenOverrides h, mergedValue?, hnone, Option.or_none]

theorem nodup_merged (fields overrides : Fields) : ((merged fields overrides).map Prod.fst).Nodup := by
  have hnil : (([] : Fields).map Prod.fst).Nodup := List.nodup_nil
  exact nodup_setFields (nodup_setFields hnil _) _

end Merging

/-! ## §5 Settings and the mapping -/

section Shown

variable {fields : Fields} {c : Config} {name : String}

/-- **What a configuration shows of a mapping**: a depth that is not negative, a blacklist in one text
    taken apart, the default of each setting that is absent, and what is no setting as it is. -/
structure Shows (value? : String → Option Value) (c : Config) : Prop where
  depth : 0 ≤ c.typeDepth
  blacklist (written : String) : value? "blacklist" = some (.text written) →
    c.blacklist = ((Text.pieces ',' written).map Text.trim).filter (· ≠ "")
  absent (name : String) : name ∈ fieldNames → value? name = none →
    fieldValue? (Settings.ofConfig c).fields name =
      fieldValue? (Settings.ofConfig default).fields name
  extra (name : String) : name ∉ fieldNames → fieldValue? c.extras name = value? name
  settings (name : String) : name ∈ fieldNames → fieldValue? c.extras name = none

theorem depth_nonneg_of_readDepth {v : Value} {n : Int} (h : readDepth v = .ok n) : 0 ≤ n := by
  unfold readDepth at h
  split at h
  · split at h
    · cases h
    · cases h
      omega
  · cases h

theorem Reads.depth_nonneg (h : Reads fields c) : 0 ≤ c.typeDepth := by
  have hread := h.typeDepth
  cases hvalue : fieldValue? fields "type_depth" with
  | none =>
    rw [fieldOr_of_none hvalue] at hread
    rw [← Except.ok.inj hread]
    decide
  | some v =>
    rw [fieldOr_of_some hvalue, checkedAs] at hread
    split at hread
    · rename_i n hdepth
      rw [← Except.ok.inj hread]
      exact depth_nonneg_of_readDepth hdepth
    · cases hread

/-- A field that is absent is read to its default. -/
theorem eq_of_absent {α : Type} {a fallback : α} {check : String → Value → Checked α}
    (hnone : fieldValue? fields name = none) (h : fieldOr fields name fallback check = .ok a) :
    a = fallback := by
  rw [fieldOr_of_none hnone] at h
  exact (Except.ok.inj h).symm

/-- Fields that are read to a configuration are shown by it. -/
theorem Reads.shows (h : Reads fields c) : Shows (fieldValue? fields) c where
  depth := h.depth_nonneg
  blacklist written hwritten := by
    have hread := h.blacklist
    rw [fieldOr_of_some hwritten] at hread
    exact (Except.ok.inj hread).symm
  absent name hname hnone := by
    simp only [fieldNames, List.mem_cons, List.not_mem_nil, or_false] at hname
    rcases hname with rfl | rfl | rfl | rfl | rfl | rfl
    -- each setting has its own default, and its own way to be shown as a value
    · exact congrArg (fun w => some ((w.map Value.text).getD .null)) (eq_of_absent hnone h.workspace)
    · exact congrArg (fun b => some (Settings.textsValue b)) (eq_of_absent hnone h.blacklist)
    · exact congrArg (fun d => some (Value.int d)) (eq_of_absent hnone h.typeDepth)
    · exact congrArg (fun e => some (Value.bool e)) (eq_of_absent hnone h.exportedOnly)
    · exact congrArg (fun t => some (Value.bool t)) (eq_of_absent hnone h.includeTypes)
    · exact congrArg (fun f => some (Settings.textsValue f)) (eq_of_absent hnone h.routerFactories)
  extra name hname := by
    rw [h.extras, fieldValue?_filter hname]
  settings name hname := by
    apply fieldValue?_eq_none
    rw [h.extras]
    intro hmem
    obtain ⟨p, hp, rfl⟩ := List.mem_map.mp hmem
    have hno := (List.mem_filter.mp hp).2
    simp [hname] at hno

end Shown

/-! ## §6 The whole -/

theorem load_of_supplies {fs : FileSystem} {readData : DataReader} {path? : Option String}
    {fields : Fields} (h : Supplies fs readData (Path.normalText (pathOr path?)) fields)
    (overrides : Fields) :
    (load fs readData path? overrides).1 = (ofFields (merged fields overrides)).mapError .invalid := by
  cases hfile : fileFields fs readData path? with
  | mk result warnings =>
    have hok := fileFields_of_supplies h
    rw [hfile] at hok
    rw [load_of_fileFields (hfile.trans (congrArg (·, warnings) hok))]
    rfl

theorem load_of_refuses {fs : FileSystem} {readData : DataReader} {path? : Option String}
    (h : Refuses fs readData (Path.normalText (pathOr path?))) (overrides : Fields) :
    ∃ fault, (load fs readData path? overrides).1 = .error fault := by
  obtain ⟨fault, hfault⟩ := fileFields_of_refuses h
  refine ⟨fault, ?_⟩
  unfold load
  cases hfile : fileFields fs readData path? with
  | mk result warnings =>
    rw [hfile] at hfault
    cases hfault
    rfl

/-- **Overrides, config file, defaults.** Let the names of the overrides be different. A config file
    that supplies fields is loaded to what is read from one mapping: under each name it has the override
    that says something, else the last value in the file, else nothing. The configuration shows this:
    the depth is not negative, a blacklist in one text is taken apart, a setting that is absent has its
    default, and what is no setting is kept as it is. Loading fails exactly if the config file is refused,
    or if the merged mapping does not suit the settings. -/
theorem load_precedence (fs : FileSystem) (readData : DataReader) (path? : Option String)
    (overrides : Fields) (hoverrides : (overrides.map Prod.fst).Nodup) :
    let path := Path.normalText (pathOr path?)
    let loaded := (load fs readData path? overrides).1
    (∀ fields, Supplies fs readData path fields →
      ((merged fields overrides).map Prod.fst).Nodup ∧
      (∀ name, fieldValue? (merged fields overrides) name = mergedValue? fields overrides name) ∧
      loaded = (ofFields (merged fields overrides)).mapError .invalid ∧
      ∀ c, loaded = .ok c → Shows (mergedValue? fields overrides) c) ∧
    (∀ c, loaded = .ok c → 0 ≤ c.typeDepth) ∧
    ((∃ fault, loaded = .error fault) ↔ Refuses fs readData path ∨
      ∃ fields issues, Supplies fs readData path fields ∧
        ofFields (merged fields overrides) = .error issues) := by
  intro path loaded
  -- what is loaded was read from the merged mapping, so it shows that
  have hshows (fields : Fields) (hfields : Supplies fs readData path fields) (c : Config)
      (hc : loaded = .ok c) : Shows (mergedValue? fields overrides) c := by
    have hmapping := load_of_supplies hfields overrides
    cases hof : ofFields (merged fields overrides) with
    | error issues =>
      rw [hof] at hmapping
      exact absurd (hc.symm.trans hmapping) nofun
    | ok c' =>
      rw [hof] at hmapping
      obtain rfl : c = c' := Except.ok.inj (hc.symm.trans hmapping)
      have hvalues : fieldValue? (merged fields overrides) = mergedValue? fields overrides :=
        funext fun name => fieldValue?_merged hoverrides fields name
      exact hvalues ▸ (ofFields_eq_ok_iff.mp hof).shows
  refine ⟨fun fields hfields => ⟨nodup_merged fields overrides,
    fieldValue?_merged hoverrides fields, load_of_supplies hfields overrides, hshows fields hfields⟩,
    fun c hc => ?_, fun ⟨fault, hfault⟩ => ?_, ?_⟩
  · -- a file that is refused is not loaded, any other supplies fields
    rcases refuses_or_supplies fs readData path with hrefuses | ⟨fields, hfields⟩
    · obtain ⟨fault, hfault⟩ := load_of_refuses hrefuses overrides
      exact absurd (hc.symm.trans hfault) nofun
    · exact (hshows fields hfields c hc).depth
  · rcases refuses_or_supplies fs readData path with hrefuses | ⟨fields, hfields⟩
    · exact .inl hrefuses
    · -- the file is not at fault, so it is the merged mapping
      have hmapping := hfault.symm.trans (load_of_supplies hfields overrides)
      cases hof : ofFields (merged fields overrides) with
      | error issues => exact .inr ⟨fields, issues, hfields, hof⟩
      | ok c =>
        rw [hof] at hmapping
        cases hmapping
  · rintro (hrefuses | ⟨fields, issues, hfields, hof⟩)
    · exact load_of_refuses hrefuses overrides
    · refine ⟨.invalid issues, (load_of_supplies hfields overrides).trans ?_⟩
      rw [hof]
      rfl

/-- A config file in which a list of pairs is written down. -/
def pairedFile : FileSystem :=
  ⟨.folder [("c.yaml", .file "pairs".toUTF8)], []⟩

/-- Its pairs: one is a text of two characters, and one comes again with another value. -/
def pairedData : DataReader := fun text =>
  if text = "pairs" then
    some (.list [.list [.text "type_depth", .int 5], .text "kv",
      .list [.text "blacklist", .text " a.ts,, b "], .list [.text "type_depth", .text "3"]])
  else none

theorem pairedFile_supplies : Supplies pairedFile pairedData (Path.normalText (pathOr (some "c.yaml")))
    [("type_depth", .int 5), ("k", .text "v"), ("blacklist", .text " a.ts,, b "),
      ("type_depth", .text "3")] := by
  have hpath : Path.normalText (pathOr (some "c.yaml")) = "c.yaml" := by decide +kernel
  have hlocate : pairedFile.locate "c.yaml" = .ok ["c.yaml"] := by decide +kernel
  have hfile : pairedFile.entry? "c.yaml" = some (.file "pairs".toUTF8) := by
    rw [FileSystem.entry?, hlocate]
    rfl
  have hends : Text.unifyLineEnds "pairs" = "pairs" := by decide
  have hdata : HoldsData pairedFile pairedData "c.yaml" (some (.list _)) :=
    ⟨_, "pairs".isValidUTF8, hfile, (congrArg pairedData hends).trans (if_pos rfl)⟩
  rw [hpath]
  exact .entries hdata rfl (.pairs (.cons rfl (.cons rfl (.cons rfl (.cons rfl .nil)))))

/-- The last depth counts, a null override does not, and what is no setting is kept. A depth below zero
    is not accepted. -/
theorem pairedFile_precedence :
    (([("blacklist", .null), ("router_factories", .list [.text "r"])] : Fields).map Prod.fst).Nodup ∧
    (load pairedFile pairedData (some "c.yaml")
      [("blacklist", .null), ("router_factories", .list [.text "r"])]).1 =
        .ok ⟨none, ["a.ts", "b"], 3, false, true, ["r"], [("k", .text "v")]⟩ ∧
    ∃ fault, (load pairedFile pairedData (some "c.yaml") [("type_depth", .int (-1))]).1 =
      .error fault := by
  obtain ⟨hsupplied, -⟩ := load_precedence pairedFile pairedData (some "c.yaml")
    [("blacklist", .null), ("router_factories", .list [.text "r"])] (by decide)
  obtain ⟨-, -, hloaded, -⟩ := hsupplied _ pairedFile_supplies
  obtain ⟨-, -, hfails⟩ := load_precedence pairedFile pairedData (some "c.yaml")
    [("type_depth", .int (-1))] (by decide)
  exact ⟨by decide, hloaded, hfails.mpr (.inr ⟨_, _, pairedFile_supplies, rfl⟩)⟩

/-- **There is nothing** in the file system, so no path leads to a config file. A usual one is loaded to
    the defaults with a warning; one whose name cannot be looked up is not loaded at all. -/
theorem overlong_config_not_missing :
    let fs : FileSystem := ⟨.folder [], []⟩
    let path := Path.placeText [Discovery.nameOfLength 256]
    (∀ place, place ≠ [] → fs.root.at? place = none) ∧
    (∀ readData, load fs readData (some "/c.yaml") [] = (.ok default, [.noConfigFile "/c.yaml"])) ∧
    ∀ readData, ∃ fault, (load fs readData (some path) []).1 = .error fault := by
  intro fs path
  have hplace : Path.IsPlace [Discovery.nameOfLength 256] :=
    List.forall_mem_singleton.mpr (Discovery.nameOfLength_isName (by decide))
  refine ⟨fun place hne => ?_, fun readData => ?_, fun readData => ?_⟩
  · cases place with
    | nil => exact absurd rfl hne
    | cons name rest => rfl
  · have hmissing : fs.isFile (Path.normalText (pathOr (some "/c.yaml"))) = .ok false := by
      decide +kernel
    have hfields : fileFields fs readData (some "/c.yaml") = (.ok [], [.noConfigFile "/c.yaml"]) := by
      unfold fileFields
      rw [hmissing]
      rfl
    rw [load_of_fileFields hfields]
    rfl
  · refine load_of_refuses (.tooLong ?_) []
    rw [pathOr, if_neg (Path.placeText_ne_empty _), Path.normalText_placeText hplace]
    exact FileSystem.locate_of_isTooLong hplace rfl Discovery.isTooLong_nameOfLength

end Config

end TsOutline
