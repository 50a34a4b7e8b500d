import TsOutline.Proofs.Project.Union

/-!
# Frames of a Rewritten File

Other bytes in one file can only be noticed by reading that file. This module is the frame of
`World.rewrite`: paths lead where they led, the same files are discovered, every path that does not lead
to the file is read as before, and so are configurations and outlines.
-/

namespace TsOutline

/-! ## §1 Entries -/

/-- What can be seen of an entry without reading it: that there is none, a file, or a folder with these
    files below. -/
inductive Entry.LooksLike : Option Entry → Option Entry → Prop where
  | none : LooksLike none none
  | file (bytes bytes' : ByteArray) : LooksLike (some (.file bytes)) (some (.file bytes'))
  | folder (es es' : List (String × Entry)) (h : (Entry.folder es').places = (Entry.folder es).places) :
      LooksLike (some (.folder es)) (some (.folder es'))

namespace Entry.LooksLike

variable {e? e'? : Option Entry}

theorem isSome (h : LooksLike e? e'?) : e'?.isSome = e?.isSome := by
  cases h <;> rfl

theorem isFile (h : LooksLike e? e'?) :
    (e'?.map Entry.isFile).getD false = (e?.map Entry.isFile).getD false := by
  cases h <;> rfl

theorem isFolder (h : LooksLike e? e'?) :
    (e'?.map Entry.isFolder).getD false = (e?.map Entry.isFolder).getD false := by
  cases h <;> rfl

end Entry.LooksLike

namespace World

variable {w : World} {q : Place} {old : ByteArray}

@[simp] theorem cwd_rewrite (w : World) (q : Place) (bytes : ByteArray) :
    (w.rewrite q bytes).fs.cwd = w.fs.cwd :=
  rfl

@[simp] theorem parse_rewrite (w : World) (q : Place) (bytes : ByteArray) :
    (w.rewrite q bytes).parse = w.parse :=
  rfl

@[simp] theorem readData_rewrite (w : World) (q : Place) (bytes : ByteArray) :
    (w.rewrite q bytes).readData = w.readData :=
  rfl

theorem at?_rewrite (hq : w.fs.root.at? q = some (.file old)) (bytes : ByteArray) (p : Place) :
    Entry.LooksLike (w.fs.root.at? p) ((w.rewrite q bytes).fs.root.at? p) := by
  rw [rewrite]
  dsimp only
  cases hp : w.fs.root.at? p with
  | none =>
    have hnone : (w.fs.root.put (.file bytes) q).at? p = none := by
      rw [Entry.at?_put hq, hp]
      split <;> rfl
    rw [hnone]
    exact .none
  | some e =>
    cases e with
    | file content =>
      by_cases hpq : p = q
      · rw [hpq, Entry.at?_put_self hq]
        exact .file content bytes
      · rw [Entry.at?_put_of_ne hq hp hpq]
        exact .file content content
    | folder es =>
      obtain ⟨es', hes', hplaces⟩ := Entry.exists_folder_put hq hp bytes
      rw [hes']
      exact .folder es es' hplaces

/-- Other files keep their bytes, so that the entry at any other place is the same, or a folder before
    and after. -/
theorem at?_rewrite_of_ne (hq : w.fs.root.at? q = some (.file old)) (bytes : ByteArray) {p : Place}
    (hne : p ≠ q) :
    (w.rewrite q bytes).fs.root.at? p = w.fs.root.at? p ∨
      ∃ es es', w.fs.root.at? p = some (.folder es) ∧
        (w.rewrite q bytes).fs.root.at? p = some (.folder es') := by
  have hlooks := at?_rewrite hq bytes p
  generalize hp : w.fs.root.at? p = e? at hlooks
  generalize hp' : (w.rewrite q bytes).fs.root.at? p = e'? at hlooks
  cases hlooks with
  | none => exact .inl rfl
  | file content content' =>
    have hsame := Entry.at?_put_of_ne hq hp hne bytes
    exact .inl (hp'.symm.trans hsame)
  | folder es es' _ => exact .inr ⟨es, es', rfl, rfl⟩

/-! ## §2 Paths -/

theorem follow_rewrite (hq : w.fs.root.at? q = some (.file old)) (bytes : ByteArray) (path : String)
    (here : Place) (names : List String) :
    (w.rewrite q bytes).fs.follow path here names = w.fs.follow path here names := by
  induction names generalizing here with
  | nil => rfl
  | cons name rest ih =>
    have hsome : ((w.rewrite q bytes).fs.root.at? (Path.step here name)).isSome =
        (w.fs.root.at? (Path.step here name)).isSome :=
      (at?_rewrite hq bytes (Path.step here name)).isSome
    have hhere := at?_rewrite hq bytes here
    unfold FileSystem.follow
    dsimp only
    rw [hsome, ih, ih]
    -- here is a folder before and after, or neither
    generalize w.fs.root.at? here = e? at hhere ⊢
    generalize (w.rewrite q bytes).fs.root.at? here = e'? at hhere ⊢
    cases hhere <;> rfl

theorem locate_rewrite (hq : w.fs.root.at? q = some (.file old)) (bytes : ByteArray)
    (path : String) : (w.rewrite q bytes).fs.locate path = w.fs.locate path := by
  unfold FileSystem.locate
  rw [follow_rewrite hq, cwd_rewrite]

theorem isFile_rewrite (hq : w.fs.root.at? q = some (.file old)) (bytes : ByteArray)
    (path : String) : (w.rewrite q bytes).fs.isFile path = w.fs.isFile path := by
  unfold FileSystem.isFile FileSystem.probe
  rw [locate_rewrite hq]
  cases w.fs.locate path with
  | error fault => rfl
  | ok place => exact congrArg Except.ok (at?_rewrite hq bytes place).isFile

/-- What is probed at a place looks the same. -/
theorem probeAt_rewrite (hq : w.fs.root.at? q = some (.file old)) (bytes : ByteArray)
    (place : Place) :
    (∃ fault, w.fs.probeAt place = .error fault ∧
      (w.rewrite q bytes).fs.probeAt place = .error fault) ∨
    ∃ e? e'?, w.fs.probeAt place = .ok e? ∧ (w.rewrite q bytes).fs.probeAt place = .ok e'? ∧
      Entry.LooksLike e? e'? := by
  have hlooks := at?_rewrite hq bytes place
  unfold FileSystem.probeAt
  rw [locate_rewrite hq]
  generalize w.fs.root.at? place = e? at hlooks ⊢
  generalize (w.rewrite q bytes).fs.root.at? place = e'? at hlooks ⊢
  cases hlooks with
  | file content content' => exact .inr ⟨_, _, rfl, rfl, .file content content'⟩
  | folder es es' hplaces => exact .inr ⟨_, _, rfl, rfl, .folder es es' hplaces⟩
  | none =>
    dsimp only
    cases w.fs.locate (Path.placeText place) with
    | ok found => exact .inr ⟨_, _, rfl, rfl, .none⟩
    | error fault =>
      cases fault with
      | tooLong path => exact .inl ⟨_, rfl, rfl⟩
      | missing | notFolder | isFolder | nullByte => exact .inr ⟨_, _, rfl, rfl, .none⟩

theorem isFolderAt_rewrite (hq : w.fs.root.at? q = some (.file old)) (bytes : ByteArray)
    (place : Place) : (w.rewrite q bytes).fs.isFolderAt place = w.fs.isFolderAt place := by
  unfold FileSystem.isFolderAt
  rcases probeAt_rewrite hq bytes place with ⟨fault, h, h'⟩ | ⟨e?, e'?, h, h', hlooks⟩
  · rw [h, h']
  · rw [h, h']
    exact congrArg Except.ok hlooks.isFolder

/-- **Every path that does not lead to the file** is read as before. -/
theorem read_rewrite (hq : w.fs.root.at? q = some (.file old)) (bytes : ByteArray) {path : String}
    (hpath : w.fs.locate path ≠ .ok q) :
    (w.rewrite q bytes).fs.read path = w.fs.read path := by
  unfold FileSystem.read
  rw [locate_rewrite hq]
  cases hlocate : w.fs.locate path with
  | error fault => rfl
  | ok place =>
    have hne : place ≠ q := fun heq => hpath (by rw [hlocate, heq])
    dsimp only
    rcases at?_rewrite_of_ne hq bytes hne with hsame | ⟨es, es', hes, hes'⟩
    · rw [hsame]
    · rw [hes, hes']

/-! ## §3 What is read from files -/

/-- The file is not the config file that a path names. -/
def IsNotConfig (w : World) (path? : Option String) (q : Place) : Prop :=
  w.fs.locate (Path.normalText (Config.pathOr path?)) ≠ .ok q

/-- A configuration stays the same as long as the config file does. -/
theorem loadConfig_rewrite (hq : w.fs.root.at? q = some (.file old)) (bytes : ByteArray)
    {path? : Option String} (hconfig : w.IsNotConfig path? q) (overrides : Config.Fields) :
    (w.rewrite q bytes).loadConfig path? overrides = w.loadConfig path? overrides := by
  have hread := read_rewrite hq bytes hconfig
  have hfields : Config.fileFields (w.rewrite q bytes).fs (w.rewrite q bytes).readData path? =
      Config.fileFields w.fs w.readData path? := by
    unfold Config.fileFields Config.readFields
    rw [isFile_rewrite hq, hread, readData_rewrite]
  unfold loadConfig Config.load
  rw [hfields]

/-- **An outline** depends on its own file only. -/
theorem outlineUnder_rewrite (hq : w.fs.root.at? q = some (.file old)) (bytes : ByteArray)
    {path : String} (hpath : w.fs.locate (Path.normalText path) ≠ .ok q) (c : Config) :
    (w.rewrite q bytes).outlineUnder c path = w.outlineUnder c path := by
  unfold outlineUnder outline
  dsimp only
  rw [read_rewrite hq bytes hpath, parse_rewrite]

end World

namespace Discovery

variable {w : World} {q : Place} {old : ByteArray}

/-- A root has a folder before and after, with the same files below, or the same fault. -/
theorem folderOf_rewrite_cases (hq : w.fs.root.at? q = some (.file old)) (bytes : ByteArray)
    (root : String) :
    (∃ fault, folderOf w.fs root = .error fault ∧
      folderOf (w.rewrite q bytes).fs root = .error fault) ∨
    ∃ place folder folder', folderOf w.fs root = .ok (place, folder) ∧
      folderOf (w.rewrite q bytes).fs root = .ok (place, folder') ∧
      folder'.places = folder.places := by
  unfold folderOf
  rw [World.cwd_rewrite]
  cases FileSystem.resolve w.fs.cwd root with
  | error fault => exact .inl ⟨_, rfl, rfl⟩
  | ok place =>
    dsimp only
    rcases World.probeAt_rewrite hq bytes place with ⟨fault, h, h'⟩ | ⟨e?, e'?, h, h', hlooks⟩
    · rw [h, h']
      exact .inl ⟨_, rfl, rfl⟩
    · rw [h, h']
      cases hlooks with
      | none => exact .inl ⟨_, rfl, rfl⟩
      | file content content' => exact .inl ⟨_, rfl, rfl⟩
      | folder es es' hplaces => exact .inr ⟨_, _, _, rfl, rfl, hplaces⟩

/-- **The same files** are discovered. -/
theorem discover_rewrite (hq : w.fs.root.at? q = some (.file old)) (bytes : ByteArray)
    (root : String) (blacklist : List String) :
    discover (w.rewrite q bytes).fs root blacklist = discover w.fs root blacklist := by
  rcases folderOf_rewrite_cases hq bytes root with
    ⟨fault, h, h'⟩ | ⟨place, folder, folder', h, h', hplaces⟩
  · rw [discover, h', discover, h]
  · -- what is kept depends on the places only
    have hkept (spec : Exclusion.Spec) :
        keptFiles spec place folder' = keptFiles spec place folder := by
      rw [keptFiles_eq, keptFiles_eq, hplaces]
    rw [discover_of_folderOf h', discover_of_folderOf h, discoverAt, discoverAt]
    cases Exclusion.build blacklist with
    | error fault => rfl
    | ok spec =>
      dsimp only
      rw [hkept]

end Discovery

end TsOutline
