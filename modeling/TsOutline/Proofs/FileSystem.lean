import Mathlib.Data.List.Nodup
import Mathlib.Data.List.Flatten
import TsOutline.FileSystem
import TsOutline.Proofs.Path

/-!
# Trees of Files

What an operating system keeps true of its folders, and what follows from it: the files listed below a
folder are exactly those that can be looked up there, each of them once, the text of a place leads to
the place, and the normal form of an absolute path leads where the path leads. Writing other bytes
into a file moves nothing: every place but that of the file itself has what it had before, apart from
the folders on the way to the file. A path that leads to a file is read to the text of the file, if its
bytes are one.
-/

namespace TsOutline

namespace Entry

/-! ## §1 Looking up -/

variable {e c new : Entry} {es : List (String × Entry)} {name : String}

theorem child?_cons (p : String × Entry) (rest : List (String × Entry)) (n : String) :
    (folder (p :: rest)).child? n = if p.1 = n then some p.2 else (folder rest).child? n := by
  unfold child?
  by_cases hp : p.1 = n <;> simp [hp]

theorem mem_of_child? (h : (folder es).child? name = some c) : (name, c) ∈ es := by
  obtain ⟨p, hfind, rfl⟩ := Option.map_eq_some_iff.mp h
  have hname : p.1 = name := by simpa using List.find?_some hfind
  rw [← hname]
  exact List.mem_of_find?_eq_some hfind

/-- Where names are unique, every entry is found under its name. -/
theorem child?_of_mem (hunique : (es.map (·.1)).Nodup) (h : (name, c) ∈ es) :
    (folder es).child? name = some c := by
  induction es with
  | nil => exact absurd h List.not_mem_nil
  | cons p rest ih =>
    rw [List.map_cons, List.nodup_cons] at hunique
    rw [child?_cons]
    rcases List.mem_cons.mp h with rfl | hrest
    · rw [if_pos rfl]
    · have hne : p.1 ≠ name := by
        intro heq
        exact hunique.1 (List.mem_map.mpr ⟨(name, c), hrest, heq.symm⟩)
      rw [if_neg hne]
      exact ih hunique.2 hrest

/-- Looking up along two ways one after the other. -/
theorem at?_append (e : Entry) (p q : Place) : e.at? (p ++ q) = (e.at? p).bind fun c => c.at? q := by
  induction p generalizing e with
  | nil => rfl
  | cons name rest ih =>
    rw [List.cons_append, at?, at?]
    cases e.child? name with
    | none => rfl
    | some c => exact ih c

/-- Only folders have something below them. -/
theorem exists_folder_of_at?_cons {rest : Place} (h : e.at? (name :: rest) = some c) :
    ∃ es, e = folder es := by
  cases e with
  | folder es => exact ⟨es, rfl⟩
  | file bytes => cases h

/-! ## §2 Well-formed trees -/

/-- What holds of every folder: its entries are under names, and no two of them under the same. -/
inductive WellFormed : Entry → Prop where
  | file (bytes : ByteArray) : WellFormed (.file bytes)
  | folder (entries : List (String × Entry)) (names : ∀ p ∈ entries, Path.IsName p.1)
      (unique : (entries.map (·.1)).Nodup) (below : ∀ p ∈ entries, WellFormed p.2) :
      WellFormed (.folder entries)

theorem wellFormed_folder_iff :
    (folder es).WellFormed ↔
      (∀ p ∈ es, Path.IsName p.1) ∧ (es.map (·.1)).Nodup ∧ ∀ p ∈ es, p.2.WellFormed := by
  constructor
  · rintro (_ | ⟨_, names, unique, below⟩)
    exact ⟨names, unique, below⟩
  · rintro ⟨names, unique, below⟩
    exact .folder es names unique below

mutual

/-- Entry by entry, it is decided whether a tree is well-formed. -/
def decideWellFormed : (e : Entry) → Decidable e.WellFormed
  | .file bytes => isTrue (.file bytes)
  | .folder es =>
    have := decideBelow es
    decidable_of_iff' _ wellFormed_folder_iff

/-- The same for the entries of a folder. -/
def decideBelow : (es : List (String × Entry)) → Decidable (∀ p ∈ es, p.2.WellFormed)
  | [] => isTrue fun _ hp => absurd hp List.not_mem_nil
  | (_, e) :: rest =>
    have := decideWellFormed e
    have := decideBelow rest
    decidable_of_iff' (e.WellFormed ∧ ∀ p ∈ rest, p.2.WellFormed) List.forall_mem_cons

end

instance (e : Entry) : Decidable e.WellFormed :=
  decideWellFormed e

/-- What is found in a well-formed tree is well-formed, at a place of names. -/
theorem WellFormed.at? {p : Place} (he : e.WellFormed) (h : e.at? p = some c) :
    c.WellFormed ∧ Path.IsPlace p := by
  induction p generalizing e with
  | nil =>
    cases h
    exact ⟨he, fun name hname => absurd hname List.not_mem_nil⟩
  | cons name rest ih =>
    obtain ⟨d, hchild, hrest⟩ := Option.bind_eq_some_iff.mp h
    cases he with
    | file bytes => cases hchild
    | folder entries names _ below =>
      have hmem : (name, d) ∈ entries := mem_of_child? hchild
      obtain ⟨hc, hplace⟩ := ih (below _ hmem) hrest
      refine ⟨hc, ?_⟩
      intro n hn
      rcases List.mem_cons.mp hn with rfl | hn
      · exact names _ hmem
      · exact hplace n hn

/-! ## §3 The files below -/

mutual

/-- Everything at and below an entry, each with its place below it. -/
def subentries : Entry → List (Place × Entry)
  | file bytes => [([], file bytes)]
  | folder es => ([], folder es) :: subentriesOf es

/-- Everything below the entries of a folder. -/
def subentriesOf : List (String × Entry) → List (Place × Entry)
  | [] => []
  | (name, e) :: rest => (subentries e).map (fun f => (name :: f.1, f.2)) ++ subentriesOf rest

end

theorem subentriesOf_eq (es : List (String × Entry)) :
    subentriesOf es = es.flatMap fun p => p.2.subentries.map fun f => (p.1 :: f.1, f.2) := by
  induction es with
  | nil => rfl
  | cons p rest ih => rw [subentriesOf, ih, List.flatMap_cons]

/-- **Everything below** is what a lookup finds. -/
theorem mem_subentries_iff (he : e.WellFormed) {p : Place} :
    (p, c) ∈ e.subentries ↔ e.at? p = some c := by
  -- by induction on the tree: a place below a folder starts with the name of an entry
  induction he generalizing p with
  | file b =>
    cases p with
    | nil => simp [subentries, at?, eq_comm]
    | cons name rest => simp [subentries, at?, child?]
  | folder es names unique below ih =>
    rw [subentries, subentriesOf_eq, List.mem_cons, List.mem_flatMap]
    cases p with
    | nil => simp [at?, eq_comm]
    | cons name rest =>
      constructor
      · rintro (heq | ⟨⟨n, d⟩, hmem, hbelow⟩)
        · cases heq
        · obtain ⟨⟨r, f⟩, hrest, heq⟩ := List.mem_map.mp hbelow
          cases heq
          -- two entries under one name would hide the second one from the lookup
          rw [at?, child?_of_mem unique hmem]
          exact (ih _ hmem).mp hrest
      · intro hat
        obtain ⟨d, hchild, hrest⟩ := Option.bind_eq_some_iff.mp hat
        have hmem : (name, d) ∈ es := mem_of_child? hchild
        exact .inr ⟨(name, d), hmem, List.mem_map.mpr ⟨(rest, c), (ih _ hmem).mpr hrest, rfl⟩⟩

theorem filesOf_eq (es : List (String × Entry)) :
    filesOf es = es.flatMap fun p => p.2.files.map fun f => (p.1 :: f.1, f.2) := by
  induction es with
  | nil => rfl
  | cons p rest ih => rw [filesOf, ih, List.flatMap_cons]

mutual

theorem mem_files_iff_mem_subentries (bytes : ByteArray) :
    (e : Entry) → (p : Place) → ((p, bytes) ∈ e.files ↔ (p, file bytes) ∈ e.subentries)
  | .file b, p => by simp [files, subentries]
  | .folder es, p => by simp [files, subentries, mem_filesOf_iff_mem_subentriesOf bytes es]

theorem mem_filesOf_iff_mem_subentriesOf (bytes : ByteArray) :
    (es : List (String × Entry)) → (p : Place) →
      ((p, bytes) ∈ filesOf es ↔ (p, file bytes) ∈ subentriesOf es)
  | [], p => by simp [filesOf, subentriesOf]
  | (name, e) :: rest, p => by
    simp [filesOf, subentriesOf, mem_files_iff_mem_subentries bytes e,
      mem_filesOf_iff_mem_subentriesOf bytes rest]

end

/-- **The files below** are what a lookup finds to be a file. -/
theorem mem_files_iff (he : e.WellFormed) {p : Place} {bytes : ByteArray} :
    (p, bytes) ∈ e.files ↔ e.at? p = some (.file bytes) :=
  (mem_files_iff_mem_subentries bytes e p).trans (mem_subentries_iff he)

/-- The files below, by their places. -/
def places (e : Entry) : List Place :=
  e.files.map (·.1)

theorem places_folder (es : List (String × Entry)) :
    (folder es).places = es.flatMap fun p => p.2.places.map (p.1 :: ·) := by
  simp [places, files, filesOf_eq, List.map_flatMap, Function.comp_def]

/-- No file is listed twice. -/
theorem places_nodup (he : e.WellFormed) : e.places.Nodup := by
  induction he with
  | file bytes => exact List.nodup_singleton []
  | folder es names unique below ih =>
    rw [places_folder, List.nodup_flatMap]
    constructor
    · intro p hp
      exact (ih p hp).map fun _ _ heq => (List.cons.inj heq).2
    · -- below different names, places differ in their first name
      have hne : es.Pairwise fun p q => p.1 ≠ q.1 := List.pairwise_map.mp unique
      refine hne.imp ?_
      intro p q hpq
      show List.Disjoint (p.2.places.map (p.1 :: ·)) (q.2.places.map (q.1 :: ·))
      rw [List.disjoint_left]
      rintro _ hfirst hsecond
      obtain ⟨_, _, rfl⟩ := List.mem_map.mp hfirst
      obtain ⟨_, _, heq⟩ := List.mem_map.mp hsecond
      exact hpq (List.cons.inj heq).1.symm

/-! ## §4 Other bytes in a file -/

theorem map_fst_setIn (h : name ∈ es.map (·.1)) :
    (setIn name new es).map (·.1) = es.map (·.1) := by
  induction es with
  | nil => exact absurd h List.not_mem_nil
  | cons p rest ih =>
    unfold setIn
    split
    · rename_i heq
      rw [List.map_cons, List.map_cons, beq_iff_eq.mp heq]
    · rename_i hne
      have hrest : name ∈ rest.map (·.1) := by
        rcases List.mem_cons.mp h with heq | hrest
        · exact absurd (beq_iff_eq.mpr heq.symm) hne
        · exact hrest
      rw [List.map_cons, List.map_cons, ih hrest]

theorem mem_setIn {p : String × Entry} (h : p ∈ setIn name new es) :
    p = (name, new) ∨ p ∈ es := by
  induction es with
  | nil => exact .inl (List.mem_singleton.mp h)
  | cons q rest ih =>
    unfold setIn at h
    split at h
    · rcases List.mem_cons.mp h with rfl | hrest
      · exact .inl rfl
      · exact .inr (List.mem_cons_of_mem _ hrest)
    · rcases List.mem_cons.mp h with rfl | hrest
      · exact .inr (List.mem_cons_self ..)
      · exact (ih hrest).imp_right (List.mem_cons_of_mem _)

theorem child?_setIn (n : String) :
    (folder (setIn name new es)).child? n =
      if n = name then some new else (folder es).child? n := by
  induction es with
  | nil =>
    rw [setIn, child?_cons]
    exact if_congr eq_comm rfl rfl
  | cons p rest ih =>
    unfold setIn
    by_cases hp : p.1 = name
    · simp only [hp, beq_self_eq_true, if_true, child?_cons, eq_comm (a := name)]
      split <;> rfl
    · have hbeq : (p.1 == name) = false := by simpa using hp
      rw [hbeq, if_neg Bool.false_ne_true, child?_cons, child?_cons, ih]
      by_cases hpn : p.1 = n
      · have hn : n ≠ name := fun heq => hp (hpn.trans heq)
        rw [if_pos hpn, if_neg hn, if_pos hpn]
      · rw [if_neg hpn, if_neg hpn]

/-- Replacing an entry by one with the same files below it keeps the list of files. -/
theorem places_setIn (hchild : (folder es).child? name = some c) (hplaces : new.places = c.places) :
    (folder (setIn name new es)).places = (folder es).places := by
  rw [places_folder, places_folder]
  induction es with
  | nil => cases hchild
  | cons p rest ih =>
    unfold setIn
    by_cases hp : p.1 = name
    · rw [child?_cons, if_pos hp] at hchild
      simp [hp, Option.some.inj hchild, hplaces]
    · rw [child?_cons, if_neg hp] at hchild
      simp [hp, ih hchild]

variable {p q : Place} {old bytes : ByteArray}

/-- The same files are listed, in the same order. -/
theorem places_put (h : e.at? q = some (.file old)) :
    (e.put (.file bytes) q).places = e.places := by
  induction q generalizing e with
  | nil =>
    cases h
    rfl
  | cons name rest ih =>
    obtain ⟨c, hchild, hrest⟩ := Option.bind_eq_some_iff.mp h
    obtain ⟨es, rfl⟩ := exists_folder_of_at?_cons h
    rw [put, hchild]
    exact places_setIn hchild (ih hrest)

/-- Only the folders on the way to the file, and the file itself, are not what they were. -/
theorem at?_put (h : e.at? q = some (.file old)) (p : Place) :
    (e.put (.file bytes) q).at? p =
      if p <+: q then (e.at? p).map fun c => c.put (.file bytes) (q.drop p.length)
      else e.at? p := by
  induction p generalizing e q with
  | nil => simp [at?]
  | cons n ns ih =>
    cases q with
    | nil =>
      cases h
      rfl
    | cons name rest =>
      obtain ⟨c, hchild, hrest⟩ := Option.bind_eq_some_iff.mp h
      obtain ⟨es, rfl⟩ := exists_folder_of_at?_cons h
      rw [put, at?, entries, child?_setIn, hchild]
      by_cases hn : n = name
      · -- on the way to the file
        subst hn
        simp only [if_true, Option.bind_some, Option.getD_some, List.prefix_cons_inj, at?, hchild,
          List.length_cons, List.drop_succ_cons]
        exact ih hrest
      · have hprefix : ¬n :: ns <+: name :: rest := fun hp => hn (List.cons_prefix_cons.mp hp).1
        rw [if_neg hn, if_neg hprefix]
        rfl

/-- Something is found wherever something was found before. -/
theorem isSome_at?_put (h : e.at? q = some (.file old)) (p : Place) :
    ((e.put (.file bytes) q).at? p).isSome = (e.at? p).isSome := by
  rw [at?_put h]
  split
  · exact Option.isSome_map
  · rfl

theorem at?_put_self (h : e.at? q = some (.file old)) :
    (e.put (.file bytes) q).at? q = some (.file bytes) := by
  rw [at?_put h, if_pos (List.prefix_refl q), h, List.drop_length]
  rfl

/-- Every other file keeps its bytes. -/
theorem at?_put_of_ne (h : e.at? q = some (.file old)) (hp : e.at? p = some (.file bytes))
    (hne : p ≠ q) (new : ByteArray) :
    (e.put (.file new) q).at? p = some (.file bytes) := by
  rw [at?_put h, if_neg, hp]
  rintro ⟨more, rfl⟩
  -- a file on the way to a file would have to be a folder
  rw [at?_append, hp] at h
  cases more with
  | nil => exact hne (List.append_nil p).symm
  | cons name rest => cases h

/-- A folder stays one, and lists the same files. -/
theorem exists_folder_put (h : e.at? q = some (.file old)) (hp : e.at? p = some (.folder es))
    (bytes : ByteArray) :
    ∃ es', (e.put (.file bytes) q).at? p = some (.folder es') ∧
      (folder es').places = (folder es).places := by
  rw [at?_put h, hp]
  split
  · -- the file is below the folder
    rename_i hprefix
    obtain ⟨more, rfl⟩ := hprefix
    rw [at?_append, hp] at h
    rw [List.drop_left]
    cases more with
    | nil => cases h
    | cons name rest => exact ⟨_, rfl, places_put h⟩
  · exact ⟨es, rfl, rfl⟩

theorem WellFormed.put (he : e.WellFormed) (h : e.at? q = some (.file old)) :
    (e.put (.file bytes) q).WellFormed := by
  induction q generalizing e with
  | nil => exact .file bytes
  | cons name rest ih =>
    obtain ⟨c, hchild, hrest⟩ := Option.bind_eq_some_iff.mp h
    cases he with
    | file b => cases hchild
    | folder es names unique below =>
      have hmem : (name, c) ∈ es := mem_of_child? hchild
      have hname : name ∈ es.map (·.1) := List.mem_map_of_mem hmem
      rw [Entry.put, hchild]
      refine .folder _ ?_ ?_ ?_
      · intro p hp
        rcases mem_setIn hp with rfl | hp
        · exact names (name, c) hmem
        · exact names p hp
      · rw [entries, map_fst_setIn hname]
        exact unique
      · intro p hp
        rcases mem_setIn hp with rfl | hp
        · exact ih (below _ hmem) hrest
        · exact below p hp

end Entry

namespace FileSystem

/-! ## §5 Following paths -/

variable {fs : FileSystem} {place : Place}

/-- A file system as an operating system keeps it, in which nothing is out of reach. -/
structure WellFormed (fs : FileSystem) : Prop where
  root : fs.root.WellFormed
  cwd : Path.IsPlace fs.cwd
  /-- The path of everything there is can be looked up. (By relative paths an operating system lets
      folders be made below that limit; asking what they are is an error then.) -/
  lookup : ∀ place e, fs.root.at? place = some e →
    (Path.placeText place).utf8ByteSize < pathLimit

theorem wellFormed_iff :
    fs.WellFormed ↔ fs.root.WellFormed ∧ Path.IsPlace fs.cwd ∧
      ∀ p ∈ fs.root.subentries, (Path.placeText p.1).utf8ByteSize < pathLimit := by
  constructor
  · intro h
    exact ⟨h.root, h.cwd, fun p hp => h.lookup p.1 p.2 ((Entry.mem_subentries_iff h.root).mp hp)⟩
  · rintro ⟨root, cwd, lookup⟩
    exact ⟨root, cwd, fun place e h => lookup (place, e) ((Entry.mem_subentries_iff root).mpr h)⟩

instance (fs : FileSystem) : Decidable fs.WellFormed :=
  decidable_of_iff' _ wellFormed_iff

theorem hasNull_iff {path : String} : hasNull path = true ↔ '\x00' ∈ path.toList := by
  rw [hasNull, List.any_eq_true]
  constructor
  · rintro ⟨c, hc, hzero⟩
    have hchar : c = '\x00' := Char.toNat_inj.mp (of_decide_eq_true hzero)
    rwa [← hchar]
  · intro h
    exact ⟨'\x00', h, rfl⟩

theorem hasNull_normalText (path : String) : hasNull (Path.normalText path) = hasNull path := by
  rw [Bool.eq_iff_iff, hasNull_iff, hasNull_iff]
  exact Path.mem_normalText (by decide) (by decide)

theorem resolve_normalText (cwd : Place) (root : String) :
    resolve cwd (Path.normalText root) = resolve cwd root := by
  rw [resolve, hasNull_normalText, Path.placeOf_normalText]
  rfl

theorem resolve_eq_ok_iff {cwd : Place} {path : String} :
    resolve cwd path = .ok place ↔ hasNull path = false ∧ Path.placeOf cwd path = place := by
  unfold resolve
  cases hasNull path <;> simp

/-- The text of a place means the place. -/
theorem resolve_placeText (cwd : Place) (hplace : Path.IsPlace place) :
    resolve cwd (Path.placeText place) = .ok place := by
  refine resolve_eq_ok_iff.mpr ⟨?_, Path.placeOf_placeText cwd hplace⟩
  rw [← Bool.not_eq_true, hasNull_iff]
  exact Path.null_not_mem_placeText hplace

theorem probeAt_eq_some_iff {e : Entry} :
    fs.probeAt place = .ok (some e) ↔ fs.root.at? place = some e := by
  unfold probeAt
  cases fs.root.at? place with
  | some d => simp
  | none =>
    simp only [reduceCtorEq, iff_false]
    split
    · rename_i fault _
      cases fault <;> simp [nothingOr]
    · simp

/-- Names that lead to something are followed to it. -/
theorem follow_of_at? (path : String) {here names : Place} {e : Entry} (hnames : Path.IsPlace names)
    (h : fs.root.at? (here ++ names) = some e) :
    fs.follow path here names = .ok (here ++ names) := by
  induction names generalizing here with
  | nil => rw [List.append_nil]; rfl
  | cons name rest ih =>
    have hname := hnames name (List.mem_cons_self ..)
    rw [List.append_cons] at h ⊢
    have hnext := h
    rw [Entry.at?_append] at hnext
    obtain ⟨d, hd, _⟩ := Option.bind_eq_some_iff.mp hnext
    -- something is found under the name, so a folder is here
    have hhere := hd
    rw [Entry.at?_append] at hhere
    obtain ⟨c, hc, hcd⟩ := Option.bind_eq_some_iff.mp hhere
    obtain ⟨es, rfl⟩ := Entry.exists_folder_of_at?_cons hcd
    have hstep : Path.step here name = here ++ [name] := by
      rw [Path.step, if_neg hname.notUp]
    rw [follow, hc]
    simp only [hname.proper, if_true, hstep, hd, Option.isSome_some]
    exact ih (fun n hn => hnames n (List.mem_cons_of_mem _ hn)) h

/-- Following names goes along their parts. -/
theorem follow_eq_ok {path : String} {here : Place} {names : List String}
    (h : fs.follow path here names = .ok place) :
    place = (names.filter Path.isProperPart).foldl Path.step here := by
  induction names generalizing here with
  | nil =>
    cases h
    rfl
  | cons name rest ih =>
    unfold follow at h
    split at h
    · -- empty names and dots are passed over, in the walk as in the parts of a path
      by_cases hproper : Path.isProperPart name = true
      · rw [if_pos hproper] at h
        dsimp only at h
        split at h
        · rw [List.filter_cons_of_pos hproper, List.foldl_cons]
          exact ih h
        · split at h <;> cases h
      · rw [if_neg hproper] at h
        rw [List.filter_cons_of_neg hproper]
        exact ih h
    · cases h

/-- A path that leads somewhere has no null character, is not too long and can be followed. -/
theorem follow_of_locate {path : String} (h : fs.locate path = .ok place) :
    hasNull path = false ∧ path.utf8ByteSize < pathLimit ∧
      fs.follow path (if Text.startsWith path "/" then [] else fs.cwd) (Text.pieces '/' path) =
        .ok place := by
  unfold locate at h
  split at h
  · cases h
  · rename_i hnull
    split at h
    · cases h
    · split at h
      · cases h
      · rename_i hshort
        exact ⟨by simpa using hnull, Nat.lt_of_not_le hshort, h⟩

/-- A path that leads somewhere leads to the place that its text means. -/
theorem locate_eq_ok {path : String} (h : fs.locate path = .ok place) :
    hasNull path = false ∧ place = Path.placeOf fs.cwd path := by
  obtain ⟨hnull, -, hfollow⟩ := follow_of_locate h
  refine ⟨hnull, ?_⟩
  rw [follow_eq_ok hfollow, Path.placeOf, Path.place, Path.isAbsolute_ofText]
  rfl

/-- Empty pieces in front stay at the root. -/
theorem follow_slashes (path : String) {names : List String} {es : List (String × Entry)}
    (hroot : fs.root = .folder es) (k : Nat) :
    fs.follow path [] (List.replicate k "" ++ names) = fs.follow path [] names := by
  induction k with
  | zero => rfl
  | succ k ih =>
    rw [List.replicate_succ, List.cons_append, follow, Entry.at?, hroot]
    exact ih

/-- The empty piece in front stays at the root. -/
theorem follow_empty_cons (path : String) {names : List String} {es : List (String × Entry)}
    (hroot : fs.root = .folder es) : fs.follow path [] ("" :: names) = fs.follow path [] names :=
  follow_slashes path hroot 1

/-- Names that were followed are followed without those that say nothing, whatever the path is
    called. -/
theorem follow_filter {path : String} {here : Place} {names : List String}
    (h : fs.follow path here names = .ok place) (path' : String) :
    fs.follow path' here (names.filter Path.isProperPart) = .ok place := by
  induction names generalizing here with
  | nil => exact h
  | cons name rest ih =>
    unfold follow at h
    split at h
    · rename_i es hfolder
      by_cases hproper : Path.isProperPart name = true
      · rw [if_pos hproper] at h
        dsimp only at h
        split at h
        · rename_i hthere
          rw [List.filter_cons_of_pos hproper, follow, hfolder]
          dsimp only
          rw [if_pos hproper, if_pos hthere]
          exact ih h
        · split at h <;> cases h
      · rw [if_neg hproper] at h
        rw [List.filter_cons_of_neg hproper]
        exact ih h
    · cases h

/-- The first name is looked up in a folder, even one that says nothing. -/
theorem exists_folder_of_follow {path : String} {here : Place} {names : List String}
    (h : fs.follow path here names = .ok place) (hne : names ≠ []) :
    ∃ es, fs.root.at? here = some (.folder es) := by
  obtain ⟨name, rest, rfl⟩ := List.exists_cons_of_ne_nil hne
  unfold follow at h
  split at h
  · exact ⟨_, ‹_›⟩
  · cases h

/-- **The normal form of an absolute path** leads where the path leads. -/
theorem locate_normalText {path : String} (habsolute : Text.startsWith path "/" = true)
    (h : fs.locate path = .ok place) : fs.locate (Path.normalText path) = .ok place := by
  obtain ⟨hnull, hshort, hfollow⟩ := follow_of_locate h
  rw [if_pos habsolute] at hfollow
  have hpieces : Text.pieces '/' path ≠ [] := by
    simpa [Text.pieces] using Text.piecesOf_ne_nil '/' path.toList
  obtain ⟨es, hat⟩ := exists_folder_of_follow hfollow hpieces
  have hroot : fs.root = .folder es := Option.some.inj hat
  obtain ⟨k, hnormal⟩ := Path.exists_pieces_normalText habsolute
  -- the normal form is not too long since the path is not
  have hnormalShort : ¬pathLimit ≤ (Path.normalText path).utf8ByteSize := by
    have hle := Path.utf8ByteSize_normalText_le habsolute
    omega
  rw [locate, hasNull_normalText, hnull, if_neg Bool.false_ne_true,
    if_neg (Path.normalText_ne_empty path), if_neg hnormalShort,
    if_pos (Path.startsWith_normalText habsolute), hnormal, follow_slashes _ hroot]
  exact follow_filter hfollow _

/-- The text of a place is followed name by name from the root, if it is not too long as a whole. -/
theorem locate_placeText_eq (hne : place ≠ []) (hplace : Path.IsPlace place) :
    fs.locate (Path.placeText place) =
      if pathLimit ≤ (Path.placeText place).utf8ByteSize
      then .error (.tooLong (Path.placeText place))
      else fs.follow (Path.placeText place) [] ("" :: place) := by
  have hnull : ¬hasNull (Path.placeText place) = true := by
    rw [hasNull_iff]
    exact Path.null_not_mem_placeText hplace
  have hchars : (Path.placeText place).toList = [] ++ '/' :: (Text.join "/" place).toList := by
    simp [Path.placeText]
  have hstart : Text.startsWith (Path.placeText place) "/" = true := by
    rw [Text.startsWith, hchars]
    rfl
  have hpieces : Text.pieces '/' (Path.placeText place) = "" :: place := by
    rw [Text.pieces, hchars, Text.piecesOf_append_cons, List.map_append]
    show "" :: Text.pieces '/' (Text.join "/" place) = "" :: place
    rw [Text.pieces_join hne fun n hn => (hplace n hn).noSlash]
  rw [locate, if_neg hnull, if_neg (Path.placeText_ne_empty place), if_pos hstart, hpieces]

/-- **The text of a place** leads to the place, unless it is too long to be followed at all. -/
theorem locate_placeText {e : Entry} (hne : place ≠ []) (hplace : Path.IsPlace place)
    (h : fs.root.at? place = some e) :
    fs.locate (Path.placeText place) =
      if pathLimit ≤ (Path.placeText place).utf8ByteSize
      then .error (.tooLong (Path.placeText place)) else .ok place := by
  -- the root is a folder since there is something below
  obtain ⟨name, rest, rfl⟩ := List.exists_cons_of_ne_nil hne
  obtain ⟨es, hroot⟩ := Entry.exists_folder_of_at?_cons h
  rw [locate_placeText_eq hne hplace, follow_empty_cons _ hroot, follow_of_at? _ hplace h]
  rfl

/-- **Nothing is out of reach**: the text of a place leads to what is there. -/
theorem WellFormed.locate_placeText {e : Entry} (hfs : fs.WellFormed) (hne : place ≠ [])
    (h : fs.root.at? place = some e) : fs.locate (Path.placeText place) = .ok place := by
  rw [FileSystem.locate_placeText hne (hfs.root.at? h).2 h,
    if_neg (Nat.not_le.mpr (hfs.lookup place e h))]

/-- Of everything there is below the root, it can be asked whether it is a file. -/
theorem WellFormed.isFile_placeText {e : Entry} (hfs : fs.WellFormed) (hne : place ≠ [])
    (h : fs.root.at? place = some e) : fs.isFile (Path.placeText place) = .ok e.isFile := by
  rw [isFile, probe, hfs.locate_placeText hne h]
  dsimp only
  rw [h]
  rfl

/-- A file whose path is not too long is read under the text of its place. -/
theorem read_placeText {bytes : ByteArray} (hne : place ≠ []) (hplace : Path.IsPlace place)
    (hshort : (Path.placeText place).utf8ByteSize < pathLimit)
    (h : fs.root.at? place = some (.file bytes)) :
    fs.read (Path.placeText place) = textOf bytes := by
  rw [read, FileSystem.locate_placeText hne hplace h, if_neg (Nat.not_le.mpr hshort)]
  dsimp only
  rw [h]

/-! ## §6 What a path leads to -/

variable {path : String} {bytes : ByteArray}

/-- What a path leads to is at some place. -/
theorem exists_locate_of_entry? {e : Entry} (h : fs.entry? path = some e) :
    ∃ place, fs.locate path = .ok place ∧ fs.root.at? place = some e := by
  unfold entry? at h
  cases hlocate : fs.locate path with
  | error fault =>
    rw [hlocate] at h
    cases h
  | ok place =>
    rw [hlocate] at h
    exact ⟨place, rfl, h⟩

/-- What a path leads to is at the place that its text means. -/
theorem resolve_of_entry? {e : Entry} (h : fs.entry? path = some e) :
    resolve fs.cwd path = .ok (Path.placeOf fs.cwd path) ∧
      fs.root.at? (Path.placeOf fs.cwd path) = some e := by
  obtain ⟨place, hlocate, hat⟩ := exists_locate_of_entry? h
  obtain ⟨hnull, rfl⟩ := locate_eq_ok hlocate
  exact ⟨resolve_eq_ok_iff.mpr ⟨hnull, rfl⟩, hat⟩

theorem isPlace_of_entry? {e : Entry} (habsolute : Text.startsWith path "/" = true)
    (h : fs.entry? path = some e) : Path.IsPlace (Path.placeOf fs.cwd path) := by
  obtain ⟨hresolve, -⟩ := resolve_of_entry? h
  obtain ⟨hnull, -⟩ := resolve_eq_ok_iff.mp hresolve
  apply Path.isPlace_placeOf_absolute habsolute
  rw [← hasNull_iff, hnull]
  exact Bool.false_ne_true

theorem entry?_normalText {e : Entry} (habsolute : Text.startsWith path "/" = true)
    (h : fs.entry? path = some e) : fs.entry? (Path.normalText path) = some e := by
  obtain ⟨place, hlocate, hat⟩ := exists_locate_of_entry? h
  unfold entry?
  rw [locate_normalText habsolute hlocate]
  exact hat

theorem isFile_of_entry? (h : fs.entry? path = some (.file bytes)) : fs.isFile path = .ok true := by
  obtain ⟨place, hlocate, hat⟩ := exists_locate_of_entry? h
  rw [isFile, probe, hlocate]
  dsimp only
  rw [hat]
  rfl

theorem read_of_entry? (h : fs.entry? path = some (.file bytes)) : fs.read path = textOf bytes := by
  obtain ⟨place, hlocate, hat⟩ := exists_locate_of_entry? h
  rw [read, hlocate]
  dsimp only
  rw [hat]

theorem textOf_of_valid (h : bytes.IsValidUTF8) :
    textOf bytes = .ok (Text.unifyLineEnds (.fromUTF8 bytes h)) := by
  rw [textOf, Text.decode, String.fromUTF8?, dif_pos h]

theorem exists_textOf_of_not_valid (h : ¬bytes.IsValidUTF8) :
    ∃ fault, textOf bytes = .error fault := by
  rw [textOf, Text.decode, String.fromUTF8?, dif_neg h]
  exact ⟨_, rfl⟩

end FileSystem

end TsOutline
