import Mathlib.Data.List.Basic
import TsOutline.Path

/-!
# Reading and Writing Paths

A text is read into a path, and a path is written as a text. Both keep what they have to: reading what
was written gives the path back (`ofText_toText`), so the normal form of a text means the same place
as the text, and the text of a place is already in normal form and means that place. The normal form
of an absolute text has the parts for its pieces, after empty ones, and is not longer.
-/

namespace TsOutline

/-! ## §1 Splitting and joining -/

namespace Text

variable {sep : Char}

theorem piecesOf_ne_nil (sep : Char) (cs : List Char) : piecesOf sep cs ≠ [] := by
  cases cs with
  | nil => simp [piecesOf]
  | cons c cs =>
    unfold piecesOf
    split
    · simp
    · split <;> simp

/-- A separator ends one piece and starts the next. -/
theorem piecesOf_append_cons (sep : Char) (cs ds : List Char) :
    piecesOf sep (cs ++ sep :: ds) = piecesOf sep cs ++ piecesOf sep ds := by
  induction cs with
  | nil =>
    obtain ⟨p, ps, hps⟩ := List.exists_cons_of_ne_nil (piecesOf_ne_nil sep ds)
    simp [piecesOf, hps]
  | cons c cs ih =>
    -- the character goes to the first piece, which both sides have in common
    obtain ⟨p, ps, hps⟩ := List.exists_cons_of_ne_nil (piecesOf_ne_nil sep cs)
    rw [List.cons_append, piecesOf, ih, hps, piecesOf, hps]
    by_cases hc : c = sep
    · simp [hc]
    · simp [hc]

theorem piecesOf_of_not_mem {cs : List Char} (h : sep ∉ cs) : piecesOf sep cs = [cs] := by
  induction cs with
  | nil => rfl
  | cons c cs ih =>
    have hc : c ≠ sep := fun heq => h (heq ▸ List.mem_cons_self ..)
    have hcs : sep ∉ cs := fun hmem => h (List.mem_cons_of_mem _ hmem)
    rw [piecesOf, ih hcs]
    simp [hc]

theorem not_mem_of_mem_piecesOf {cs p : List Char} (h : p ∈ piecesOf sep cs) : sep ∉ p := by
  induction cs generalizing p with
  | nil =>
    rw [piecesOf, List.mem_singleton] at h
    rw [h]
    exact List.not_mem_nil
  | cons c cs ih =>
    obtain ⟨q, qs, hqs⟩ := List.exists_cons_of_ne_nil (piecesOf_ne_nil sep cs)
    rw [hqs] at ih
    rw [piecesOf, hqs] at h
    by_cases hc : c = sep
    · simp only [hc, if_true] at h
      rcases List.mem_cons.mp h with rfl | hrest
      · exact List.not_mem_nil
      · exact ih hrest
    · simp only [hc, if_false] at h
      rcases List.mem_cons.mp h with rfl | hrest
      · -- the character was put in front of the first piece
        intro hmem
        rcases List.mem_cons.mp hmem with heq | hq
        · exact hc heq.symm
        · exact ih (List.mem_cons_self ..) hq
      · exact ih (List.mem_cons_of_mem _ hrest)

/-- The pieces hold all characters but the separators. -/
theorem mem_iff_mem_piecesOf {cs : List Char} {c : Char} (hc : c ≠ sep) :
    c ∈ cs ↔ ∃ p ∈ piecesOf sep cs, c ∈ p := by
  induction cs with
  | nil => simp [piecesOf]
  | cons d cs ih =>
    obtain ⟨q, qs, hqs⟩ := List.exists_cons_of_ne_nil (piecesOf_ne_nil sep cs)
    rw [hqs] at ih
    rw [piecesOf, hqs, List.mem_cons, ih]
    by_cases hd : d = sep
    · simp [hd, hc]
    · simp [hd, or_assoc]

theorem mem_toList_join {separator : String} {parts : List String} {c : Char}
    (hc : c ∉ separator.toList) :
    c ∈ (join separator parts).toList ↔ ∃ p ∈ parts, c ∈ p.toList := by
  fun_induction join separator parts with
  | case1 => simp
  | case2 x => simp
  | case3 x y rest ih => simp [hc, ih]

theorem join_cons {separator : String} {parts : List String} (h : parts ≠ []) (x : String) :
    join separator (x :: parts) = x ++ separator ++ join separator parts := by
  obtain ⟨y, rest, rfl⟩ := List.exists_cons_of_ne_nil h
  rfl

/-- Two groups of parts can be joined apart, as long as neither is empty. -/
theorem join_append {separator : String} {parts more : List String} (h : parts ≠ [])
    (hmore : more ≠ []) :
    join separator (parts ++ more) = join separator parts ++ separator ++ join separator more := by
  induction parts with
  | nil => exact absurd rfl h
  | cons x rest ih =>
    by_cases hlast : rest = []
    · rw [hlast, List.singleton_append, join_cons hmore]
      rfl
    · rw [List.cons_append, join_cons (by simp [hlast]), ih hlast, join_cons hlast]
      simp only [String.append_assoc]

section Separator

variable {separator : String} (hsep : separator.toList = [sep])

include hsep

/-- The first of joined parts is the first piece, if the separator is not in it. -/
theorem pieces_join_cons {x : String} (hx : sep ∉ x.toList) (y : String) (rest : List String) :
    pieces sep (join separator (x :: y :: rest)) = x :: pieces sep (join separator (y :: rest)) := by
  have hchars : (join separator (x :: y :: rest)).toList =
      x.toList ++ sep :: (join separator (y :: rest)).toList := by
    rw [join, String.toList_append, String.toList_append, hsep, List.append_assoc]
    rfl
  rw [pieces, hchars, piecesOf_append_cons, piecesOf_of_not_mem hx, List.map_append]
  show [String.ofList x.toList] ++ pieces sep (join separator (y :: rest)) = _
  rw [String.ofList_toList]
  rfl

/-- Splitting at a separator gives back what was joined with it. -/
theorem pieces_join_separator {parts : List String} (hne : parts ≠ [])
    (h : ∀ p ∈ parts, sep ∉ p.toList) : pieces sep (join separator parts) = parts := by
  fun_induction join separator parts with
  | case1 => exact absurd rfl hne
  | case2 x =>
    have hx : sep ∉ x.toList := h x (List.mem_cons_self ..)
    simp [pieces, piecesOf_of_not_mem hx]
  | case3 x y rest ih =>
    have hx : sep ∉ x.toList := h x (List.mem_cons_self ..)
    rw [← join, pieces_join_cons hsep hx, ih (by simp) fun p hp => h p (List.mem_cons_of_mem _ hp)]

end Separator

/-- Splitting gives back what was joined. -/
theorem pieces_join {parts : List String} (hne : parts ≠ [])
    (h : ∀ p ∈ parts, '/' ∉ p.toList) : pieces '/' (join "/" parts) = parts :=
  pieces_join_separator rfl hne h

/-- Joining gives back what was split. -/
theorem join_pieces (s : String) : join "/" (pieces '/' s) = s := by
  have hchars (cs : List Char) :
      (join "/" ((piecesOf '/' cs).map String.ofList)).toList = cs := by
    induction cs with
    | nil => rfl
    | cons c cs ih =>
      obtain ⟨p, ps, hps⟩ := List.exists_cons_of_ne_nil (piecesOf_ne_nil '/' cs)
      rw [hps] at ih
      rw [piecesOf, hps]
      by_cases hc : c = '/'
      · -- the slash ends an empty piece
        simp only [hc, if_true, List.map_cons, join, String.toList_append]
        rw [List.map_cons] at ih
        simp [ih]
      · -- any other character goes to the first piece
        simp only [hc, if_false, List.map_cons]
        rw [List.map_cons] at ih
        cases hrest : ps.map String.ofList with
        | nil =>
          rw [hrest] at ih
          simpa [join] using ih
        | cons q qs =>
          rw [hrest] at ih
          simp only [join, String.toList_append, String.toList_ofList] at ih ⊢
          simpa using ih
  rw [← String.toList_inj, pieces, hchars]

/-- Leaving parts out makes the joined text no longer. -/
theorem utf8ByteSize_join_filter_le (separator : String) (keep : String → Bool)
    (parts : List String) :
    (join separator (parts.filter keep)).utf8ByteSize ≤ (join separator parts).utf8ByteSize := by
  induction parts with
  | nil => exact Nat.le_refl _
  | cons x rest ih =>
    by_cases hrest : rest = []
    · -- the only part is kept or not
      rw [hrest, List.filter_cons]
      split
      · exact Nat.le_refl _
      · exact Nat.zero_le _
    · rw [join_cons hrest, String.utf8ByteSize_append]
      by_cases hkeep : keep x = true
      · rw [List.filter_cons_of_pos hkeep]
        by_cases hnone : rest.filter keep = []
        · rw [hnone, String.utf8ByteSize_append]
          show x.utf8ByteSize ≤ _
          omega
        · rw [join_cons hnone, String.utf8ByteSize_append]
          exact Nat.add_le_add_left ih _
      · rw [List.filter_cons_of_neg hkeep]
        exact Nat.le_trans ih (Nat.le_add_left _ _)

end Text

namespace Path

open Text (pieces join)

/-! ## §2 Texts of paths -/

/-- A path as reading makes it: at most two slashes in front, and parts that say where to go. -/
structure WellFormed (p : Path) : Prop where
  slashes : p.slashes ≤ 2
  proper : ∀ part ∈ p.parts, isProperPart part = true
  noSlash : ∀ part ∈ p.parts, '/' ∉ part.toList

theorem slash_not_mem_of_mem_pieces {s part : String} (h : part ∈ pieces '/' s) :
    '/' ∉ part.toList := by
  obtain ⟨p, hp, rfl⟩ := List.mem_map.mp h
  rw [String.toList_ofList]
  exact Text.not_mem_of_mem_piecesOf hp

theorem ofText_wellFormed (s : String) : (ofText s).WellFormed := by
  refine ⟨?_, ?_, ?_⟩
  · show leadingSlashes s ≤ 2
    unfold leadingSlashes
    split <;> omega
  · intro part hpart
    exact (List.mem_filter.mp hpart).2
  · intro part hpart
    exact slash_not_mem_of_mem_pieces (List.mem_filter.mp hpart).1

/-- A path is absolute if its text starts with a slash. -/
theorem isAbsolute_ofText (s : String) : (ofText s).isAbsolute = Text.startsWith s "/" := by
  unfold ofText isAbsolute leadingSlashes Text.startsWith
  cases hs : s.toList with
  | nil => rfl
  | cons c cs =>
    by_cases hc : c = '/'
    · rw [hc, List.takeWhile_cons_of_pos (by decide), List.length_cons]
      dsimp only
      split
      · rename_i hzero
        omega
      · rfl
      · rfl
    · have hne : '/' ≠ c := fun heq => hc heq.symm
      simp [List.isPrefixOf, hc, hne]

theorem ne_nil_of_isProperPart {part : String} (h : isProperPart part = true) :
    part.toList ≠ [] := by
  intro hnil
  have hempty : part = "" := String.toList_inj.mp hnil
  rw [hempty] at h
  exact absurd h (by decide)

/-- The parts of a path do not start with a slash. -/
theorem takeWhile_slash_join {parts : List String} (hproper : ∀ p ∈ parts, isProperPart p = true)
    (hslash : ∀ p ∈ parts, '/' ∉ p.toList) :
    (join "/" parts).toList.takeWhile (· = '/') = [] := by
  -- only the first part decides
  have hfirst (x : String) (more : List Char) (hx : isProperPart x = true) (hno : '/' ∉ x.toList) :
      (x.toList ++ more).takeWhile (· = '/') = [] := by
    obtain ⟨c, cs, hcs⟩ := List.exists_cons_of_ne_nil (ne_nil_of_isProperPart hx)
    have hc : c ≠ '/' := by
      intro heq
      rw [hcs, heq] at hno
      exact hno (List.mem_cons_self ..)
    simp [hcs, hc]
  fun_cases join "/" parts with
  | case1 => rfl
  | case2 x =>
    have h := hfirst x [] (hproper x (by simp)) (hslash x (by simp))
    rwa [List.append_nil] at h
  | case3 x y rest =>
    rw [String.append_assoc, String.toList_append]
    exact hfirst x _ (hproper x (by simp)) (hslash x (by simp))

theorem filter_pieces_join {parts : List String} (hproper : ∀ p ∈ parts, isProperPart p = true)
    (hslash : ∀ p ∈ parts, '/' ∉ p.toList) :
    (pieces '/' (join "/" parts)).filter isProperPart = parts := by
  by_cases hne : parts = []
  · subst hne
    decide
  · rw [Text.pieces_join hne hslash, List.filter_eq_self]
    exact hproper

/-- Slashes in front make empty pieces. -/
theorem pieces_slashes (k : Nat) (s : String) :
    pieces '/' (String.ofList (List.replicate k '/') ++ s) =
      List.replicate k "" ++ pieces '/' s := by
  induction k with
  | zero => simp
  | succ k ih =>
    have hchars : (String.ofList (List.replicate (k + 1) '/') ++ s).toList =
        [] ++ '/' :: (String.ofList (List.replicate k '/') ++ s).toList := by
      simp [List.replicate_succ]
    rw [pieces, hchars, Text.piecesOf_append_cons, List.map_append, List.replicate_succ,
      List.cons_append, ← ih]
    rfl

/-- Empty pieces say nothing. -/
theorem filter_pieces_slashes (k : Nat) (s : String) :
    (pieces '/' (String.ofList (List.replicate k '/') ++ s)).filter isProperPart =
      (pieces '/' s).filter isProperPart := by
  rw [pieces_slashes, List.filter_append, List.filter_replicate_of_neg (by decide),
    List.nil_append]

theorem leadingSlashes_append {k : Nat} {s : String} (hk : k ≤ 2)
    (hs : s.toList.takeWhile (· = '/') = []) :
    leadingSlashes (String.ofList (List.replicate k '/') ++ s) = k := by
  have hcount : ((String.ofList (List.replicate k '/') ++ s).toList.takeWhile (· = '/')).length
      = k := by
    rw [String.toList_append, String.toList_ofList, List.takeWhile_append_of_pos (by simp), hs]
    simp
  -- three slashes and more count as one, so the bound is needed
  unfold leadingSlashes
  rw [hcount]
  obtain rfl | rfl | rfl : k = 0 ∨ k = 1 ∨ k = 2 := by omega
  all_goals rfl

/-- **Reading what was written** gives the path back. -/
theorem ofText_toText {p : Path} (h : p.WellFormed) : ofText p.toText = p := by
  obtain ⟨slashes, parts⟩ := p
  unfold toText
  split
  · -- the path without slashes and parts is written as a dot
    rename_i hdot
    simp only [Bool.and_eq_true, decide_eq_true_eq, List.isEmpty_iff] at hdot
    obtain ⟨rfl, rfl⟩ := hdot
    decide
  · unfold ofText
    rw [leadingSlashes_append h.slashes (takeWhile_slash_join h.proper h.noSlash),
      filter_pieces_slashes, filter_pieces_join h.proper h.noSlash]

/-- The normal form of a text is read as the text is. -/
theorem ofText_normalText (s : String) : ofText (normalText s) = ofText s :=
  ofText_toText (ofText_wellFormed s)

theorem placeOf_normalText (cwd : Place) (s : String) :
    placeOf cwd (normalText s) = placeOf cwd s := by
  rw [placeOf, ofText_normalText]
  rfl

/-- The normal form keeps all characters but slashes and dots. -/
theorem mem_normalText {s : String} {c : Char} (hslash : c ≠ '/') (hdot : c ≠ '.') :
    c ∈ (normalText s).toList ↔ c ∈ s.toList := by
  have hparts : (∃ p ∈ (ofText s).parts, c ∈ p.toList) ↔ c ∈ s.toList := by
    rw [Text.mem_iff_mem_piecesOf hslash]
    constructor
    · rintro ⟨p, hp, hc⟩
      obtain ⟨q, hq, rfl⟩ := List.mem_map.mp (List.mem_filter.mp hp).1
      exact ⟨q, hq, by simpa using hc⟩
    · -- a piece with the character is neither empty nor a dot, so it is kept
      rintro ⟨q, hq, hc⟩
      have hne : String.ofList q ≠ "" := by
        intro heq
        have hnil : q = [] := by simpa using congrArg String.toList heq
        rw [hnil] at hc
        exact List.not_mem_nil hc
      have hnodot : String.ofList q ≠ "." := by
        intro heq
        have hsingle : q = ['.'] := by simpa using congrArg String.toList heq
        rw [hsingle] at hc
        exact hdot (List.mem_singleton.mp hc)
      refine ⟨String.ofList q, List.mem_filter.mpr ⟨List.mem_map_of_mem hq, ?_⟩, by simpa using hc⟩
      simp [isProperPart, hne, hnodot]
  rw [← hparts, normalText, toText]
  split
  · rename_i hempty
    simp only [Bool.and_eq_true, decide_eq_true_eq, List.isEmpty_iff] at hempty
    rw [hempty.2]
    simp [hdot]
  · rw [String.toList_append, List.mem_append, String.toList_ofList, List.mem_replicate,
      Text.mem_toList_join (by simpa using hslash)]
    simp [hslash]

/-- A normal form is never empty. -/
theorem normalText_ne_empty (s : String) : normalText s ≠ "" := by
  -- if it were, the text would be read as the empty one is, and that is written as a dot
  intro hempty
  have hread := ofText_normalText s
  rw [hempty] at hread
  rw [normalText, ← hread] at hempty
  exact absurd hempty (by decide)

/-- The slashes that are kept are in front of the text. -/
theorem exists_slashes_append (s : String) :
    ∃ rest, s = String.ofList (List.replicate (leadingSlashes s) '/') ++ rest := by
  have hle : leadingSlashes s ≤ (s.toList.takeWhile (· = '/')).length := by
    unfold leadingSlashes
    split
    · exact Nat.zero_le _
    · rename_i htwo
      exact Nat.le_of_eq htwo.symm
    · rename_i hzero _
      exact Nat.pos_of_ne_zero hzero
  have hfront : s.toList.take (leadingSlashes s) = List.replicate (leadingSlashes s) '/' := by
    refine List.eq_replicate_iff.mpr ⟨?_, fun c hc => ?_⟩
    · rw [List.length_take]
      have hlength := (List.takeWhile_sublist (· = '/') (l := s.toList)).length_le
      omega
    · rw [← List.takeWhile_append_dropWhile (p := (· = '/')) (l := s.toList),
        List.take_append_of_le_length hle] at hc
      simpa using List.all_eq_true.mp List.all_takeWhile c (List.mem_of_mem_take hc)
  refine ⟨String.ofList (s.toList.drop (leadingSlashes s)), ?_⟩
  rw [← String.ofList_append, ← hfront, List.take_append_drop, String.ofList_toList]

section Absolute

variable {s : String} (habsolute : Text.startsWith s "/" = true)

include habsolute

/-- The normal form of an absolute text keeps the slashes in front and joins the parts. -/
theorem normalText_of_absolute :
    normalText s = String.ofList (List.replicate (leadingSlashes s) '/') ++
      join "/" (ofText s).parts := by
  have hslashes : leadingSlashes s ≠ 0 := by
    rw [← isAbsolute_ofText] at habsolute
    exact bne_iff_ne.mp habsolute
  have hdot : ¬((ofText s).slashes = 0 && (ofText s).parts.isEmpty) = true := by
    simp [ofText, hslashes]
  rw [normalText, toText, if_neg hdot]
  rfl

theorem startsWith_normalText : Text.startsWith (normalText s) "/" = true := by
  rw [← isAbsolute_ofText, ofText_normalText, isAbsolute_ofText, habsolute]

/-- The pieces of the normal form are the parts of the path, after empty ones. -/
theorem exists_pieces_normalText :
    ∃ k, pieces '/' (normalText s) = List.replicate k "" ++ (ofText s).parts := by
  rw [normalText_of_absolute habsolute, pieces_slashes]
  by_cases hparts : (ofText s).parts = []
  · -- what is joined from nothing is still one piece
    refine ⟨leadingSlashes s + 1, ?_⟩
    rw [hparts, List.append_nil, List.replicate_succ']
    rfl
  · exact ⟨_, by rw [Text.pieces_join hparts (ofText_wellFormed s).noSlash]⟩

/-- The normal form is not longer. -/
theorem utf8ByteSize_normalText_le : (normalText s).utf8ByteSize ≤ s.utf8ByteSize := by
  obtain ⟨rest, hrest⟩ := exists_slashes_append s
  rw [normalText_of_absolute habsolute]
  generalize leadingSlashes s = k at hrest
  subst hrest
  have hparts : (ofText (String.ofList (List.replicate k '/') ++ rest)).parts =
      (pieces '/' rest).filter isProperPart := filter_pieces_slashes k rest
  have hjoin : (join "/" ((pieces '/' rest).filter isProperPart)).utf8ByteSize ≤
      rest.utf8ByteSize := by
    have hle := Text.utf8ByteSize_join_filter_le "/" isProperPart (pieces '/' rest)
    rwa [Text.join_pieces] at hle
  rw [hparts, String.utf8ByteSize_append, String.utf8ByteSize_append]
  exact Nat.add_le_add_left hjoin _

end Absolute

/-! ## §3 Names and places -/

/-- A name of a file or folder: it says where to go and does not go up, and it has neither a slash nor
    a null character. -/
structure IsName (name : String) : Prop where
  proper : isProperPart name = true
  notUp : name ≠ ".."
  noSlash : '/' ∉ name.toList
  noNull : '\x00' ∉ name.toList

instance (name : String) : Decidable (IsName name) :=
  decidable_of_iff
    (isProperPart name = true ∧ name ≠ ".." ∧ '/' ∉ name.toList ∧ '\x00' ∉ name.toList)
    ⟨fun h => ⟨h.1, h.2.1, h.2.2.1, h.2.2.2⟩, fun h => ⟨h.proper, h.notUp, h.noSlash, h.noNull⟩⟩

/-- A place all of whose parts are names. -/
def IsPlace (place : Place) : Prop :=
  ∀ name ∈ place, IsName name

instance (place : Place) : Decidable (IsPlace place) :=
  inferInstanceAs (Decidable (∀ name ∈ place, IsName name))

theorem IsPlace.append {p q : Place} (hp : IsPlace p) (hq : IsPlace q) : IsPlace (p ++ q) := by
  intro name hname
  rcases List.mem_append.mp hname with h | h
  · exact hp name h
  · exact hq name h

/-- Going along names leads down. -/
theorem foldl_step_of_isPlace {place : Place} (start : Place) (h : IsPlace place) :
    place.foldl step start = start ++ place := by
  induction place generalizing start with
  | nil => simp
  | cons name rest ih =>
    have hstep : step start name = start ++ [name] := by
      rw [step, if_neg (h name (List.mem_cons_self ..)).notUp]
    rw [List.foldl_cons, hstep, ih _ fun n hn => h n (List.mem_cons_of_mem _ hn)]
    simp

/-- Whatever the parts, going along them stays among names. -/
theorem isPlace_foldl_step {parts : List String} {start : Place} (hstart : IsPlace start)
    (hparts : ∀ part ∈ parts, part ≠ ".." → IsName part) : IsPlace (parts.foldl step start) := by
  induction parts generalizing start with
  | nil => exact hstart
  | cons part rest ih =>
    apply ih
    · -- one step: up drops the last name, and anything else is a name
      unfold step
      split
      · exact fun name hname => hstart name (List.dropLast_subset _ hname)
      · rename_i hup
        refine hstart.append ?_
        intro name hname
        rw [List.mem_singleton.mp hname]
        exact hparts part (List.mem_cons_self ..) hup
    · exact fun p hp => hparts p (List.mem_cons_of_mem _ hp)

/-- The place that a text means has names for parts. -/
theorem isPlace_placeOf {cwd : Place} {s : String} (hcwd : IsPlace cwd)
    (hnull : '\x00' ∉ s.toList) : IsPlace (placeOf cwd s) := by
  have hwell := ofText_wellFormed s
  apply isPlace_foldl_step
  · split
    · exact fun name hname => absurd hname List.not_mem_nil
    · exact hcwd
  · intro part hpart hup
    refine ⟨hwell.proper part hpart, hup, hwell.noSlash part hpart, ?_⟩
    -- the characters of a part are characters of the text
    obtain ⟨q, hq, rfl⟩ := List.mem_map.mp (List.mem_filter.mp hpart).1
    rw [String.toList_ofList]
    intro hmem
    exact hnull ((Text.mem_iff_mem_piecesOf (by decide)).mpr ⟨q, hq, hmem⟩)

/-- An absolute text means the same place wherever one is. -/
theorem isPlace_placeOf_absolute {cwd : Place} {s : String}
    (habsolute : Text.startsWith s "/" = true) (hnull : '\x00' ∉ s.toList) :
    IsPlace (placeOf cwd s) := by
  have hroot : placeOf cwd s = placeOf [] s := by
    simp only [placeOf, place, isAbsolute_ofText, habsolute, if_true]
  rw [hroot]
  exact isPlace_placeOf (fun name hname => absurd hname List.not_mem_nil) hnull

theorem ofText_placeText {place : Place} (h : IsPlace place) :
    ofText (placeText place) = ⟨1, place⟩ :=
  ofText_toText (p := ⟨1, place⟩)
    ⟨Nat.le_succ 1, fun n hn => (h n hn).proper, fun n hn => (h n hn).noSlash⟩

/-- **The text of a place** means that place, wherever one is. -/
theorem placeOf_placeText (cwd : Place) {place : Place} (h : IsPlace place) :
    placeOf cwd (placeText place) = place := by
  rw [placeOf, ofText_placeText h]
  exact foldl_step_of_isPlace [] h

theorem placeText_ne_empty (place : Place) : placeText place ≠ "" := by
  intro heq
  have hchars : (placeText place).toList = '/' :: (join "/" place).toList := by simp [placeText]
  rw [heq] at hchars
  cases hchars

theorem normalText_placeText {place : Place} (h : IsPlace place) :
    normalText (placeText place) = placeText place := by
  rw [normalText, ofText_placeText h]
  rfl

theorem placeText_inj {p q : Place} (hp : IsPlace p) (hq : IsPlace q)
    (h : placeText p = placeText q) : p = q := by
  rw [← placeOf_placeText [] hp, h, placeOf_placeText [] hq]

theorem null_not_mem_placeText {place : Place} (h : IsPlace place) :
    '\x00' ∉ (placeText place).toList := by
  rw [placeText, String.toList_append, List.mem_append, Text.mem_toList_join (by decide)]
  rintro (hslash | ⟨name, hname, hmem⟩)
  · exact absurd hslash (by decide)
  · exact (h name hname).noNull hmem

end Path

end TsOutline
