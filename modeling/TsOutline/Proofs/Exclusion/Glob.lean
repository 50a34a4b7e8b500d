import Mathlib.Tactic.MkIffOfInductiveProp
import TsOutline.Exclusion
import TsOutline.Proofs.OneLine.Type

/-!
# Globs and the Names of a Path

A pattern is matched against the characters of a path, but what it asks for is about the names between
the slashes. Three shapes of patterns are all that plain names need:

- **Below folders** (`Pattern.below`): some folders, one in the other, have the given names.
- **Below a folder that starts so** (`Pattern.belowStarting`).
- **A name** (`Pattern.named`): some name on the way, the last one included.

For each of them there is one lemma on what it hits (`hits_below_iff` and so on) and one on the text
that it is compiled from (`compile_below` and so on).
-/

namespace TsOutline

/-! ## §1 Texts of places -/

namespace Text

theorem toList_join_cons (x y : String) (rest : List String) :
    (join "/" (x :: y :: rest)).toList = x.toList ++ '/' :: (join "/" (y :: rest)).toList := by
  simp [join]

theorem toList_join_append {above below : List String} (habove : above ≠ []) (hbelow : below ≠ []) :
    (join "/" (above ++ below)).toList =
      (join "/" above).toList ++ '/' :: (join "/" below).toList := by
  rw [join_append habove hbelow]
  simp

/-- A slash in the text of names stands between two of them. -/
theorem eq_append_of_toList_join {names : List String} (hslash : ∀ n ∈ names, '/' ∉ n.toList)
    (hne : names ≠ []) {cs ds : List Char} (h : (join "/" names).toList = cs ++ '/' :: ds) :
    names = pieces '/' (String.ofList cs) ++ pieces '/' (String.ofList ds) := by
  rw [← pieces_join hne hslash, pieces, h, piecesOf_append_cons, List.map_append, pieces, pieces,
    String.toList_ofList, String.toList_ofList]

theorem pieces_ne_nil (s : String) : pieces '/' s ≠ [] := by
  simp [pieces, piecesOf_ne_nil]

theorem pieces_of_not_mem {s : String} (h : '/' ∉ s.toList) : pieces '/' s = [s] := by
  simp [pieces, piecesOf_of_not_mem h]

end Text

open Text (join OneLine)

namespace Path

/-- The names of a path below some folder: there is at least one, none of them is empty or a dot, and
    there is neither a slash nor a line feed in them. -/
@[mk_iff] structure IsRelative (place : Place) : Prop where
  ne_nil : place ≠ []
  proper : ∀ name ∈ place, isProperPart name = true
  noSlash : ∀ name ∈ place, '/' ∉ name.toList
  oneLine : ∀ name ∈ place, OneLine name

instance (place : Place) : Decidable (IsRelative place) :=
  decidable_of_iff' _ (isRelative_iff place)

theorem IsRelative.of_append {above below : Place} (h : IsRelative (above ++ below))
    (hne : below ≠ []) : IsRelative below where
  ne_nil := hne
  proper name hname := h.proper name (List.mem_append_right _ hname)
  noSlash name hname := h.noSlash name (List.mem_append_right _ hname)
  oneLine name hname := h.oneLine name (List.mem_append_right _ hname)

end Path

namespace Glob

open Exclusion (isWildcard)
open Text (piecesOf pieces trimEndChars)
open TsOutline.Path (IsRelative)

/-! ## §2 Matching characters -/

section Matching

variable {p : Char → Bool} {k : List Char → Bool} {cs : List Char}

theorem matchOne_iff : matchOne p k cs = true ↔ ∃ c ds, cs = c :: ds ∧ p c = true ∧ k ds = true := by
  cases cs <;> simp [matchOne]

theorem matchMany_iff :
    matchMany p k cs = true ↔ ∃ as bs, cs = as ++ bs ∧ (∀ a ∈ as, p a = true) ∧ k bs = true := by
  induction cs with
  | nil => simp [matchMany]
  | cons c cs ih =>
    simp only [matchMany, Bool.or_eq_true, Bool.and_eq_true, ih]
    constructor
    · rintro (hk | ⟨hc, as, bs, rfl, has, hk⟩)
      · exact ⟨[], c :: cs, rfl, by simp, hk⟩
      · exact ⟨c :: as, bs, rfl, by simpa [hc] using has, hk⟩
    · rintro ⟨as, bs, hcs, has, hk⟩
      cases as with
      | nil =>
        rw [List.nil_append] at hcs
        exact .inl (hcs ▸ hk)
      | cons a as =>
        obtain ⟨rfl, rfl⟩ := List.cons.inj hcs
        exact .inr ⟨has c (by simp), as, bs, rfl, fun a ha => has a (by simp [ha]), hk⟩

theorem matchSome_iff :
    matchSome p k cs = true ↔
      ∃ as bs, cs = as ++ bs ∧ as ≠ [] ∧ (∀ a ∈ as, p a = true) ∧ k bs = true := by
  simp only [matchSome, matchOne_iff, matchMany_iff]
  constructor
  · rintro ⟨c, _, rfl, hc, as, bs, rfl, has, hk⟩
    exact ⟨c :: as, bs, rfl, by simp, by simpa [hc] using has, hk⟩
  · rintro ⟨as, bs, rfl, hne, has, hk⟩
    obtain ⟨a, as, rfl⟩ := List.exists_cons_of_ne_nil hne
    exact ⟨a, as ++ bs, rfl, has a (by simp), as, bs, rfl, fun b hb => has b (by simp [hb]), hk⟩

/-- The pieces that stand for themselves. -/
def literal (cs : List Char) : List Piece :=
  cs.map .char

/-- A literal is a beginning of what it matches. -/
theorem runAll_literal {name : List Char} {ps : List Piece} :
    runAll (literal name ++ ps) cs = true ↔ ∃ ds, cs = name ++ ds ∧ runAll ps ds = true := by
  induction name generalizing cs with
  | nil => simp [literal]
  | cons c name ih =>
    have hstep : runAll (literal (c :: name) ++ ps) cs =
        matchOne (· == c) (runAll (literal name ++ ps)) cs := rfl
    rw [hstep, matchOne_iff]
    simp only [ih, beq_iff_eq, List.cons_append]
    constructor
    · rintro ⟨_, _, rfl, rfl, ds, rfl, hds⟩
      exact ⟨ds, rfl, hds⟩
    · rintro ⟨ds, rfl, hds⟩
      exact ⟨c, name ++ ds, rfl, rfl, ds, rfl, hds⟩

theorem runAll_slash : runAll [.char '/'] cs = true ↔ ∃ ds, cs = '/' :: ds := by
  simp [runAll, Piece.run, matchOne_iff]

end Matching

/-! ## §3 Matching names -/

section Names

variable {place : Place} {ps : List Piece}

/-- **Folders above**: what follows them is matched against the names from some position on. -/
theorem runAll_foldersAbove (h : IsRelative place) :
    runAll (.foldersAbove :: ps) (join "/" place).toList = true ↔
      ∃ above below, place = above ++ below ∧ below ≠ [] ∧
        runAll ps (join "/" below).toList = true := by
  simp only [runAll, Piece.run, Bool.or_eq_true, matchSome_iff, matchOne_iff]
  constructor
  · rintro (⟨as, _, hsplit, _, _, c, ds, rfl, hc, hrun⟩ | hrun)
    · -- the slash stands between two names, so the rest is the text of the later ones
      obtain rfl : c = '/' := by simpa [isSlash] using hc
      have hplace := Text.eq_append_of_toList_join h.noSlash h.ne_nil hsplit
      refine ⟨_, _, hplace, Text.pieces_ne_nil _, ?_⟩
      rwa [Text.join_pieces, String.toList_ofList]
    · exact ⟨[], place, rfl, h.ne_nil, hrun⟩
  · rintro ⟨above, below, rfl, hne, hrun⟩
    by_cases habove : above = []
    · subst habove
      exact .inr hrun
    · refine .inl ⟨(join "/" above).toList, '/' :: (join "/" below).toList,
        Text.toList_join_append habove hne, ?_, ?_, '/', _, rfl, rfl, hrun⟩
      · -- the first name has a character
        obtain ⟨name, rest, rfl⟩ := List.exists_cons_of_ne_nil habove
        have hname := Path.ne_nil_of_isProperPart (h.proper name (by simp))
        cases rest with
        | nil => exact hname
        | cons next rest =>
          rw [Text.toList_join_cons]
          exact List.append_ne_nil_of_left_ne_nil hname _
      · -- and no character of the folders is a line feed
        have hone : OneLine (join "/" above) :=
          (Text.oneLine_join (by decide)).mpr fun n hn => h.oneLine n (List.mem_append_left _ hn)
        intro c hc
        have hne : c ≠ '\n' := by
          rintro rfl
          exact hone hc
        simpa [inLine] using hne

/-- Names that a literal and a slash match are the first ones, and not all. -/
theorem runAll_names_slash {names : List String} (hnames : names ≠ [])
    (hnoSlash : ∀ n ∈ names, '/' ∉ n.toList) (h : IsRelative place) :
    runAll (literal (join "/" names).toList ++ [.char '/']) (join "/" place).toList = true ↔
      ∃ rest, rest ≠ [] ∧ place = names ++ rest := by
  simp only [runAll_literal, runAll_slash]
  constructor
  · rintro ⟨_, hsplit, ds, rfl⟩
    have hplace := Text.eq_append_of_toList_join h.noSlash h.ne_nil hsplit
    rw [String.ofList_toList, Text.pieces_join hnames hnoSlash] at hplace
    exact ⟨_, Text.pieces_ne_nil _, hplace⟩
  · rintro ⟨rest, hrest, rfl⟩
    exact ⟨_, Text.toList_join_append hnames hrest, _, rfl⟩

/-- A literal up to the end of a name is the first name. -/
theorem runAll_name_boundary {name : String} (hname : '/' ∉ name.toList) (h : IsRelative place) :
    runAll (literal name.toList ++ [.boundary]) (join "/" place).toList = true ↔
      ∃ rest, place = name :: rest := by
  simp only [runAll_literal, runAll, Piece.run, Bool.or_eq_true, Bool.and_true, matchOne_iff]
  constructor
  · rintro ⟨_, hsplit, ⟨c, ds, rfl, hc, -⟩ | hend⟩
    · obtain rfl : c = '/' := by simpa [isSlash] using hc
      have hplace := Text.eq_append_of_toList_join h.noSlash h.ne_nil hsplit
      rw [String.ofList_toList, Text.pieces_of_not_mem hname] at hplace
      exact ⟨_, hplace⟩
    · -- the end of the path, for there is no line feed right before it
      rw [atEnd, Bool.or_eq_true, beq_iff_eq, beq_iff_eq] at hend
      rcases hend with rfl | rfl
      · rw [List.append_nil, String.toList_inj] at hsplit
        rw [← Text.pieces_join h.ne_nil h.noSlash, hsplit, Text.pieces_of_not_mem hname]
        exact ⟨[], rfl⟩
      · have hone : OneLine (join "/" place) := (Text.oneLine_join (by decide)).mpr h.oneLine
        rw [OneLine, hsplit] at hone
        exact absurd (by simp) hone
  · rintro ⟨rest, rfl⟩
    cases rest with
    | nil => exact ⟨[], by simp [join], .inr rfl⟩
    | cons next rest =>
      exact ⟨_, Text.toList_join_cons name next rest, .inl ⟨'/', _, rfl, rfl, trivial⟩⟩

/-- A literal and any characters of a name before a slash are the start of the first name. -/
theorem runAll_start_slash {start : String} (hstart : '/' ∉ start.toList) (h : IsRelative place) :
    runAll (literal start.toList ++ [.anyMany, .char '/']) (join "/" place).toList = true ↔
      ∃ name rest, rest ≠ [] ∧ place = name :: rest ∧ Text.startsWith name start = true := by
  have hmany (cs : List Char) : runAll [.anyMany, .char '/'] cs = true ↔
      ∃ as ds, cs = as ++ '/' :: ds ∧ '/' ∉ as := by
    show matchMany inName (runAll [.char '/']) cs = true ↔ _
    simp only [matchMany_iff, runAll_slash]
    constructor
    · rintro ⟨as, _, rfl, has, ds, rfl⟩
      exact ⟨as, ds, rfl, fun hmem => by simpa [inName] using has '/' hmem⟩
    · rintro ⟨as, ds, rfl, has⟩
      refine ⟨as, _, rfl, ?_, ds, rfl⟩
      intro a ha
      have hne : a ≠ '/' := by
        rintro rfl
        exact has ha
      simpa [inName] using hne
  simp only [runAll_literal, hmany, Text.startsWith, List.isPrefixOf_iff_prefix]
  constructor
  · rintro ⟨_, hsplit, as, ds, rfl, has⟩
    rw [← List.append_assoc] at hsplit
    have hplace := Text.eq_append_of_toList_join h.noSlash h.ne_nil hsplit
    rw [Text.pieces_of_not_mem (by simp [hstart, has])] at hplace
    exact ⟨_, _, Text.pieces_ne_nil _, hplace, by simp⟩
  · rintro ⟨name, rest, hrest, rfl, as, has⟩
    obtain ⟨next, rest, rfl⟩ := List.exists_cons_of_ne_nil hrest
    refine ⟨_, ?_, as, (join "/" (next :: rest)).toList, rfl, ?_⟩
    · rw [Text.toList_join_cons, ← has, List.append_assoc]
    · intro hmem
      exact h.noSlash name (by simp) (has ▸ List.mem_append_right _ hmem)

theorem normalizePath_of_isRelative (h : IsRelative place) :
    normalizePath (join "/" place).toList = (join "/" place).toList := by
  -- the first name is neither empty nor a dot
  generalize hcs : (join "/" place).toList = cs
  fun_cases normalizePath cs with
  | case1 cs =>
    have hfirst : (join "/" place).toList = [] ++ '/' :: cs := hcs
    have hplace := Text.eq_append_of_toList_join h.noSlash h.ne_nil hfirst
    exact absurd (h.proper "" (by rw [hplace]; simp [pieces, piecesOf])) (by decide)
  | case2 cs =>
    have hfirst : (join "/" place).toList = ['.'] ++ '/' :: cs := hcs
    have hplace := Text.eq_append_of_toList_join h.noSlash h.ne_nil hfirst
    exact absurd (h.proper "." (by rw [hplace]; simp [pieces, piecesOf])) (by decide)
  | case3 => rfl

end Names

/-! ## §4 Three shapes of patterns -/

namespace Pattern

/-- What is below folders of these names, one in the other. -/
def below (names : List String) : Pattern :=
  ⟨false, .fitting (.foldersAbove :: (literal (join "/" names).toList ++ [.char '/']))⟩

/-- What is below a folder whose name starts so. -/
def belowStarting (start : String) : Pattern :=
  ⟨false, .fitting (.foldersAbove :: (literal start.toList ++ [.anyMany, .char '/']))⟩

/-- What has this name, or is below a folder that has it. -/
def named (name : String) : Pattern :=
  ⟨false, .fitting (.foldersAbove :: (literal name.toList ++ [.boundary]))⟩

section Hits

variable {place : Place}

theorem hits_foldersAbove {negated : Bool} {ps : List Piece} (h : IsRelative place) :
    (Pattern.mk negated (.fitting (.foldersAbove :: ps))).hits (join "/" place) = true ↔
      ∃ above below, place = above ++ below ∧ below ≠ [] ∧
        runAll ps (join "/" below).toList = true := by
  unfold hits
  dsimp only
  rw [normalizePath_of_isRelative h, runAll_foldersAbove h]

/-- **Below folders**: their names are neighbours before the last name. -/
theorem hits_below_iff {names : List String} (hnames : names ≠ [])
    (hnoSlash : ∀ n ∈ names, '/' ∉ n.toList) (h : IsRelative place) :
    (below names).hits (join "/" place) = true ↔ names <:+: place.dropLast := by
  rw [below, hits_foldersAbove h]
  constructor
  · rintro ⟨above, rest, rfl, hne, hrun⟩
    obtain ⟨rest, hrest, rfl⟩ := (runAll_names_slash hnames hnoSlash (h.of_append hne)).mp hrun
    refine ⟨above, rest.dropLast, ?_⟩
    rw [← List.append_assoc, List.dropLast_append_of_ne_nil hrest]
  · rintro ⟨above, rest, hplace⟩
    have hwhole : place = above ++ (names ++ (rest ++ [place.getLast h.ne_nil])) := by
      rw [← List.append_assoc, ← List.append_assoc, hplace, List.dropLast_append_getLast]
    have hne : names ++ (rest ++ [place.getLast h.ne_nil]) ≠ [] := by simp
    refine ⟨above, _, hwhole, hne, ?_⟩
    exact (runAll_names_slash hnames hnoSlash ((hwhole ▸ h).of_append hne)).mpr ⟨_, by simp, rfl⟩

/-- **Below a folder that starts so**: one of the names before the last one does. -/
theorem hits_belowStarting_iff {start : String} (hstart : '/' ∉ start.toList)
    (h : IsRelative place) :
    (belowStarting start).hits (join "/" place) = true ↔
      ∃ name ∈ place.dropLast, Text.startsWith name start = true := by
  rw [belowStarting, hits_foldersAbove h]
  constructor
  · rintro ⟨above, rest, rfl, hne, hrun⟩
    obtain ⟨name, rest, hrest, rfl, hname⟩ := (runAll_start_slash hstart (h.of_append hne)).mp hrun
    refine ⟨name, ?_, hname⟩
    rw [List.append_cons, List.dropLast_append_of_ne_nil hrest]
    simp
  · rintro ⟨name, hmem, hname⟩
    obtain ⟨above, rest, hplace⟩ := List.append_of_mem hmem
    have hwhole : place = above ++ (name :: (rest ++ [place.getLast h.ne_nil])) := by
      rw [← List.cons_append, ← List.append_assoc, ← hplace, List.dropLast_append_getLast]
    have hne : name :: (rest ++ [place.getLast h.ne_nil]) ≠ [] := by simp
    refine ⟨above, _, hwhole, hne, ?_⟩
    exact (runAll_start_slash hstart ((hwhole ▸ h).of_append hne)).mpr
      ⟨name, _, by simp, rfl, hname⟩

/-- **A name**: it is one of the names of the path. -/
theorem hits_named_iff {name : String} (hname : '/' ∉ name.toList) (h : IsRelative place) :
    (named name).hits (join "/" place) = true ↔ name ∈ place := by
  rw [named, hits_foldersAbove h]
  constructor
  · rintro ⟨above, rest, rfl, hne, hrun⟩
    obtain ⟨rest, rfl⟩ := (runAll_name_boundary hname (h.of_append hne)).mp hrun
    simp
  · intro hmem
    obtain ⟨above, rest, rfl⟩ := List.append_of_mem hmem
    have hne : name :: rest ≠ [] := List.cons_ne_nil name rest
    exact ⟨above, _, rfl, hne, (runAll_name_boundary hname (h.of_append hne)).mpr ⟨rest, rfl⟩⟩

end Hits

end Pattern

/-! ## §5 Texts of patterns -/

/-- A name that stands for itself in a pattern. -/
@[mk_iff] structure IsPlain (name : String) : Prop where
  noSlash : '/' ∉ name.toList
  noWildcard : ∀ c ∈ name.toList, isWildcard c = false

instance (name : String) : Decidable (IsPlain name) :=
  -- the characters of the name are tried, and not all that there are
  have : Decidable (∀ c ∈ name.toList, isWildcard c = false) := List.decidableBAll _ _
  decidable_of_iff' _ (isPlain_iff name)

section Texts

variable {name : String} {names : List String}

theorem IsPlain.star_not_mem (h : IsPlain name) : '*' ∉ name.toList :=
  fun hmem => absurd (h.noWildcard '*' hmem) (by decide)

theorem IsPlain.ne_anyFolders (h : IsPlain name) : name.toList ≠ anyFolders := by
  intro heq
  exact h.star_not_mem (heq ▸ by decide)

theorem IsPlain.ne_star (h : IsPlain name) : name.toList ≠ ['*'] := by
  intro heq
  exact h.star_not_mem (heq ▸ by decide)

theorem segmentPieces?_eq_literal {cs : List Char} (h : ∀ c ∈ cs, isWildcard c = false) :
    segmentPieces? cs = some (literal cs) := by
  induction cs with
  | nil =>
    rw [segmentPieces?]
    rfl
  | cons c cs ih =>
    have hc : isWildcard c = false := h c (by simp)
    simp only [isWildcard, Bool.or_eq_false_iff, beq_eq_false_iff_ne] at hc
    obtain ⟨⟨hstar, hquestion⟩, hbracket⟩ := hc
    rw [segmentPieces?, ih fun d hd => h d (by simp [hd])]
    · rfl
    · exact hstar
    · exact hquestion
    · exact hbracket

/-- The pieces of a plain name: itself, with a slash in front if one is due, and its end behind if it
    is the last segment. -/
theorem patternPieces?_cons (h : IsPlain name) (first slash : Bool) (rest : List (List Char)) :
    patternPieces? first slash (name.toList :: rest) =
      (patternPieces? false true rest).map fun others =>
        (if slash then [Piece.char '/'] else []) ++ literal name.toList ++
          (if rest.isEmpty then [Piece.boundary] else []) ++ others := by
  rw [patternPieces?, if_neg h.ne_anyFolders]
  dsimp only
  rw [if_neg h.ne_star, segmentPieces?_eq_literal h.noWildcard, Option.bind_some]

theorem patternPieces?_names (hne : names ≠ []) (h : ∀ n ∈ names, IsPlain n) (slash : Bool) :
    patternPieces? false slash (names.map String.toList ++ [anyFolders]) =
      some ((if slash then [Piece.char '/'] else []) ++ literal (join "/" names).toList ++
        [Piece.char '/']) := by
  induction names generalizing slash with
  | nil => exact absurd rfl hne
  | cons name rest ih =>
    rw [List.map_cons, List.cons_append, patternPieces?_cons (h name (by simp))]
    cases rest with
    | nil =>
      have hlast : patternPieces? false true [anyFolders] = some [Piece.char '/'] := rfl
      simp [hlast, join]
    | cons next rest =>
      rw [ih (List.cons_ne_nil next rest) (fun n hn => h n (by simp [hn])) true]
      simp [literal, Text.toList_join_cons]

theorem mergeFolders_cons {a : List Char} (ha : a ≠ anyFolders) (rest : List (List Char)) :
    mergeFolders (a :: rest) = a :: mergeFolders rest := by
  cases rest with
  | nil => rfl
  | cons b rest => rw [mergeFolders, if_neg fun h => ha h.1]

theorem mergeFolders_names (h : ∀ n ∈ names, IsPlain n) (rest : List (List Char)) :
    mergeFolders (names.map String.toList ++ rest) =
      names.map String.toList ++ mergeFolders rest := by
  induction names with
  | nil => rfl
  | cons name names ih =>
    rw [List.map_cons, List.cons_append, mergeFolders_cons (h name (by simp)).ne_anyFolders,
      ih fun n hn => h n (by simp [hn]), List.cons_append]

/-- Folders, and then at least one plain name, are left as they are and compiled piece by piece. -/
theorem body?_mergeFolders (hne : names ≠ []) (h : ∀ n ∈ names, IsPlain n)
    {rest : List (List Char)} (hrest : mergeFolders rest = rest) ( below : Bool) :
    body? below (mergeFolders (anyFolders :: (names.map String.toList ++ rest))) =
      (patternPieces? false false (names.map String.toList ++ rest)).map fun pieces =>
        .fitting (.foldersAbove :: pieces) := by
  have hmerge := mergeFolders_names h rest
  obtain ⟨name, names, rfl⟩ := List.exists_cons_of_ne_nil hne
  have hname : IsPlain name := h name (by simp)
  rw [List.map_cons, List.cons_append] at hmerge ⊢
  rw [mergeFolders, if_neg fun both => hname.ne_anyFolders both.2, hmerge, hrest, body?]
  simp [hname.ne_star, patternPieces?, Function.comp_def]

/-- The piece is no class of characters. -/
def Piece.IsClassless : Piece → Prop
  | ofClass _ _ => False
  | _ => True

theorem isClassless_of_mem {cs : List Char} {ps : List Piece} (h : ∀ p ∈ ps, p.IsClassless)
    {p : Piece} (hp : p ∈ Piece.foldersAbove :: (literal cs ++ ps)) : p.IsClassless := by
  rcases List.mem_cons.mp hp with rfl | hp
  · trivial
  rcases List.mem_append.mp hp with hp | hp
  · obtain ⟨c, _, rfl⟩ := List.mem_map.mp hp
    trivial
  · exact h p hp

theorem pieceFault?_eq_none {ps : List Piece} (h : ∀ p ∈ ps, p.IsClassless) (position : Nat) :
    pieceFault? position ps = none := by
  induction ps generalizing position with
  | nil => rfl
  | cons p ps ih =>
    rw [pieceFault?]
    · exact ih (fun q hq => h q (by simp [hq])) _
    · rintro _ _ rfl
      exact h _ (List.mem_cons_self ..)

/-- Without classes there is no range that could be the wrong way round. -/
theorem compile_of_ofText? {text : String} {ps : List Piece}
    (htext : ofText? text = some ⟨false, .fitting ps⟩)
    (h : ∀ p ∈ ps, p.IsClassless) :
    compile text = .ok (some ⟨false, .fitting ps⟩) := by
  have hfault : (Pattern.mk false (.fitting ps)).fault? = none := by
    simp [Pattern.fault?, pieceFault?_eq_none h]
  rw [compile, htext]
  dsimp only
  rw [hfault]

theorem trimEndChars_append {cs ds : List Char} (h : trimEndChars ds ≠ []) :
    trimEndChars (cs ++ ds) = cs ++ trimEndChars ds := by
  have hdrop : ds.reverse.dropWhile Text.isBlank ≠ [] := by
    intro hnil
    exact h (by rw [trimEndChars, hnil, List.reverse_nil])
  simp [trimEndChars, List.dropWhile_append, hdrop]

theorem anchored_anyFolders (segments : List (List Char)) :
    anchored (anyFolders :: segments) = anyFolders :: segments := by
  unfold anchored
  split <;> simp_all [anyFolders]

theorem opened_of_getLast? {segments : List (List Char)} (h : segments.getLast? ≠ some []) :
    opened segments = segments := by
  unfold opened
  split
  · exact absurd ‹_› h
  · rfl

/-- A text that starts with any folders: what is behind them is compiled name by name. -/
theorem ofText?_anyFolders {text : String} {cs : List Char}
    (htext : text.toList = anyFolders ++ '/' :: cs) (htrim : trimEndChars cs = cs) (hcs : cs ≠ [])
    (hne : names ≠ []) (h : ∀ n ∈ names, IsPlain n) {rest : List (List Char)}
    (hpieces : piecesOf '/' cs = names.map String.toList ++ rest)
    (hlast : (names.map String.toList ++ rest).getLast? ≠ some [])
    (hrest : mergeFolders rest = rest) :
    ofText? text = (patternPieces? false false (names.map String.toList ++ rest)).map fun pieces =>
      ⟨false, .fitting (.foldersAbove :: pieces)⟩ := by
  have htrimmed : trimEndChars (anyFolders ++ '/' :: cs) = anyFolders ++ '/' :: cs := by
    have hslash : trimEndChars ((anyFolders ++ ['/']) ++ cs) = (anyFolders ++ ['/']) ++ trimEndChars cs :=
      trimEndChars_append (htrim.trans_ne hcs)
    simpa [htrim] using hslash
  have hsegments : piecesOf '/' (anyFolders ++ '/' :: cs) =
      anyFolders :: (names.map String.toList ++ rest) := by
    rw [Text.piecesOf_append_cons, hpieces]
    rfl
  have hopened : opened (anyFolders :: (names.map String.toList ++ rest)) =
      anyFolders :: (names.map String.toList ++ rest) := by
    apply opened_of_getLast?
    rw [List.getLast?_cons_of_ne_nil (by simp [hne])]
    exact hlast
  rw [ofText?, htext, htrimmed]
  show ofBody? false (anyFolders ++ '/' :: cs) = _
  rw [ofBody?, hsegments, anchored_anyFolders, hopened, body?_mergeFolders hne h hrest, Option.map_map]
  rfl

/-- **Below folders** is written with any folders in front and behind. -/
theorem compile_below (hne : names ≠ []) (h : ∀ n ∈ names, IsPlain n) :
    compile ("**/" ++ join "/" names ++ "/**") = .ok (some (.below names)) := by
  apply compile_of_ofText?
  · have hchars : ("**/" ++ join "/" names ++ "/**").toList =
        anyFolders ++ '/' :: ((join "/" names).toList ++ '/' :: anyFolders) := by
      simp [anyFolders]
    have htrim : trimEndChars ((join "/" names).toList ++ '/' :: anyFolders) =
        (join "/" names).toList ++ '/' :: anyFolders :=
      trimEndChars_append (by decide)
    have hpieces : piecesOf '/' ((join "/" names).toList ++ '/' :: anyFolders) =
        names.map String.toList ++ [anyFolders] := by
      have hnames := congrArg (List.map String.toList)
        (Text.pieces_join hne fun n hn => (h n hn).noSlash)
      rw [pieces, List.map_map] at hnames
      rw [Text.piecesOf_append_cons, ← hnames]
      simp [Function.comp_def]
      rfl
    rw [ofText?_anyFolders hchars htrim (by simp) hne h hpieces (by simp [anyFolders]) rfl,
      patternPieces?_names hne h]
    simp
  · exact fun p => isClassless_of_mem (by simp [Piece.IsClassless])

/-- **A name** is written with any folders in front. -/
theorem compile_named (hne : name ≠ "") (h : IsPlain name)
    (htrim : trimEndChars name.toList = name.toList) :
    compile ("**/" ++ name) = .ok (some (.named name)) := by
  apply compile_of_ofText?
  · have hnil : name.toList ≠ [] := fun hnil => hne (String.toList_inj.mp hnil)
    have hpieces : piecesOf '/' name.toList = [name].map String.toList ++ [] := by
      simpa using Text.piecesOf_of_not_mem h.noSlash
    have hchars : ("**/" ++ name).toList = anyFolders ++ '/' :: name.toList := by
      simp [anyFolders]
    rw [ofText?_anyFolders hchars htrim hnil (List.cons_ne_nil name []) (by simpa using h) hpieces
      (by simpa using hnil) rfl]
    simp [patternPieces?_cons h, patternPieces?]
  · exact fun p => isClassless_of_mem (by simp [Piece.IsClassless])

theorem compile_belowStarting_env :
    compile "**/.env*/**" = .ok (some (.belowStarting ".env")) := by
  apply compile_of_ofText?
  · decide +kernel
  · exact fun p => isClassless_of_mem (by simp [Piece.IsClassless])

end Texts

end Glob

end TsOutline
