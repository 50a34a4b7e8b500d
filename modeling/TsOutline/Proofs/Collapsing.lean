import Mathlib.Data.List.Chain
import TsOutline.Proofs.OneLine.Type

/-!
# Collapsing and Clipping

Every piece of source that a signature copies is collapsed, at every run of blanks or only where a line
ends, and some are clipped after that. This module says what these operations keep and what they leave.

- **Words** (`Text.words`): the maximal runs of characters that are not blank. Collapsing keeps them
  all, in their order.
- **Normal forms** (`Text.SingleSpaced`, `Text.OneLine`): what collapsing leaves alone. Collapsing ends
  in such a form, so doing it twice is doing it once.
- **Copies** (`TypeText.IsCopied`, `TypeText.isMapped`): the types whose text is cut from the source,
  which bounds their length.
-/

namespace TsOutline

namespace Text

variable {c : Char} {cs : List Char} {s : String}

/-! ## §1 Words -/

/-- The maximal runs of characters that are not blank. -/
def wordsOf (cs : List Char) : List (List Char) :=
  (cs.splitOnP isBlank).filter fun w => !w.isEmpty

/-- The words of a text, in order. -/
def words (s : String) : List String :=
  (wordsOf s.toList).map String.ofList

/-- No word reaches across a blank. -/
theorem wordsOf_append_cons (hc : isBlank c = true) (xs ys : List Char) :
    wordsOf (xs ++ c :: ys) = wordsOf xs ++ wordsOf ys := by
  rw [wordsOf, List.splitOnP_append_cons xs ys hc, List.filter_append]
  rfl

/-- A blank in front belongs to no word. -/
theorem wordsOf_cons (hc : isBlank c = true) (cs : List Char) : wordsOf (c :: cs) = wordsOf cs :=
  wordsOf_append_cons hc [] cs

/-- In front of the rest stands what has been read of a word; behind a blank that is nothing. -/
theorem wordsOf_append_collapseFrom ( inRun : Bool) (cs front : List Char)
    (hfront : inRun = true → front = []) :
    wordsOf (front ++ collapseFrom inRun cs) = wordsOf (front ++ cs) := by
  have hspace : isBlank ' ' = true := by decide
  fun_induction collapseFrom inRun cs generalizing front with
  | case1 => rfl
  | case2 c cs hblank ih =>
    rw [hfront rfl, List.nil_append, List.nil_append, wordsOf_cons hblank]
    exact ih [] fun _ => rfl
  | case3 _ c cs hblank _ ih =>
    -- a blank ends the word, and so does the space that is written for it
    rw [wordsOf_append_cons hspace, wordsOf_append_cons hblank]
    exact congrArg (wordsOf front ++ ·) (ih [] fun _ => rfl)
  | case4 _ c cs _ ih =>
    rw [List.append_cons, List.append_cons front c cs]
    exact ih (front ++ [c]) fun hfalse => absurd hfalse Bool.false_ne_true

theorem wordsOf_append_collapseLinesFrom ( inRun : Bool) (cs front : List Char)
    (hfront : inRun = true → front = []) :
    wordsOf (front ++ collapseLinesFrom inRun cs) = wordsOf (front ++ cs) := by
  have hspace : isBlank ' ' = true := by decide
  have hfeed : isBlank '\n' = true := by decide
  fun_induction collapseLinesFrom inRun cs generalizing front with
  | case1 => rfl
  | case2 inRun c cs hskip ih =>
    obtain ⟨hrun, hblank⟩ := Bool.and_eq_true_iff.mp hskip
    rw [hfront hrun, List.nil_append, List.nil_append, wordsOf_cons hblank]
    exact ih [] fun _ => rfl
  | case3 _ cs _ ih =>
    rw [wordsOf_append_cons hspace, wordsOf_append_cons hfeed]
    exact congrArg (wordsOf front ++ ·) (ih [] fun _ => rfl)
  | case4 _ c cs _ _ ih =>
    rw [List.append_cons, List.append_cons front c cs]
    exact ih (front ++ [c]) fun hfalse => absurd hfalse Bool.false_ne_true

/-- **Collapsing keeps the words** of a text and their order. -/
theorem words_collapse (s : String) : words (collapse s) = words s := by
  rw [words, collapse, String.toList_ofList]
  exact congrArg (List.map String.ofList)
    (wordsOf_append_collapseFrom false s.toList [] fun _ => rfl)

theorem words_collapseLines (s : String) : words (collapseLines s) = words s := by
  rw [words, collapseLines, String.toList_ofList]
  exact congrArg (List.map String.ofList)
    (wordsOf_append_collapseLinesFrom false s.toList [] fun _ => rfl)

/-! ## §2 Normal forms -/

/-- Two neighbours are not both blank. -/
def Apart (a b : Char) : Prop :=
  ¬(isBlank a = true ∧ isBlank b = true)

/-- The only blanks are spaces, and no two of them are neighbours. -/
structure SingleSpaced (s : String) : Prop where
  spaces : ∀ c ∈ s.toList, isBlank c = true → c = ' '
  apart : s.toList.IsChain Apart

theorem SingleSpaced.oneLine (h : SingleSpaced s) : OneLine s := by
  intro hmem
  exact absurd (h.spaces '\n' hmem (by decide)) (by decide)

theorem blank_of_mem_collapseFrom ( inRun : Bool) (cs : List Char) (h : c ∈ collapseFrom inRun cs)
    (hc : isBlank c = true) : c = ' ' := by
  fun_induction collapseFrom inRun cs with
  | case1 => cases h
  | case2 _ _ _ ih => exact ih h
  | case3 _ _ _ _ _ ih =>
    rcases List.mem_cons.mp h with hspace | hrest
    · exact hspace
    · exact ih hrest
  | case4 _ d _ hd ih =>
    rcases List.mem_cons.mp h with rfl | hrest
    · exact absurd hc hd
    · exact ih hrest

/-- Behind a blank no second one is written. -/
theorem isBlank_head?_collapseFrom (cs : List Char) :
    ∀ d ∈ (collapseFrom true cs).head?, isBlank d = false := by
  induction cs with
  | nil => nofun
  | cons c cs ih =>
    intro d hd
    rw [collapseFrom] at hd
    by_cases hblank : isBlank c = true
    · rw [if_pos hblank, if_pos rfl] at hd
      exact ih d hd
    · rw [if_neg hblank, List.head?_cons, Option.mem_some_iff] at hd
      rwa [← hd, ← Bool.not_eq_true]

theorem isChain_collapseFrom ( inRun : Bool) (cs : List Char) :
    (collapseFrom inRun cs).IsChain Apart := by
  fun_induction collapseFrom inRun cs with
  | case1 => exact .nil
  | case2 _ _ _ ih => exact ih
  | case3 _ _ cs _ _ ih =>
    refine ih.cons fun d hd hboth => ?_
    rw [isBlank_head?_collapseFrom cs d hd] at hboth
    cases hboth.2
  | case4 _ c _ hc ih => exact ih.cons fun _ _ hboth => hc hboth.1

theorem singleSpaced_collapse (s : String) : SingleSpaced (collapse s) := by
  constructor
  · intro c hmem hblank
    rw [collapse, String.toList_ofList] at hmem
    exact blank_of_mem_collapseFrom false s.toList hmem hblank
  · rw [collapse, String.toList_ofList]
    exact isChain_collapseFrom false s.toList

theorem collapseFrom_of_singleSpaced ( inRun : Bool) (cs : List Char)
    (hspaces : ∀ c ∈ cs, isBlank c = true → c = ' ') (hapart : cs.IsChain Apart)
    (hhead : inRun = true → ∀ d ∈ cs.head?, isBlank d = false) : collapseFrom inRun cs = cs := by
  induction cs generalizing inRun with
  | nil => rfl
  | cons c cs ih =>
    obtain ⟨hnext, hrest⟩ := List.isChain_cons.mp hapart
    have hspaces' : ∀ d ∈ cs, isBlank d = true → d = ' ' := fun d hd =>
      hspaces d (List.mem_cons_of_mem _ hd)
    rw [collapseFrom]
    by_cases hblank : isBlank c = true
    · -- a blank stands behind no other one, and what follows it is none
      have hrun : ¬inRun = true := by
        intro hrun
        rw [hhead hrun c rfl] at hblank
        cases hblank
      have hbehind : ∀ d ∈ cs.head?, isBlank d = false := fun d hd =>
        Bool.eq_false_iff.mpr fun hd' => hnext d hd ⟨hblank, hd'⟩
      rw [if_pos hblank, if_neg hrun, ih true hspaces' hrest fun _ => hbehind,
        hspaces c (List.mem_cons_self ..) hblank]
    · rw [if_neg hblank, ih false hspaces' hrest fun hfalse => absurd hfalse Bool.false_ne_true]

/-- A text with single spaces is left as it is. -/
theorem SingleSpaced.collapse_eq (h : SingleSpaced s) : collapse s = s := by
  have hhead : false = true → ∀ d ∈ s.toList.head?, isBlank d = false := fun hfalse =>
    absurd hfalse Bool.false_ne_true
  rw [collapse, collapseFrom_of_singleSpaced false s.toList h.spaces h.apart hhead,
    String.ofList_toList]

theorem collapse_collapse (s : String) : collapse (collapse s) = collapse s :=
  (singleSpaced_collapse s).collapse_eq

/-- The texts with single spaces are those that collapsing leaves as they are. -/
theorem singleSpaced_iff : SingleSpaced s ↔ collapse s = s :=
  ⟨SingleSpaced.collapse_eq, fun h => h ▸ singleSpaced_collapse s⟩

instance (s : String) : Decidable (SingleSpaced s) :=
  decidable_of_iff (collapse s = s) singleSpaced_iff.symm

theorem collapseLinesFrom_of_not_mem (h : '\n' ∉ cs) : collapseLinesFrom false cs = cs := by
  induction cs with
  | nil => rfl
  | cons c cs ih =>
    have hc : c ≠ '\n' := fun heq => h (heq ▸ List.mem_cons_self ..)
    rw [collapseLinesFrom, Bool.false_and, if_neg Bool.false_ne_true, if_neg hc,
      ih fun hmem => h (List.mem_cons_of_mem _ hmem)]

/-- A text without line feeds is left as it is. -/
theorem OneLine.collapseLines_eq (h : OneLine s) : collapseLines s = s := by
  rw [collapseLines, collapseLinesFrom_of_not_mem h, String.ofList_toList]

theorem oneLine_collapseLines (s : String) : OneLine (collapseLines s) :=
  newline_not_mem_collapseLines s

theorem collapseLines_collapseLines (s : String) :
    collapseLines (collapseLines s) = collapseLines s :=
  (oneLine_collapseLines s).collapseLines_eq

/-- Where blanks after a line feed are skipped, a space was written before, so that collapsing is in a
    run of blanks as well. -/
theorem collapseFrom_collapseLinesFrom ( inRun inLineRun : Bool) (cs : List Char)
    (hrun : inLineRun = true → inRun = true) :
    collapseFrom inRun (collapseLinesFrom inLineRun cs) = collapseFrom inRun cs := by
  fun_induction collapseLinesFrom inLineRun cs generalizing inRun with
  | case1 => rfl
  | case2 _ c cs hskip ih =>
    obtain ⟨hline, hblank⟩ := Bool.and_eq_true_iff.mp hskip
    rw [ih inRun fun _ => hrun hline, collapseFrom, if_pos hblank, hrun hline, if_pos rfl]
  | case3 _ cs _ ih =>
    -- the line feed and the space that is written for it are blanks alike
    have hspace : isBlank ' ' = true := by decide
    have hfeed : isBlank '\n' = true := by decide
    rw [collapseFrom, collapseFrom, if_pos hspace, if_pos hfeed, ih true fun _ => rfl]
  | case4 _ c cs _ _ ih =>
    have hrest ( inRun : Bool) : collapseFrom inRun (collapseLinesFrom false cs) =
        collapseFrom inRun cs := ih inRun fun hfalse => absurd hfalse Bool.false_ne_true
    rw [collapseFrom, collapseFrom]
    simp only [hrest]

/-- Collapsing line ends first makes no difference to collapsing all blanks. -/
theorem collapse_collapseLines (s : String) : collapse (collapseLines s) = collapse s := by
  rw [collapse, collapseLines, String.toList_ofList,
    collapseFrom_collapseLinesFrom false false s.toList id]
  rfl

/-! ## §3 Clipping -/

/-- A text within the limit is left as it is. -/
theorem clip_of_le {limit : Nat} (h : s.length ≤ limit) : clip limit s = s := by
  rw [clip, if_neg (by rw [String.length_toList]; omega)]

/-- Of a longer text the first characters are kept, with an ellipsis behind them. -/
theorem clip_of_lt {limit : Nat} (h : limit < s.length) :
    clip limit s = String.ofList (s.toList.take limit) ++ ellipsis := by
  have hkept : keptUnder limit s.toList.length = limit := by
    rw [keptUnder, if_neg (by omega), Int.toNat_natCast]
  rw [clip, if_pos (by rw [String.length_toList]; omega), hkept]

theorem length_clip_le (limit : Nat) (s : String) : (clip limit s).length ≤ limit + 3 := by
  by_cases h : s.length ≤ limit
  · rw [clip_of_le h]
    omega
  · have hlength : ellipsis.length = 3 := by decide
    rw [clip_of_lt (Nat.lt_of_not_le h), String.length_append, String.length_ofList, hlength,
      List.length_take]
    omega

theorem isBlank_of_mem_ellipsis (h : c ∈ ellipsis.toList) : isBlank c = false := by
  obtain rfl : c = '.' := by simpa [ellipsis] using h
  rfl

/-- Clipping adds no blank. -/
theorem SingleSpaced.clip (h : SingleSpaced s) (limit : Nat) : SingleSpaced (clip limit s) := by
  by_cases hle : s.length ≤ limit
  · rwa [clip_of_le hle]
  · have hdots : SingleSpaced ellipsis := by decide
    rw [clip_of_lt (Nat.lt_of_not_le hle)]
    constructor
    · intro c hmem hblank
      rw [String.toList_append, String.toList_ofList, List.mem_append] at hmem
      rcases hmem with hkept | hdot
      · exact h.spaces c (List.mem_of_mem_take hkept) hblank
      · exact hdots.spaces c hdot hblank
    · rw [String.toList_append, String.toList_ofList]
      -- the cut may be behind a blank, but what follows there is a dot
      refine (h.apart.take limit).append hdots.apart fun a _ b hb hboth => ?_
      rw [isBlank_of_mem_ellipsis (List.mem_of_mem_head? hb)] at hboth
      cases hboth.2

end Text

namespace TypeText

open Text (OneLine SingleSpaced collapse collapseLines clip words)

variable {m n : Node} {d : Budget}

/-! ## §4 Types that are copied -/

/-- Types of this kind have a shape of their own, in which they are written. -/
def hasShape : Kind → Bool
  | .genericType | .arrayType | .unionType | .intersectionType | .objectType | .functionType
  | .tupleType | .parenthesizedType | .conditionalType | .lookupType => true
  | _ => false

/-- The text of the type is cut from the source: there is no shape for it, or it is an indexed access
    that does not have its two parts. -/
def IsCopied (m : Node) : Prop :=
  hasShape m.kind = false ∨ m.kind = .lookupType ∧ m.members.length ≠ 2

theorem renderShape_of_isCopied (h : IsCopied m) (d : Budget) :
    renderShape m d = brief copyLimit m := by
  rcases h with hshape | ⟨hlookup, hparts⟩
  · unfold renderShape
    split
    case h_11 => rfl
    all_goals
      rename_i hkind
      rw [hkind] at hshape
      cases hshape
  · unfold renderShape
    rw [hlookup]
    dsimp only
    split
    · rename_i a b hab
      exact absurd (by rw [hab]; rfl) hparts
    · rfl

theorem renderShape_of_isMapped (h : isMapped m = true) (d : Budget) :
    renderShape m d = if d.isUsedUp then "\x7b [K in ...]: ... \x7d" else brief mappedLimit m := by
  have hkind : m.kind = .objectType := by
    rw [isMapped, Bool.and_eq_true, beq_iff_eq] at h
    exact h.1
  unfold renderShape
  rw [hkind]
  dsimp only
  rw [if_pos h]

theorem singleSpaced_brief (limit : Nat) (n : Node) : SingleSpaced (brief limit n) :=
  (Text.singleSpaced_collapse n.text).clip limit

theorem length_brief_le (limit : Nat) (n : Node) : (brief limit n).length ≤ limit + 3 :=
  Text.length_clip_le limit (collapse n.text)

/-- A copied type is written on one line, cut at 60 characters. -/
theorem render_of_isCopied (hn : n.unwrap = some m) (hd : d.isOverdrawn = false) (h : IsCopied m) :
    SingleSpaced (render n d) ∧ (render n d).length ≤ 63 := by
  rw [render_of_unwrap hn hd, renderShape_of_isCopied h]
  exact ⟨singleSpaced_brief 60 m, length_brief_le 60 m⟩

/-- A mapped type is written on one line, cut at 80 characters; without budget it has a fixed text. -/
theorem render_of_isMapped (hn : n.unwrap = some m) (hd : d.isOverdrawn = false)
    (h : isMapped m = true) : SingleSpaced (render n d) ∧ (render n d).length ≤ 83 := by
  rw [render_of_unwrap hn hd, renderShape_of_isMapped h]
  split
  · decide
  · exact ⟨singleSpaced_brief 80 m, length_brief_le 80 m⟩

/-- **Copied text is normalized.** Collapsing blanks ends in a text whose only blanks are single
    spaces; collapsing line ends makes one line and leaves alone what is one; both keep the words in
    order, do nothing more when repeated, and the second one is lost in the first. Clipping keeps a text
    within the limit, and otherwise exactly as many characters as the limit says, with an ellipsis. So
    the text of a type that is copied from the source is a single line, of at most 63 characters where
    the type has no shape and of at most 83 where it is a mapped one, whatever budget is left. -/
theorem copied_text_normalized (t : String) (limit : Nat) :
    (collapse (collapse t) = collapse t ∧ SingleSpaced (collapse t) ∧
      words (collapse t) = words t) ∧
    (collapseLines (collapseLines t) = collapseLines t ∧ OneLine (collapseLines t) ∧
      (OneLine t → collapseLines t = t) ∧ words (collapseLines t) = words t) ∧
    collapse (collapseLines t) = collapse t ∧
    ((clip limit t).length ≤ limit + 3 ∧ (t.length ≤ limit → clip limit t = t) ∧
      (limit < t.length → clip limit t = String.ofList (t.toList.take limit) ++ "...")) ∧
    ∀ (n m : Node) (d : Budget), n.unwrap = some m → d.isOverdrawn = false →
      (IsCopied m → OneLine (render n d) ∧ SingleSpaced (render n d) ∧ (render n d).length ≤ 63) ∧
      (isMapped m = true →
        OneLine (render n d) ∧ SingleSpaced (render n d) ∧ (render n d).length ≤ 83) := by
  refine ⟨⟨Text.collapse_collapse t, Text.singleSpaced_collapse t, Text.words_collapse t⟩,
    ⟨Text.collapseLines_collapseLines t, Text.oneLine_collapseLines t, Text.OneLine.collapseLines_eq,
      Text.words_collapseLines t⟩,
    Text.collapse_collapseLines t,
    ⟨Text.length_clip_le limit t, Text.clip_of_le, Text.clip_of_lt⟩, ?_⟩
  intro n m d hn hd
  constructor
  · intro hcopied
    obtain ⟨hspaced, hlength⟩ := render_of_isCopied hn hd hcopied
    exact ⟨hspaced.oneLine, hspaced, hlength⟩
  · intro hmapped
    obtain ⟨hspaced, hlength⟩ := render_of_isMapped hn hd hmapped
    exact ⟨hspaced.oneLine, hspaced, hlength⟩

/-- A mapped type over two lines behind its colon, and a text that is cut inside its blanks. -/
theorem brokenMappedType_normalized :
    let clause : Node := .mk .mappedTypeClause true none "K in\n\tKeys" []
    let m : Node := .mk .objectType true none "\x7b [K in\n\tKeys]: V \x7d"
      [.mk .indexSignature true none "[K in\n\tKeys]: V" [clause]]
    let n : Node := .mk .typeAscription true none ": \x7b [K in\n\tKeys]: V \x7d" [m]
    (n.unwrap = some m ∧ isMapped m = true ∧ OneLine (render n (.ofUnits 1)) ∧
      (render n (.ofUnits 1)).length ≤ 83) ∧
    (3 < "a \t\n b".length ∧ clip 3 "a \t\n b" = "a \t...") ∧
    (OneLine "a \t b" ∧ collapseLines "a \t b" = "a \t b") := by
  intro clause m n
  have hn : n.unwrap = some m := by
    have hwrapper : n.kind.isAscription = true := rfl
    rw [Node.unwrap_eq, if_pos hwrapper]
    exact Node.unwrap_of_not_isAscription rfl
  obtain ⟨-, -, -, ⟨-, -, hcut⟩, htypes⟩ := copied_text_normalized "a \t\n b" 3
  obtain ⟨-, ⟨-, -, hfixed, -⟩, -⟩ := copied_text_normalized "a \t b" 0
  obtain ⟨hline, -, hlength⟩ := (htypes n m (.ofUnits 1) hn rfl).2 rfl
  exact ⟨⟨hn, rfl, hline, hlength⟩, ⟨by decide, hcut (by decide)⟩, ⟨by decide, hfixed (by decide)⟩⟩

end TypeText

end TsOutline
