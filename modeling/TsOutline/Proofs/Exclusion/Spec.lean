import Mathlib.Data.List.Basic
import TsOutline.Exclusion

/-!
# The Patterns of a Blacklist

What a blacklist is compiled to, and what compiled patterns say about a path.

- **The patterns** (`specOf`): those of the fixed exclusions, and then those of the entries that have
  one. A blacklist is compiled to exactly these, or not at all (`build_eq_ok_iff`).
- **The last word** (`excludes_concat`): a pattern that hits decides, whatever came before.
- **Without patterns that take back** (`excludes_of_positive`): every hit excludes, so neither order
  nor multiplicity matters.
-/

namespace TsOutline.Exclusion

open Text (trim)

/-! ## §1 Compiling -/

/-- The pattern of an entry; a blank one has none, nor has a glob without effect. -/
def patternOf? (entry : String) : Option Glob.Pattern :=
  if trim entry = "" then none else Glob.ofText? (globOf entry)

/-- The patterns of the fixed exclusions. -/
def fixedSpec : Spec :=
  fixedGlobs.filterMap Glob.ofText?

/-- The patterns of a blacklist. -/
def specOf (blacklist : List String) : Spec :=
  fixedSpec ++ blacklist.filterMap patternOf?

/-- The glob can be compiled: it has no range the wrong way round. -/
def IsSound (glob : String) : Prop :=
  ∃ p?, Glob.compile glob = .ok p?

theorem compile_eq_ok {glob : String} {p? : Option Glob.Pattern} (h : Glob.compile glob = .ok p?) :
    p? = Glob.ofText? glob := by
  unfold Glob.compile at h
  split at h
  · cases h
    exact Eq.symm ‹_›
  · split at h
    · cases h
    · cases h
      exact Eq.symm ‹_›

theorem compileAll_eq_ok_iff {globs : List String} {spec : Spec} :
    compileAll globs = .ok spec ↔ (∀ g ∈ globs, IsSound g) ∧ spec = globs.filterMap Glob.ofText? := by
  induction globs generalizing spec with
  | nil => simp [compileAll, eq_comm]
  | cons g rest ih =>
    rw [compileAll, List.forall_mem_cons, List.filterMap_cons]
    cases hg : Glob.compile g with
    | error fault => simp [IsSound, hg]
    | ok p? =>
      have hsound : IsSound g := ⟨p?, hg⟩
      obtain rfl := compile_eq_ok hg
      dsimp only
      cases hrest : compileAll rest with
      | error fault =>
        -- the rest fails, so one of its globs is not sound
        have hnone : ¬ ∀ g ∈ rest, IsSound g := by
          intro hall
          rw [ih.mpr ⟨hall, rfl⟩] at hrest
          cases hrest
        simp [hnone]
      | ok ps =>
        obtain ⟨hall, rfl⟩ := ih.mp hrest
        rw [and_iff_right ⟨hsound, hall⟩, Except.ok.injEq]
        cases Glob.ofText? g <;> simp [eq_comm]

theorem filterMap_globOf (blacklist : List String) :
    ((blacklist.filter fun entry => trim entry ≠ "").map globOf).filterMap Glob.ofText? =
      blacklist.filterMap patternOf? := by
  rw [List.filterMap_map, List.filterMap_filter]
  apply List.filterMap_congr
  intro entry _
  by_cases hblank : trim entry = "" <;> simp [patternOf?, hblank]

/-- **A blacklist is compiled** to its patterns if all its globs can be. -/
theorem build_eq_ok_iff {blacklist : List String} {spec : Spec} :
    build blacklist = .ok spec ↔
      (∀ g ∈ globs blacklist, IsSound g) ∧ spec = specOf blacklist := by
  rw [build, compileAll_eq_ok_iff, globs, List.filterMap_append, filterMap_globOf]
  rfl

theorem build_eq_ok {blacklist : List String} {spec : Spec} (h : build blacklist = .ok spec) :
    spec = specOf blacklist :=
  (build_eq_ok_iff.mp h).2

theorem specOf_append (blacklist more : List String) :
    specOf (blacklist ++ more) = specOf blacklist ++ more.filterMap patternOf? := by
  simp [specOf]

/-- With one more entry, a blacklist can still be compiled if the glob of the entry can be. -/
theorem build_concat {blacklist : List String} {entry : String}
    (h : build blacklist = .ok (specOf blacklist)) (hentry : IsSound (globOf entry)) :
    build (blacklist ++ [entry]) = .ok (specOf (blacklist ++ [entry])) := by
  obtain ⟨hsound, -⟩ := build_eq_ok_iff.mp h
  refine build_eq_ok_iff.mpr ⟨?_, rfl⟩
  intro g hg
  rw [globs, List.filter_append, List.map_append, ← List.append_assoc, List.mem_append] at hg
  rcases hg with hbefore | hlast
  · exact hsound g hbefore
  · obtain ⟨e, he, rfl⟩ := List.mem_map.mp hlast
    rwa [List.mem_singleton.mp (List.mem_filter.mp he).1]

/-! ## §2 Excluding -/

variable {spec : Spec} {path : String}

/-- **The last word**: a pattern that hits decides, and one that does not changes nothing. -/
theorem excludes_concat (spec : Spec) (p : Glob.Pattern) (path : String) :
    excludes (spec ++ [p]) path = if p.hits path then !p.negated else excludes spec path := by
  unfold excludes
  rw [List.reverse_append, List.reverse_singleton, List.singleton_append, List.find?_cons]
  cases p.hits path <;> rfl

/-- Where no pattern takes exclusions back, each hit excludes. -/
theorem excludes_of_positive (h : ∀ p ∈ spec, p.negated = false) :
    excludes spec path = true ↔ ∃ p ∈ spec, p.hits path = true := by
  unfold excludes
  cases hfind : spec.reverse.find? fun p => p.hits path with
  | none =>
    have hnone := List.find?_eq_none.mp hfind
    simp only [Bool.false_eq_true, false_iff, not_exists, not_and]
    exact fun p hp => hnone p (List.mem_reverse.mpr hp)
  | some p =>
    have hmem : p ∈ spec := List.mem_reverse.mp (List.mem_of_find?_eq_some hfind)
    have hhit : p.hits path = true := by simpa using List.find?_some hfind
    simp only [h p hmem, Bool.not_false, true_iff]
    exact ⟨p, hmem, hhit⟩

/-- Positive patterns exclude the same in any order and multiplicity. -/
theorem excludes_congr {spec' : Spec} (h : ∀ p ∈ spec, p.negated = false)
    (hsame : ∀ p, p ∈ spec' ↔ p ∈ spec) (path : String) :
    excludes spec' path = excludes spec path := by
  rw [Bool.eq_iff_iff, excludes_of_positive h,
    excludes_of_positive fun p hp => h p ((hsame p).mp hp)]
  simp only [hsame]

end TsOutline.Exclusion
