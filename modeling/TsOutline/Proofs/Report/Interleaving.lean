import Mathlib.Data.List.Count
import TsOutline.Proofs.Report.Lines

/-!
# Interleavings of Files

Records can reach a report in any order that keeps the records of each single file in order. What all
such orders have in common is said once, for items under any key; the report is then followed from its
groups to its text, and it uses nothing else.

- **Interleavings** (`Interleaved`): under every key the same items in the same order. They have the
  same items and the same keys, and they stay interleavings when items are left out.
- **Groups** (`Interleaved.groupBy_perm`): they are the same, and only their order can differ.
- **The report** (`report_depends_on_file_order`): document and summary are the same for all
  interleavings, although the groups come up in different orders.
-/

namespace TsOutline

/-! ## §1 Interleavings -/

section Interleavings

variable {α : Type} {key : α → String} {xs ys : List α}

/-- **Interleavings of the same sequences**: under every key the same items in the same order. -/
def Interleaved (key : α → String) (xs ys : List α) : Prop :=
  ∀ k, xs.filter (fun x => key x = k) = ys.filter (fun x => key x = k)

namespace Interleaved

/-- Neighbours under different keys can change places. -/
theorem swap {x y : α} (hne : key x ≠ key y) (before behind : List α) :
    Interleaved key (before ++ x :: y :: behind) (before ++ y :: x :: behind) := by
  intro k
  rw [List.filter_append, List.filter_append]
  congr 1
  by_cases hx : key x = k
  · have hy : key y ≠ k := fun heq => hne (hx.trans heq.symm)
    simp [hx, hy]
  · simp [List.filter_cons, hx]

/-- Interleavings have the same items, each of them equally often. -/
theorem perm [DecidableEq α] (h : Interleaved key xs ys) : xs.Perm ys := by
  rw [List.perm_iff_count]
  intro a
  -- all occurrences of an item are under its own key
  have hown (zs : List α) : (zs.filter fun x => key x = key a).count a = zs.count a :=
    List.count_filter (decide_eq_true rfl)
  rw [← hown xs, ← hown ys, h (key a)]

/-- What is left after a choice of items is interleaved as before. -/
theorem filter (h : Interleaved key xs ys) (keeps : α → Bool) :
    Interleaved key (xs.filter keeps) (ys.filter keeps) := by
  intro k
  rw [List.filter_comm, h k, List.filter_comm]

end Interleaved

end Interleavings

/-! ## §2 Keys in order -/

section Keys

variable {ks js : List String}

/-- Keys are seen first in different orders, but they are the same keys. -/
theorem firstSeen_perm (h : ks.Perm js) : (firstSeen ks).Perm (firstSeen js) := by
  rw [List.perm_ext_iff_of_nodup (nodup_firstSeen ks) (nodup_firstSeen js)]
  intro k
  rw [mem_firstSeen, mem_firstSeen, h.mem_iff]

/-- Sorting forgets the order in which keys were seen. -/
theorem sorted_firstSeen_eq (h : ks.Perm js) : sorted (firstSeen ks) = sorted (firstSeen js) := by
  have hsame : (sorted (firstSeen ks)).Perm (sorted (firstSeen js)) :=
    (List.mergeSort_perm _ _).trans ((firstSeen_perm h).trans (List.mergeSort_perm _ _).symm)
  refine hsame.eq_of_pairwise ?_ (pairwise_sorted (nodup_firstSeen ks))
    (pairwise_sorted (nodup_firstSeen js))
  intro a b _ _ hab hba
  exact absurd (String.lt_trans hab hba) (String.lt_irrefl a)

/-- **The groups** of interleavings are the same, but they come up in different orders. -/
theorem Interleaved.groupBy_perm {α : Type} [DecidableEq α] {key : α → String} {xs ys : List α}
    (h : Interleaved key xs ys) : (groupBy key xs).Perm (groupBy key ys) := by
  have hgroup : (fun k => (k, xs.filter fun x => key x = k)) =
      fun k => (k, ys.filter fun x => key x = k) := by
    funext k
    rw [h k]
  rw [groupBy, groupBy, hgroup]
  exact (firstSeen_perm (h.perm.map key)).map _

end Keys

/-! ## §3 The report -/

namespace Report

variable {functions functions' : List FunctionSignature} {types types' : List TypeSignature}

section Same

variable (hfunctions : Interleaved FunctionSignature.filePath functions functions')
  (htypes : Interleaved TypeSignature.filePath types types')

include hfunctions htypes

theorem paths_perm :
    (functions.map (·.filePath) ++ types.map (·.filePath)).Perm
      (functions'.map (·.filePath) ++ types'.map (·.filePath)) :=
  (hfunctions.perm.map _).append (htypes.perm.map _)

theorem filePaths_eq : filePaths functions types = filePaths functions' types' :=
  sorted_firstSeen_eq (paths_perm hfunctions htypes)

theorem fileCount_eq : fileCount functions types = fileCount functions' types' :=
  (firstSeen_perm (paths_perm hfunctions htypes)).length_eq

/-- A section is written from the records of its file alone. -/
theorem sections_interleaved (cwd : Place) (root : String) (paths : List String) :
    sections cwd root functions types paths = sections cwd root functions' types' paths := by
  induction paths with
  | nil => rfl
  | cons path rest ih => rw [sections, sections, ih, hfunctions path, htypes path]

theorem bodyText_interleaved (cwd : Place) (root : String) :
    bodyText cwd root functions types = bodyText cwd root functions' types' := by
  rw [bodyText, bodyText, filePaths_eq hfunctions htypes,
    sections_interleaved hfunctions htypes cwd root]

theorem document_interleaved (cwd : Place) (root : String) (exportedOnly : Bool) :
    document cwd root exportedOnly functions types =
      document cwd root exportedOnly functions' types' := by
  have hkept := hfunctions.filter (keepsFunction exportedOnly)
  have hkeptTypes := htypes.filter (keepsType exportedOnly)
  unfold document
  dsimp only
  rw [hfunctions.perm.isEmpty_eq, htypes.perm.isEmpty_eq, hkept.perm.isEmpty_eq,
    hkeptTypes.perm.isEmpty_eq, bodyText_interleaved hkept hkeptTypes]

theorem countLine_interleaved : countLine functions types = countLine functions' types' := by
  have hprocedures : procedureCount functions = procedureCount functions' :=
    (hfunctions.perm.filter _).length_eq
  unfold countLine
  rw [hprocedures, hfunctions.perm.length_eq, htypes.perm.length_eq,
    fileCount_eq hfunctions htypes]

theorem summaryText_interleaved (markdown scanned : String) (exportedOnly : Bool)
    (blacklist : List String) :
    summaryText markdown scanned functions types exportedOnly blacklist =
      summaryText markdown scanned functions' types' exportedOnly blacklist := by
  rw [summaryText, summaryText, countLine_interleaved hfunctions htypes]

end Same

/-- **The report depends on the order within each file only.** Let the records of every file come in
    the same order in two lists of functions, and in two lists of types. The groups of both are the
    same up to the order in which they come up. Under every root, whether all records are shown or the
    exported ones only, the document is the same, or fails in the same way; and around every document,
    whatever the number of files and the blacklist, so is the summary. -/
theorem report_depends_on_file_order (cwd : Place) (root : String) (exportedOnly : Bool)
    (functions functions' : List FunctionSignature) (types types' : List TypeSignature)
    (hfunctions : ∀ path, functions.filter (fun f => f.filePath = path) =
      functions'.filter (fun f => f.filePath = path))
    (htypes : ∀ path, types.filter (fun t => t.filePath = path) =
      types'.filter (fun t => t.filePath = path)) :
    (groupBy (·.filePath) functions).Perm (groupBy (·.filePath) functions') ∧
      (groupBy (·.filePath) types).Perm (groupBy (·.filePath) types') ∧
      document cwd root exportedOnly functions types =
        document cwd root exportedOnly functions' types' ∧
      (∀ markdown filesScanned blacklist,
        summarize markdown filesScanned functions types exportedOnly blacklist =
          summarize markdown filesScanned functions' types' exportedOnly blacklist) ∧
      ∀ markdown scanned blacklist,
        summaryText markdown scanned functions types exportedOnly blacklist =
          summaryText markdown scanned functions' types' exportedOnly blacklist := by
  have hgroups : Interleaved FunctionSignature.filePath functions functions' := hfunctions
  have htypeGroups : Interleaved TypeSignature.filePath types types' := htypes
  refine ⟨hgroups.groupBy_perm, htypeGroups.groupBy_perm,
    document_interleaved hfunctions htypes cwd root exportedOnly, ?_, ?_⟩
  · intro markdown filesScanned blacklist
    exact summaryText_interleaved hfunctions htypes markdown _ exportedOnly blacklist
  · intro markdown scanned blacklist
    exact summaryText_interleaved hfunctions htypes markdown scanned exportedOnly blacklist

/-- A function of a file. -/
def functionIn (path name : String) : FunctionSignature :=
  ⟨name, [], "void", name ++ "(): void", path, true, none, none⟩

/-- A procedure of a file and a router. -/
def procedureIn (path router name : String) : FunctionSignature :=
  ⟨name, [], "unknown", router ++ "." ++ name ++ ": query", path, false, some router,
    some ⟨.query, false, none, none⟩⟩

/-- Two files whose records come mixed or one file after the other: the files come up in different
    orders, and the report is the same. -/
theorem mixed_files_same_report :
    let mixed := [functionIn "/p/b.ts" "f", procedureIn "/p/a.ts" "app" "ping", functionIn "/p/b.ts" "g"]
    let split := [procedureIn "/p/a.ts" "app" "ping", functionIn "/p/b.ts" "f", functionIn "/p/b.ts" "g"]
    (groupBy (·.filePath) mixed).map (·.1) = ["/p/b.ts", "/p/a.ts"] ∧
      (groupBy (·.filePath) split).map (·.1) = ["/p/a.ts", "/p/b.ts"] ∧
      document ["p"] "/p" true mixed [] = document ["p"] "/p" true split [] ∧
      summarize "" 2 mixed [] true ["x"] = summarize "" 2 split [] true ["x"] := by
  intro mixed split
  have hswap : Interleaved FunctionSignature.filePath mixed split :=
    .swap (by decide) [] [functionIn "/p/b.ts" "g"]
  obtain ⟨-, -, hdocument, hsummary, -⟩ :=
    report_depends_on_file_order ["p"] "/p" true mixed split [] [] hswap fun _ => rfl
  exact ⟨by decide, by decide, hdocument, hsummary "" 2 ["x"]⟩

end Report

end TsOutline
