import Mathlib.Data.List.Basic
import TsOutline.Grouping

/-!
# Groups and Order of Blocks

Sorting keeps what is there, and different texts come out in strictly increasing order. There is one
group for each key, with all items under it. Items that come in blocks, each under a key of its own,
are grouped into these blocks again, and a block can be exchanged without the others noticing.
-/

namespace TsOutline

theorem mem_sorted {path : String} {paths : List String} : path ∈ sorted paths ↔ path ∈ paths :=
  (List.mergeSort_perm paths _).mem_iff

theorem nodup_sorted {paths : List String} (h : paths.Nodup) : (sorted paths).Nodup :=
  (List.mergeSort_perm paths _).nodup_iff.mpr h

theorem mem_firstSeen {k : String} {ks : List String} : k ∈ firstSeen ks ↔ k ∈ ks := by
  induction ks with
  | nil => rfl
  | cons j js ih =>
    rw [firstSeen, List.mem_cons, List.mem_cons, List.mem_filter, ih]
    by_cases hk : k = j <;> simp [hk]

theorem nodup_firstSeen (ks : List String) : (firstSeen ks).Nodup := by
  induction ks with
  | nil => exact List.nodup_nil
  | cons k ks ih => exact List.nodup_cons.mpr ⟨by simp, ih.filter _⟩

/-- Different texts are sorted in strictly increasing order. -/
theorem pairwise_sorted {texts : List String} (h : texts.Nodup) :
    (sorted texts).Pairwise (· < ·) := by
  have hle : (sorted texts).Pairwise fun a b => decide (a ≤ b) = true :=
    List.pairwise_mergeSort (by simpa using fun a b c => String.le_trans)
      (by simpa using String.le_total) texts
  refine (hle.and (nodup_sorted h)).imp ?_
  rintro a b ⟨hab, hne⟩
  exact String.not_le.mp fun hba => hne (String.le_antisymm (of_decide_eq_true hab) hba)

/-- One text several times, and then others, are that text and the others. -/
theorem firstSeen_append {k : String} {ks js : List String} (hks : ∀ i ∈ ks, i = k) (hne : ks ≠ [])
    (hjs : k ∉ js) : firstSeen (ks ++ js) = k :: firstSeen js := by
  have hfilter : (firstSeen js).filter (· ≠ k) = firstSeen js := by
    rw [List.filter_eq_self]
    intro j hj
    exact decide_eq_true fun heq => hjs (heq ▸ mem_firstSeen.mp hj)
  induction ks with
  | nil => exact absurd rfl hne
  | cons i is ih =>
    obtain rfl : i = k := hks i (List.mem_cons_self ..)
    rw [List.cons_append, firstSeen]
    by_cases his : is = []
    · rw [his, List.nil_append, hfilter]
    · rw [ih (fun j hj => hks j (List.mem_cons_of_mem _ hj)) his, List.filter_cons_of_neg (by simp),
        hfilter]

section Groups

variable {α : Type} {key : α → String} {items : List α} {group : String × List α}

/-- **Groups**: there is one for the key of each item, and it has all items under that key. -/
theorem mem_groupBy :
    group ∈ groupBy key items ↔
      (∃ x ∈ items, key x = group.1) ∧ group.2 = items.filter fun x => key x = group.1 := by
  obtain ⟨k, xs⟩ := group
  simp only [groupBy, List.mem_map, Prod.mk.injEq, mem_firstSeen]
  constructor
  · rintro ⟨_, hx, rfl, rfl⟩
    exact ⟨hx, rfl⟩
  · rintro ⟨hx, hxs⟩
    exact ⟨k, hx, rfl, hxs.symm⟩

theorem ne_nil_of_mem_groupBy (h : group ∈ groupBy key items) : group.2 ≠ [] := by
  obtain ⟨⟨x, hx, hkey⟩, hitems⟩ := mem_groupBy.mp h
  rw [hitems]
  exact List.ne_nil_of_mem (List.mem_filter.mpr ⟨hx, decide_eq_true hkey⟩)

theorem map_fst_groupBy (key : α → String) (items : List α) :
    (groupBy key items).map Prod.fst = firstSeen (items.map key) := by
  rw [groupBy, List.map_map]
  exact List.map_id _

theorem groupBy_ne_nil (hne : items ≠ []) : groupBy key items ≠ [] := by
  obtain ⟨x, hx⟩ := List.exists_mem_of_ne_nil _ hne
  exact List.ne_nil_of_mem (a := (key x, items.filter fun y => key y = key x))
    (mem_groupBy.mpr ⟨⟨x, hx, rfl⟩, rfl⟩)

end Groups

section Blocks

variable {α : Type} {key : α → String}

/-- A block of items under one key, in front of items under other keys, is a group. -/
theorem groupBy_append {k : String} {xs ys : List α} (hxs : ∀ x ∈ xs, key x = k) (hne : xs ≠ [])
    (hys : ∀ y ∈ ys, key y ≠ k) : groupBy key (xs ++ ys) = (k, xs) :: groupBy key ys := by
  have hkeys : firstSeen ((xs ++ ys).map key) = k :: firstSeen (ys.map key) := by
    rw [List.map_append]
    apply firstSeen_append
    · intro i hi
      obtain ⟨x, hx, rfl⟩ := List.mem_map.mp hi
      exact hxs x hx
    · simpa using hne
    · intro hk
      obtain ⟨y, hy, heq⟩ := List.mem_map.mp hk
      exact hys y hy heq
  have hfirst : (xs ++ ys).filter (fun x => key x = k) = xs := by
    have hx : xs.filter (fun x => key x = k) = xs := List.filter_eq_self.mpr (by simpa using hxs)
    have hy : ys.filter (fun y => key y = k) = [] := List.filter_eq_nil_iff.mpr (by simpa using hys)
    rw [List.filter_append, hx, hy, List.append_nil]
  rw [groupBy, hkeys, List.map_cons, hfirst, groupBy]
  -- the other groups do not see the block
  congr 1
  apply List.map_congr_left
  intro j hj
  obtain ⟨y, hy, rfl⟩ := List.mem_map.mp (mem_firstSeen.mp hj)
  have hnone : xs.filter (fun x => key x = key y) = [] := by
    rw [List.filter_eq_nil_iff]
    intro x hx
    rw [hxs x hx, decide_eq_true_eq]
    exact (hys y hy).symm
  rw [List.filter_append, hnone, List.nil_append]

variable {names : List String} {block block' : String → List α}

/-- **Groups of blocks**: the groups of blocks under different keys are the blocks that have
    something. -/
theorem groupBy_flatMap (hnodup : names.Nodup) (hkey : ∀ n ∈ names, ∀ x ∈ block n, key x = n) :
    groupBy key (names.flatMap block) =
      (names.filter fun n => !(block n).isEmpty).map fun n => (n, block n) := by
  induction names with
  | nil => rfl
  | cons n rest ih =>
    obtain ⟨hn, hrest⟩ := List.nodup_cons.mp hnodup
    have hkeyRest : ∀ m ∈ rest, ∀ x ∈ block m, key x = m :=
      fun m hm => hkey m (List.mem_cons_of_mem _ hm)
    rw [List.flatMap_cons]
    by_cases hempty : block n = []
    · rw [hempty, List.nil_append, ih hrest hkeyRest, List.filter_cons_of_neg (by simp [hempty])]
    · rw [groupBy_append (hkey n (List.mem_cons_self ..)) hempty, ih hrest hkeyRest,
        List.filter_cons_of_pos (by simpa using hempty), List.map_cons]
      -- a later item under this key would make the key come twice
      intro y hy heq
      obtain ⟨m, hm, hy⟩ := List.mem_flatMap.mp hy
      exact hn (heq ▸ hkeyRest m hm y hy ▸ hm)

/-- Blocks that differ under one key only agree in all items that are not under it. -/
theorem filter_flatMap_congr (key : α → String) {n : String} (hkey : ∀ m ∈ names, ∀ x ∈ block m, key x = m)
    (hkey' : ∀ m ∈ names, ∀ x ∈ block' m, key x = m)
    (hsame : ∀ m ∈ names, m ≠ n → block' m = block m) :
    (names.flatMap block').filter (fun x => key x ≠ n) =
      (names.flatMap block).filter (fun x => key x ≠ n) := by
  rw [List.filter_flatMap, List.filter_flatMap]
  apply List.flatMap_congr
  intro m hm
  by_cases hmn : m = n
  · -- all items of both blocks are under the key
    have hnone (items : List α) (hitems : ∀ x ∈ items, key x = m) :
        items.filter (fun x => key x ≠ n) = [] := by
      rw [List.filter_eq_nil_iff]
      intro x hx
      simp [hitems x hx, hmn]
    rw [hnone _ (hkey m hm), hnone _ (hkey' m hm)]
  · rw [hsame m hm hmn]

end Blocks

end TsOutline
