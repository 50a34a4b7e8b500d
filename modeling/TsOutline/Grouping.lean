/-!
# Groups and Order

Records are listed per file and procedures per router: groups under a key, the keys in the order in
which they are first seen, each group in the order of the records. Texts are sorted by code points.
-/

namespace TsOutline

/-- Each text once, at its first occurrence. -/
def firstSeen : List String → List String
  | [] => []
  | k :: ks => k :: (firstSeen ks).filter (· ≠ k)

/-- The items under each key, keys as first seen. -/
def groupBy {α : Type} (key : α → String) (items : List α) : List (String × List α) :=
  (firstSeen (items.map key)).map fun k => (k, items.filter fun x => key x = k)

/-- Texts in order of their code points. -/
def sorted (texts : List String) : List String :=
  texts.mergeSort fun a b => decide (a ≤ b)

end TsOutline
