/-!
# Keyed values in order

A map is a list of pairs in the order in which keys first appeared. Putting a
value under a key that is there keeps the key's place, so the last value wins and
the first place stays.
-/

namespace Storyboard.Keyed

/-- Sets the value of a key: in its place when the key is there, at the end otherwise. -/
def put (key : String) (value : α) : List (String × α) → List (String × α)
  | [] => [(key, value)]
  | entry :: rest => if entry.1 = key then (key, value) :: rest else entry :: put key value rest

/-- The map of pairs that are put one after another. -/
def ofPairs (pairs : List (String × α)) : List (String × α) :=
  pairs.foldl (fun entries pair => put pair.1 pair.2 entries) []

/-- The map without a key. -/
def remove (key : String) (entries : List (String × α)) : List (String × α) :=
  entries.filter fun entry => entry.1 ≠ key

theorem lookup_put (key : String) (value : α) (entries : List (String × α)) (other : String) :
    (put key value entries).lookup other =
      if other = key then some value else entries.lookup other := by
  induction entries with
  | nil => grind [put]
  | cons entry rest ih =>
    obtain ⟨found, held⟩ := entry
    grind [put]

/-- A key that is there keeps its place; a new one comes last. -/
theorem keys_put (key : String) (value : α) (entries : List (String × α)) :
    (put key value entries).map Prod.fst =
      if key ∈ entries.map Prod.fst then entries.map Prod.fst
      else entries.map Prod.fst ++ [key] := by
  induction entries with
  | nil => simp [put]
  | cons entry rest ih => grind [put]

end Storyboard.Keyed
