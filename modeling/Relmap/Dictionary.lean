/-! Texts under text keys, one for each key. The entries are kept in the order of the keys, by code
point, so that going through a dictionary does not depend on how it was filled. -/

namespace Relmap

structure Dictionary where
  entries : List (String × String)
  sorted : entries.Pairwise fun first second => first.1 < second.1
  deriving DecidableEq

namespace Dictionary

def empty : Dictionary := ⟨[], .nil⟩

/-- The value under a key that is already there is replaced. -/
def assign (key value : String) : List (String × String) → List (String × String)
  | [] => [(key, value)]
  | (k, v) :: rest =>
    if key < k then (key, value) :: (k, v) :: rest
    else if key = k then (key, value) :: rest
    else (k, v) :: assign key value rest

theorem mem_assign {key value : String} {entries : List (String × String)} {entry : String × String}
    (member : entry ∈ assign key value entries) : entry = (key, value) ∨ entry ∈ entries := by
  induction entries with
  | nil => exact .inl (List.mem_singleton.1 member)
  | cons head rest ih =>
    obtain ⟨k, v⟩ := head
    grind [assign]

theorem assign_sorted {key value : String} {entries : List (String × String)}
    (sorted : entries.Pairwise fun first second => first.1 < second.1) :
    (assign key value entries).Pairwise fun first second => first.1 < second.1 := by
  induction entries with
  | nil => exact List.pairwise_singleton _ _
  | cons head rest ih =>
    obtain ⟨k, v⟩ := head
    obtain ⟨before, ordered⟩ := List.pairwise_cons.1 sorted
    unfold assign
    split
    · next less =>
      refine List.pairwise_cons.2 ⟨fun entry member => ?_, sorted⟩
      rcases List.mem_cons.1 member with rfl | later
      · exact less
      · exact String.lt_trans less (before entry later)
    · next notLess =>
      split
      · next equal =>
        subst equal
        exact List.pairwise_cons.2 ⟨before, ordered⟩
      · next different =>
        refine List.pairwise_cons.2 ⟨fun entry member => ?_, ih ordered⟩
        rcases mem_assign member with rfl | later
        · exact Std.lt_of_le_of_ne notLess (Ne.symm different)
        · exact before entry later

def insert (dictionary : Dictionary) (key value : String) : Dictionary where
  entries := assign key value dictionary.entries
  sorted := assign_sorted dictionary.sorted

def get? (dictionary : Dictionary) (key : String) : Option String := dictionary.entries.lookup key

/-- Of several values under one key the last one counts. -/
def ofList (entries : List (String × String)) : Dictionary :=
  entries.foldl (fun dictionary (key, value) => dictionary.insert key value) empty

end Dictionary

end Relmap
