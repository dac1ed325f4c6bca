import EdiSchema.Archive

/-!
# Archives merged

A merge writes the entries of one archive into another, one after the other. What comes of it is
said entry by entry (`OrderedMap.entries_insertAll`): every entry that was there keeps its place and
takes the content that is merged under its path, if there is any, and the entries under other paths
follow in the order they came in. So places come from the left and contents from the right.

The laws of merging are those of the view of a map. The paths of a merge are the paths on the left
and behind them the others on the right (`Archive.keys_merge`), and a path leads to the content on
the right, or else to the one on the left (`Archive.get?_merge`). Both join any number of archives
without regard to how they are nested, which makes `Archive.merge_assoc`.
-/

namespace EdiSchema

namespace Archive

/-! ## The view of a merge -/

/-- The paths on the left, and behind them the others on the right. -/
theorem keys_merge (a b : Archive) : (a.merge b).files.keys =
    a.files.keys ++ b.files.keys.filter fun path => path ∉ a.files.keys :=
  a.files.keys_insertAll b.files

/-- A path leads to the content on the right, or else to the one on the left. -/
theorem get?_merge (a b : Archive) (path : String) :
    (a.merge b).files.get? path = (b.files.get? path).or (a.files.get? path) :=
  a.files.get?_insertAll_entries b.files path

/-- Archives are told by their paths in order and by the contents under them. -/
theorem eq_of_view {a b : Archive} (hkeys : a.files.keys = b.files.keys)
    (hget : ∀ path, a.files.get? path = b.files.get? path) : a = b :=
  congrArg Archive.mk (OrderedMap.eq_of_view hkeys hget)

/-! ## The laws -/

/-- It does not matter which two of three archives are merged first. -/
theorem merge_assoc (a b c : Archive) : (a.merge b).merge c = a.merge (b.merge c) := by
  apply eq_of_view
  · simp only [keys_merge, List.filter_append, List.filter_filter, List.append_assoc,
      List.mem_append, List.mem_filter]
    -- a path of the last archive is behind the others if neither of them has it
    congr 2
    apply List.filter_congr
    intro path _
    by_cases ha : path ∈ a.files.keys
    · simp [ha]
    · simp [ha]
  · intro path
    rw [get?_merge, get?_merge, get?_merge, get?_merge, Option.or_assoc]

/-- An archive merged into itself is that archive. -/
theorem merge_self (a : Archive) : a.merge a = a := by
  apply eq_of_view
  · rw [keys_merge, List.filter_eq_nil_iff.mpr (by simp), List.append_nil]
  · intro path
    rw [get?_merge, Option.or_self]

/-- The empty archive takes on whatever is merged into it. -/
theorem empty_merge (a : Archive) : empty.merge a = a :=
  congrArg Archive.mk a.files.empty_insertAll

theorem merge_empty (a : Archive) : a.merge empty = a := rfl

/-- Merging is associative and idempotent, and the empty archive is its identity, the order of the
entries included. A merge lists the entries on the left in their order, each with the content that
the right one has under its path, if there is any, and then the entries on the right that are under
other paths, in their order. -/
theorem merge_lawful (a b c : Archive) :
    (a.merge b).merge c = a.merge (b.merge c) ∧ a.merge a = a ∧
    empty.merge a = a ∧ a.merge empty = a ∧
    (a.merge b).entries =
      (a.entries.map fun e => (e.1, (b.files.get? e.1).getD e.2)) ++
        b.entries.filter fun e => e.1 ∉ a.entries.map Prod.fst :=
  ⟨merge_assoc a b c, merge_self a, empty_merge a, merge_empty a,
    a.files.entries_insertAll b.files.nodup⟩

end Archive

end EdiSchema
