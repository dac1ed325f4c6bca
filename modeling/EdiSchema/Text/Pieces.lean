/-!
# Cutting a text at separators

`pieces sep cs` cuts a text at every separator with the library's own `List.splitOnP`, so the pieces
may be empty, and there is one more of them than there are separators. `words` are the pieces that
hold something; words that are joined by a separator are found again (`words_intercalate`).
-/

namespace EdiSchema.Text

/-- The pieces of a text between its separators. -/
def pieces (sep : Char → Bool) (cs : List Char) : List (List Char) := cs.splitOnP sep

/-- The pieces that hold something. -/
def words (sep : Char → Bool) (cs : List Char) : List (List Char) :=
  (pieces sep cs).filter fun p => !p.isEmpty

/-- At a separator the words of both sides stand side by side. -/
theorem words_append_of_sep {sep : Char → Bool} {c : Char} (h : sep c) (as bs : List Char) :
    words sep (as ++ c :: bs) = words sep as ++ words sep bs := by
  unfold words pieces
  rw [List.splitOnP_append_cons as bs h, List.filter_append]

/-- Something without separators is one word. -/
theorem words_of_not_sep {sep : Char → Bool} {w : List Char} (hw : w ≠ [])
    (h : ∀ c ∈ w, sep c = false) : words sep w = [w] := by
  rw [words, pieces, List.splitOnP_eq_singleton h]
  simp [hw]

/-- Words that are joined by a separator are the words of the text. -/
theorem words_intercalate {sep : Char → Bool} {c : Char} (h : sep c) {ws : List (List Char)}
    (hws : ∀ w ∈ ws, w ≠ [] ∧ ∀ d ∈ w, sep d = false) :
    words sep ([c].intercalate ws) = ws := by
  induction ws with
  | nil => rfl
  | cons w rest ih =>
    obtain ⟨⟨hne, hsep⟩, hrest⟩ := List.forall_mem_cons.mp hws
    have hword : words sep w = [w] := words_of_not_sep hne hsep
    cases rest with
    | nil => simpa using hword
    | cons v rest =>
      rw [List.intercalate_cons_of_ne_nil (List.cons_ne_nil v rest), List.append_assoc,
        List.singleton_append, words_append_of_sep h, hword, ih hrest]
      rfl

end EdiSchema.Text
