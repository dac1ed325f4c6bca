import EdiSchema.Proofs.JsonText

/-!
# Values read back

A `Plain` value is one that writers make: natural numbers in decimal digits, texts of characters,
null, the truth values, and whole lists and records of plain values. The text of a plain value is
read as that value (`Plain.parse_render`), since it is one of the texts that the value may be
written as: its words without any blanks between them.

What is proved of a value by induction is that its text may stand anywhere in a longer one
(`Value.Lies`). For lists and records that takes a second induction, over what stands behind the
first item or member.
-/

namespace EdiSchema.Json

/-- A value that may be written. -/
inductive Plain : Value → Prop
  | null : Plain .null
  | bool (b : Bool) : Plain (.bool b)
  | natural (n : Nat) : Plain (.natural n)
  | string (s : String) : Plain (.string s)
  | list {items : List Value} (h : ∀ v ∈ items, Plain v) : Plain (.list items)
  | record {members : List (String × Value)} (h : ∀ m ∈ members, Plain m.2) :
    Plain (.record members)

/-! ## Texts of values -/

/-- Wherever no scalar follows, the text of the value is laid out as the words of the value. -/
def Value.Lies (v : Value) : Prop := ∀ {ts : List Token} {cs : List Char}, Laid ts cs →
  NoScalarFirst ts → Laid (v.words ++ ts) (v.chars ++ cs)

/-- Items behind the first one. -/
theorem laid_items {items : List Value} (h : ∀ v ∈ items, v.Lies) {ts : List Token} {cs : List Char}
    (hrest : Laid ts cs) (hfirst : NoScalarFirst ts) :
    Laid (Value.itemWords items ++ ts) (Value.itemChars items ++ cs) ∧
      NoScalarFirst (Value.itemWords items ++ ts) := by
  induction items with
  | nil => exact ⟨hrest, hfirst⟩
  | cons v items ih =>
    obtain ⟨hv, hitems⟩ := List.forall_mem_cons.mp h
    obtain ⟨hlaid, hnext⟩ := ih hitems
    rw [Value.itemWords, Value.itemChars, List.cons_append, List.cons_append, List.append_assoc,
      List.append_assoc]
    exact ⟨.mark .comma rfl (hv hlaid hnext), noScalarFirst_cons rfl _⟩

/-- Members behind the first one. -/
theorem laid_members {members : List (String × Value)} (h : ∀ m ∈ members, m.2.Lies)
    {ts : List Token} {cs : List Char} (hrest : Laid ts cs) (hfirst : NoScalarFirst ts) :
    Laid (Value.memberWords (members.map fun m => (some m.1, m.2)) ++ ts)
        (Value.memberChars (members.map fun m => (some m.1, m.2)) ++ cs) ∧
      NoScalarFirst (Value.memberWords (members.map fun m => (some m.1, m.2)) ++ ts) := by
  induction members with
  | nil => exact ⟨hrest, hfirst⟩
  | cons m members ih =>
    obtain ⟨hm, hmembers⟩ := List.forall_mem_cons.mp h
    obtain ⟨hlaid, hnext⟩ := ih hmembers
    rw [List.map_cons, Value.memberWords, Value.memberChars, quoteOptional, Option.getD_some]
    simp only [List.cons_append, List.append_assoc]
    exact ⟨.mark .comma rfl (.word (written_quote m.1) (fun _ => noScalarFirst_cons rfl _)
      (.mark .colon rfl (hm hlaid hnext))), noScalarFirst_cons rfl _⟩

/-- A list is laid out as its words if each of its values is. -/
theorem list_lies {items : List Value} (h : ∀ v ∈ items, v.Lies) : (Value.list items).Lies := by
  intro ts cs hrest hfirst
  have hend : Laid (.endArray :: ts) (']' :: cs) := .mark .endArray rfl hrest
  cases items with
  | nil =>
    have hopen : Laid (.beginArray :: .endArray :: ts) ('[' :: ']' :: cs) :=
      .mark .beginArray rfl hend
    exact hopen
  | cons v items =>
    obtain ⟨hv, hitems⟩ := List.forall_mem_cons.mp h
    obtain ⟨hlaid, hnext⟩ := laid_items hitems hend (noScalarFirst_cons rfl ts)
    rw [Value.list, Value.words, Value.chars]
    simp only [List.cons_append, List.append_assoc]
    exact .mark .beginArray rfl (hv hlaid hnext)

/-- An object is laid out as its words if the value of each member is. -/
theorem record_lies {members : List (String × Value)} (h : ∀ m ∈ members, m.2.Lies) :
    (Value.record members).Lies := by
  intro ts cs hrest hfirst
  have hend : Laid (.endObject :: ts) ('}' :: cs) := .mark .endObject rfl hrest
  cases members with
  | nil =>
    have hopen : Laid (.beginObject :: .endObject :: ts) ('{' :: '}' :: cs) :=
      .mark .beginObject rfl hend
    exact hopen
  | cons m members =>
    obtain ⟨hm, hmembers⟩ := List.forall_mem_cons.mp h
    obtain ⟨hlaid, hnext⟩ := laid_members hmembers hend (noScalarFirst_cons rfl ts)
    rw [Value.record, List.map_cons, Value.words, Value.chars, quoteOptional, Option.getD_some]
    simp only [List.cons_append, List.append_assoc]
    exact .mark .beginObject rfl (.word (written_quote m.1) (fun _ => noScalarFirst_cons rfl _)
      (.mark .colon rfl (hm hlaid hnext)))

/-- The text of every value that may be written is laid out as its words. -/
theorem Plain.lies {v : Value} (h : Plain v) : v.Lies := by
  induction h with
  | null => exact fun hrest hfirst => .word .null (fun _ => hfirst) hrest
  | bool b =>
    cases b with
    | true => exact fun hrest hfirst => .word .yes (fun _ => hfirst) hrest
    | false => exact fun hrest hfirst => .word .no (fun _ => hfirst) hrest
  | natural n => exact fun hrest hfirst => .word (written_natural n) (fun _ => hfirst) hrest
  | string s => exact fun hrest hfirst => .word (written_quote s) (fun _ => hfirst) hrest
  | list _ ih => exact list_lies ih
  | record _ ih => exact record_lies ih

/-! ## Reading -/

/-- Values that may be written are whole. -/
theorem Plain.isWhole {v : Value} (h : Plain v) : v.isWhole := by
  induction h with
  | null | bool _ | natural _ | string _ => rfl
  | list _ ih => exact Bool.and_eq_true_iff.mpr ⟨rfl, (Value.areWhole_iff _).mpr ih⟩
  | @record members _ ih =>
    refine Bool.and_eq_true_iff.mpr ⟨rfl, (Value.membersAreWhole_iff _).mpr fun m hm => ?_⟩
    obtain ⟨n, hn, rfl⟩ := List.mem_map.mp hm
    exact ih n hn

/-- What is written of a plain value is read as that value. -/
theorem Plain.parse_render {v : Value} (h : Plain v) : parse v.render = ⟨v, true⟩ := by
  have hlaid := h.lies .nil (fun t ht => by cases ht)
  rw [List.append_nil, List.append_nil] at hlaid
  apply Value.WrittenAs.parse_eq
  refine ⟨h.isWhole, ?_⟩
  rwa [Value.render, String.toList_ofList]

end EdiSchema.Json
