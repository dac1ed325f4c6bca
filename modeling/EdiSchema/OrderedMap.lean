/-!
# Maps that remember the order of first insertion

An `OrderedMap` is a finite map whose entries stand in the order in which their keys first came in.
Writing a key that is already there replaces its value and leaves it in its place; a new key goes
last; taking a key out leaves the order of the others. The entries are a list, because their order
is part of every output that shows them, and the list carries the proof that no key stands twice.

The view of a map is `get?` together with `keys`, and tells the map (`eq_of_view`). Each operation
has one equation for each of the two: `get?_insert`, `keys_insert`, `get?_erase` and `keys_erase`,
and where the entries of one map are written into another, `get?_insertAll_entries` and
`keys_insertAll`.
-/

namespace EdiSchema

universe u v

variable {κ : Type u} {ν : Type v} [DecidableEq κ]

/-! ## Entries -/

namespace Entries

/-- Writes `key` in its place, or at the end if it has none. -/
def insert (key : κ) (value : ν) : List (κ × ν) → List (κ × ν)
  | [] => [(key, value)]
  | e :: rest =>
    if e.1 = key then (key, value) :: rest else e :: insert key value rest

/-- The value under `key`, if there is one. -/
def get? (key : κ) : List (κ × ν) → Option ν
  | [] => none
  | e :: rest => if e.1 = key then some e.2 else get? key rest

/-- Takes the entry of `key` out. -/
def erase (key : κ) : List (κ × ν) → List (κ × ν)
  | [] => []
  | e :: rest => if e.1 = key then rest else e :: erase key rest

/-- A key keeps its place when it is written again and goes last otherwise. -/
theorem keys_insert (key : κ) (value : ν) (es : List (κ × ν)) :
    (insert key value es).map Prod.fst =
      if key ∈ es.map Prod.fst then es.map Prod.fst else es.map Prod.fst ++ [key] := by
  induction es with
  | nil => simp [insert]
  | cons e rest ih =>
    by_cases h : e.1 = key
    · simp [insert, h]
    · have h' : ¬ key = e.1 := fun x => h x.symm
      by_cases hm : key ∈ rest.map Prod.fst
      · rw [if_pos hm] at ih
        rw [if_pos (by rw [List.map_cons]; exact List.mem_cons_of_mem _ hm)]
        simp only [insert, if_neg h, List.map_cons, ih]
      · rw [if_neg hm] at ih
        rw [if_neg (by rw [List.map_cons, List.mem_cons]; exact fun x => x.elim h' hm)]
        simp only [insert, if_neg h, List.map_cons, ih, List.cons_append]

/-- Taking a key out takes its first mention out of the keys. -/
theorem keys_erase (key : κ) (es : List (κ × ν)) :
    (erase key es).map Prod.fst = (es.map Prod.fst).erase key := by
  induction es with
  | nil => rfl
  | cons e rest ih => by_cases h : e.1 = key <;> simp [erase, h, ih]

/-- After an insertion the key reads the new value, and every other key what it read before. -/
theorem get?_insert (key k : κ) (value : ν) (es : List (κ × ν)) :
    get? k (insert key value es) = if key = k then some value else get? k es := by
  induction es with
  | nil => simp [insert, get?]
  | cons e rest ih =>
    by_cases h : e.1 = key
    · by_cases hk : key = k <;> simp [insert, get?, h, hk]
    · by_cases hk : key = k
      · subst hk
        simp [insert, get?, h, ih]
      · rw [insert, if_neg h, get?, ih, if_neg hk, if_neg hk, get?]

/-- An entry is the one written or was there before. -/
theorem mem_insert {key : κ} {value : ν} {es : List (κ × ν)} {e : κ × ν}
    (h : e ∈ insert key value es) : e = (key, value) ∨ e ∈ es := by
  induction es with
  | nil => exact .inl (List.mem_singleton.mp h)
  | cons d rest ih =>
    by_cases hd : d.1 = key
    · rw [insert, if_pos hd] at h
      exact (List.mem_cons.mp h).imp id (List.mem_cons_of_mem _)
    · rw [insert, if_neg hd] at h
      rcases List.mem_cons.mp h with rfl | hrest
      · exact .inr List.mem_cons_self
      · exact (ih hrest).imp id (List.mem_cons_of_mem _)

/-- A key has a value exactly when it is one of the keys. -/
theorem get?_isSome (key : κ) (es : List (κ × ν)) :
    (get? key es).isSome ↔ key ∈ es.map Prod.fst := by
  induction es with
  | nil => simp [get?]
  | cons e rest ih =>
    by_cases h : e.1 = key
    · simp [get?, h]
    · have h' : ¬ key = e.1 := fun x => h x.symm
      simp only [get?, if_neg h, List.map_cons, List.mem_cons, h', false_or, ih]

/-- A key has no value exactly when it is none of the keys. -/
theorem get?_eq_none_iff (key : κ) (es : List (κ × ν)) :
    get? key es = none ↔ key ∉ es.map Prod.fst := by
  rw [← get?_isSome, Option.not_isSome_iff_eq_none]

/-- To erase a key does not touch what another one reads. -/
theorem get?_erase_of_ne {key k : κ} (h : key ≠ k) (es : List (κ × ν)) :
    get? k (erase key es) = get? k es := by
  induction es with
  | nil => rfl
  | cons e rest ih =>
    by_cases he : e.1 = key
    · have : ¬ e.1 = k := fun x => h (he.symm.trans x)
      simp only [erase, if_pos he, get?, if_neg this]
    · rw [erase, if_neg he, get?, ih, get?]

/-- Earlier entries are found first. -/
theorem get?_append (key : κ) (es fs : List (κ × ν)) :
    get? key (es ++ fs) = (get? key es).or (get? key fs) := by
  induction es with
  | nil => rfl
  | cons e rest ih => by_cases he : e.1 = key <;> simp [get?, he, ih]

/-- What is found is there. -/
theorem mem_of_get? {key : κ} {value : ν} {es : List (κ × ν)} (h : get? key es = some value) :
    (key, value) ∈ es := by
  induction es with
  | nil => cases h
  | cons e rest ih =>
    by_cases he : e.1 = key
    · simp only [get?, if_pos he, Option.some.injEq] at h
      subst he; subst h
      exact List.mem_cons_self
    · simp only [get?, if_neg he] at h
      exact List.mem_cons_of_mem _ (ih h)

/-- Where no key stands twice, each entry is found under its key. -/
theorem get?_of_mem {es : List (κ × ν)} (hd : (es.map Prod.fst).Nodup) {e : κ × ν} (he : e ∈ es) :
    get? e.1 es = some e.2 := by
  induction es with
  | nil => cases he
  | cons d rest ih =>
    rw [List.map_cons, List.nodup_cons] at hd
    rcases List.mem_cons.mp he with rfl | hrest
    · exact if_pos rfl
    · have hne : ¬ d.1 = e.1 := fun h => hd.1 (h ▸ List.mem_map_of_mem hrest)
      rw [get?, if_neg hne, ih hd.2 hrest]

/-- Where no key stands twice, entries are found alike from either end. -/
theorem get?_reverse {es : List (κ × ν)} (hd : (es.map Prod.fst).Nodup) (key : κ) :
    get? key es.reverse = get? key es := by
  induction es with
  | nil => rfl
  | cons e rest ih =>
    rw [List.map_cons, List.nodup_cons] at hd
    rw [List.reverse_cons, get?_append, ih hd.2]
    by_cases he : e.1 = key
    · have hnone : get? key rest = none := (get?_eq_none_iff key rest).mpr (he ▸ hd.1)
      simp [get?, he, hnone]
    · simp [get?, he]

/-- Where no key stands twice, the keys in order and what is found under them are all there is. -/
theorem eq_of_get? {es fs : List (κ × ν)} (hd : (es.map Prod.fst).Nodup)
    (hkeys : es.map Prod.fst = fs.map Prod.fst) (hget : ∀ key, get? key es = get? key fs) :
    es = fs := by
  induction es generalizing fs with
  | nil => exact (List.map_eq_nil_iff.mp hkeys.symm).symm
  | cons e es ih =>
    cases fs with
    | nil => cases hkeys
    | cons f fs =>
      obtain ⟨hkey, hrest⟩ := List.cons.inj hkeys
      rw [List.map_cons, List.nodup_cons] at hd
      have hvalue : e.2 = f.2 := by
        have h := hget e.1
        rw [get?, get?, if_pos rfl, if_pos hkey.symm] at h
        exact Option.some_inj.mp h
      have hsame : ∀ key, get? key es = get? key fs := by
        intro key
        by_cases heq : e.1 = key
        · -- the key of the first entry is found nowhere behind it
          have hnot : key ∉ es.map Prod.fst := heq ▸ hd.1
          rw [(get?_eq_none_iff key es).mpr hnot, (get?_eq_none_iff key fs).mpr (hrest ▸ hnot)]
        · have h := hget key
          rwa [get?, get?, if_neg heq, if_neg (hkey ▸ heq)] at h
      rw [Prod.ext hkey hvalue, ih hd.2 hrest hsame]

/-- A key without a value goes last. -/
theorem insert_of_get?_none {key : κ} {es : List (κ × ν)} (h : get? key es = none) (value : ν) :
    insert key value es = es ++ [(key, value)] := by
  induction es with
  | nil => rfl
  | cons e rest ih =>
    by_cases he : e.1 = key
    · simp [get?, he] at h
    · simp only [get?, if_neg he] at h
      simp [insert, he, ih h]

/-- Where no key stands twice, writing a key again changes its entry and no other. -/
theorem insert_of_mem {key : κ} {es : List (κ × ν)} (hd : (es.map Prod.fst).Nodup)
    (h : key ∈ es.map Prod.fst) (value : ν) :
    insert key value es = es.map fun e => if e.1 = key then (e.1, value) else e := by
  induction es with
  | nil => cases h
  | cons d rest ih =>
    rw [List.map_cons, List.nodup_cons] at hd
    by_cases hkey : d.1 = key
    · have hrest : ∀ e ∈ rest, ¬ e.1 = key := fun e he heq =>
        hd.1 (hkey.trans heq.symm ▸ List.mem_map_of_mem he)
      have hsame : rest.map (fun e => if e.1 = key then (e.1, value) else e) = rest :=
        (List.map_congr_left fun e he => if_neg (hrest e he)).trans (List.map_id' rest)
      rw [insert, if_pos hkey, List.map_cons, if_pos hkey, hsame, hkey]
    · have hlater : key ∈ rest.map Prod.fst :=
        (List.mem_cons.mp h).resolve_left fun heq => hkey heq.symm
      rw [insert, if_neg hkey, List.map_cons, if_neg hkey, ih hd.2 hlater]

/-- Where no key stands twice, taking a key out leaves the entries of all other keys. -/
theorem erase_eq_filter (key : κ) {es : List (κ × ν)} (hd : (es.map Prod.fst).Nodup) :
    erase key es = es.filter fun e => e.1 ≠ key := by
  induction es with
  | nil => rfl
  | cons d rest ih =>
    rw [List.map_cons, List.nodup_cons] at hd
    by_cases hkey : d.1 = key
    · have hrest : ∀ e ∈ rest, decide (e.1 ≠ key) = true := fun e he => decide_eq_true fun heq =>
        hd.1 (hkey.trans heq.symm ▸ List.mem_map_of_mem he)
      rw [erase, if_pos hkey, List.filter_cons_of_neg (by simp [hkey]),
        List.filter_eq_self.mpr hrest]
    · rw [erase, if_neg hkey, List.filter_cons_of_pos (by simp [hkey]), ih hd.2]

/-- Where no key stands twice, taking out the key of an entry takes out this entry and no other. -/
theorem erase_eq_eraseIdx {es : List (κ × ν)} (hd : (es.map Prod.fst).Nodup) {place : Nat}
    {e : κ × ν} (he : es[place]? = some e) : erase e.1 es = es.eraseIdx place := by
  induction es generalizing place with
  | nil => cases he
  | cons d rest ih =>
    rw [List.map_cons, List.nodup_cons] at hd
    cases place with
    | zero =>
      cases he
      exact if_pos rfl
    | succ k =>
      rw [List.getElem?_cons_succ] at he
      have hmem : e.1 ∈ rest.map Prod.fst := List.mem_map_of_mem (List.mem_of_getElem? he)
      have hne : ¬ d.1 = e.1 := fun h => hd.1 (h ▸ hmem)
      rw [erase, if_neg hne, ih hd.2 he, List.eraseIdx_cons_succ]

end Entries

/-! ## The map -/

/-- A finite map in the order of first insertion. -/
structure OrderedMap (κ : Type u) (ν : Type v) where
  /-- Keys with their values, in order. -/
  entries : List (κ × ν)
  /-- No key stands twice. -/
  nodup : (entries.map Prod.fst).Nodup

namespace OrderedMap

omit [DecidableEq κ] in
/-- A map is its list of entries. -/
theorem ext {m n : OrderedMap κ ν} (h : m.entries = n.entries) : m = n := by
  cases m; cases n; cases h; rfl

instance [DecidableEq ν] : DecidableEq (OrderedMap κ ν) := fun m n =>
  if h : m.entries = n.entries then isTrue (ext h) else isFalse fun e => h (e ▸ rfl)

/-- The map without entries. -/
def empty : OrderedMap κ ν := ⟨[], List.nodup_nil⟩

instance : Inhabited (OrderedMap κ ν) := ⟨empty⟩

/-- The keys in order. -/
def keys (m : OrderedMap κ ν) : List κ := m.entries.map Prod.fst

/-- The number of entries. -/
def size (m : OrderedMap κ ν) : Nat := m.entries.length

def isEmpty (m : OrderedMap κ ν) : Bool := m.entries.isEmpty

/-- The value under `key`. -/
def get? (m : OrderedMap κ ν) (key : κ) : Option ν := Entries.get? key m.entries

def contains (m : OrderedMap κ ν) (key : κ) : Bool := (m.get? key).isSome

/-- An insertion leaves no key twice: it writes over the entry of the key, if there is one. -/
theorem nodup_insert (m : OrderedMap κ ν) (key : κ) (value : ν) :
    ((Entries.insert key value m.entries).map Prod.fst).Nodup := by
  rw [Entries.keys_insert]
  split
  · exact m.nodup
  · next h =>
    exact List.nodup_append.mpr
      ⟨m.nodup, by simp, fun a ha b hb e => h (by simp at hb; exact hb ▸ e ▸ ha)⟩

/-- Writes `value` under `key`: in the place of `key` if it has one, at the end otherwise. -/
def insert (m : OrderedMap κ ν) (key : κ) (value : ν) : OrderedMap κ ν :=
  ⟨Entries.insert key value m.entries, m.nodup_insert key value⟩

theorem nodup_erase (m : OrderedMap κ ν) (key : κ) :
    ((Entries.erase key m.entries).map Prod.fst).Nodup := by
  rw [Entries.keys_erase]
  exact m.nodup.erase key

/-- Takes `key` out and keeps the order of the other entries. -/
def erase (m : OrderedMap κ ν) (key : κ) : OrderedMap κ ν :=
  ⟨Entries.erase key m.entries, m.nodup_erase key⟩

/-- Writes the given entries one after the other. -/
def insertAll (m : OrderedMap κ ν) : List (κ × ν) → OrderedMap κ ν
  | [] => m
  | e :: rest => (m.insert e.1 e.2).insertAll rest

/-- The map that holds the given entries; of two with one key the later value counts and the
earlier place. -/
def ofList (es : List (κ × ν)) : OrderedMap κ ν := empty.insertAll es

/-! ## What each operation does to the view -/

@[simp] theorem get?_empty (key : κ) : (empty : OrderedMap κ ν).get? key = none := rfl

/-- An insertion is read back, and concerns no other key. -/
@[simp] theorem get?_insert (m : OrderedMap κ ν) (key k : κ) (value : ν) :
    (m.insert key value).get? k = if key = k then some value else m.get? k :=
  Entries.get?_insert key k value m.entries

/-- Only a key that is new changes the list of keys, and it goes to the end. -/
theorem keys_insert (m : OrderedMap κ ν) (key : κ) (value : ν) :
    (m.insert key value).keys = if key ∈ m.keys then m.keys else m.keys ++ [key] :=
  Entries.keys_insert key value m.entries

theorem contains_iff (m : OrderedMap κ ν) (key : κ) : m.contains key ↔ key ∈ m.keys :=
  Entries.get?_isSome key m.entries

/-- An erased key reads nothing, and every other key what it read before. -/
@[simp] theorem get?_erase (m : OrderedMap κ ν) (key k : κ) :
    (m.erase key).get? k = if key = k then none else m.get? k := by
  split
  · next h =>
    subst h
    apply (Entries.get?_eq_none_iff key (Entries.erase key m.entries)).mpr
    rw [Entries.keys_erase]
    exact fun hm => ((List.Nodup.mem_erase_iff m.nodup).mp hm).1 rfl
  · next h => exact Entries.get?_erase_of_ne h m.entries

/-- The other keys keep their order. -/
theorem keys_erase (m : OrderedMap κ ν) (key : κ) : (m.erase key).keys = m.keys.erase key :=
  Entries.keys_erase key m.entries

/-- A map is told by its view. -/
theorem eq_of_view {m n : OrderedMap κ ν} (hkeys : m.keys = n.keys)
    (hget : ∀ key, m.get? key = n.get? key) : m = n :=
  ext (Entries.eq_of_get? m.nodup hkeys hget)

theorem mem_keys_insert (m : OrderedMap κ ν) (key k : κ) (value : ν) :
    k ∈ (m.insert key value).keys ↔ k = key ∨ k ∈ m.keys := by
  rw [keys_insert]
  split
  · next h =>
    constructor
    · exact Or.inr
    · rintro (rfl | hk)
      · exact h
      · exact hk
  · rw [List.mem_append, List.mem_singleton, or_comm]

/-- Many insertions add the keys that they name. -/
theorem mem_keys_insertAll (m : OrderedMap κ ν) (es : List (κ × ν)) (k : κ) :
    k ∈ (m.insertAll es).keys ↔ k ∈ m.keys ∨ k ∈ es.map Prod.fst := by
  induction es generalizing m with
  | nil => simp [insertAll]
  | cons e rest ih =>
    rw [insertAll, ih, mem_keys_insert, List.map_cons, List.mem_cons, or_assoc, or_left_comm]

/-- Of entries that are written one after the other the last of a key counts. -/
theorem get?_insertAll (m : OrderedMap κ ν) (es : List (κ × ν)) (key : κ) :
    (m.insertAll es).get? key = (Entries.get? key es.reverse).or (m.get? key) := by
  induction es generalizing m with
  | nil => rfl
  | cons e rest ih =>
    rw [insertAll, ih, get?_insert, List.reverse_cons, Entries.get?_append, Option.or_assoc]
    congr 1
    by_cases h : e.1 = key <;> simp [Entries.get?, h]

/-- What one entry leaves. -/
theorem entries_insert (m : OrderedMap κ ν) (key : κ) (value : ν) :
    (m.insert key value).entries =
      (m.entries.map fun e => if e.1 = key then (e.1, value) else e) ++
        if key ∈ m.keys then [] else [(key, value)] := by
  by_cases h : key ∈ m.keys
  · rw [if_pos h, List.append_nil]
    exact Entries.insert_of_mem m.nodup h value
  · have hother : ∀ e ∈ m.entries, ¬ e.1 = key := fun e he heq =>
      h (heq ▸ List.mem_map_of_mem he)
    have hsame : (m.entries.map fun e => if e.1 = key then (e.1, value) else e) = m.entries :=
      (List.map_congr_left fun e he => if_neg (hother e he)).trans (List.map_id' m.entries)
    rw [if_neg h, hsame]
    exact Entries.insert_of_get?_none ((Entries.get?_eq_none_iff key m.entries).mpr h) value

/-- What many entries leave, if no key stands twice among them. -/
theorem entries_insertAll (m : OrderedMap κ ν) {es : List (κ × ν)}
    (hd : (es.map Prod.fst).Nodup) :
    (m.insertAll es).entries =
      (m.entries.map fun e => (e.1, (Entries.get? e.1 es).getD e.2)) ++
        es.filter fun e => e.1 ∉ m.keys := by
  induction es generalizing m with
  | nil => simp [insertAll, Entries.get?]
  | cons d rest ih =>
    rw [List.map_cons, List.nodup_cons] at hd
    -- what is written under the first key stays, since no later entry is under it
    have hlast : Entries.get? d.1 rest = none := (Entries.get?_eq_none_iff d.1 rest).mpr hd.1
    have hothers : ∀ e ∈ rest, e.1 ≠ d.1 := fun e he h => hd.1 (h ▸ List.mem_map_of_mem he)
    have hfilter : (rest.filter fun e => e.1 ∉ (m.insert d.1 d.2).keys) =
        rest.filter fun e => e.1 ∉ m.keys := by
      apply List.filter_congr
      intro e he
      simp [mem_keys_insert, hothers e he]
    rw [insertAll, ih (m.insert d.1 d.2) hd.2, entries_insert, hfilter, List.map_append,
      List.map_map, List.append_assoc]
    congr 1
    · apply List.map_congr_left
      intro e _
      by_cases heq : e.1 = d.1
      · simp [Entries.get?, heq, hlast]
      · have hne : d.1 ≠ e.1 := fun h => heq h.symm
        simp [Entries.get?, heq, hne]
    · by_cases hmem : d.1 ∈ m.keys
      · simp [hmem]
      · simp [hmem, hlast]

/-- The keys that were there, and the new ones behind them. -/
theorem keys_insertAll (m n : OrderedMap κ ν) :
    (m.insertAll n.entries).keys = m.keys ++ n.keys.filter fun key => key ∉ m.keys := by
  rw [keys, entries_insertAll m n.nodup, List.map_append, List.map_map, keys, keys, List.filter_map]
  rfl

/-- What another map has under a key counts, and what was there otherwise. -/
theorem get?_insertAll_entries (m n : OrderedMap κ ν) (key : κ) :
    (m.insertAll n.entries).get? key = (n.get? key).or (m.get? key) := by
  rw [get?_insertAll, Entries.get?_reverse n.nodup]
  rfl

/-- The entries of a map make the map again. -/
theorem empty_insertAll (m : OrderedMap κ ν) : empty.insertAll m.entries = m := by
  apply ext
  rw [entries_insertAll empty m.nodup]
  simp [empty, keys]

end OrderedMap

end EdiSchema
