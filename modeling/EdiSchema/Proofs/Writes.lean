import EdiSchema.Proofs.Annotations

/-!
# Annotations as a store

However details of the grammar and bindings are written, in whatever order and over whatever was
there before, the annotations of an element answer as a store in which the last write counts, and
list what they hold in the order in which it first came (`Annotations.afterAll_store`).

A write stores a detail or nothing (`AnnotationWrite.detail?`), and what one stored detail does is
said by four laws: to look-ups, to the sources in order, to the keys of a source in order, and to
the maps that it passes over. Each law of a sequence is an induction with the law of one write at
its step. What annotations written from nothing look like is an invariant of its own
(`Annotations.Tidy`).
-/

namespace EdiSchema

/-! ## Writes and what they store -/

/-- One write to the annotations of an element. -/
inductive AnnotationWrite
  /-- A detail of the grammar, which may be absent. -/
  | annotate (key : String) (value : Option String)
  /-- A detail of the binding. -/
  | bind (key value : String)
  deriving DecidableEq, Repr

/-- A value under a key of a source. -/
structure Detail where
  source : String
  key : String
  value : String
  deriving DecidableEq, Repr

/-- What a write stores. A detail of the grammar is stored if it is there and something is left of
it when it is trimmed, a detail of the binding always. -/
def AnnotationWrite.detail? : AnnotationWrite → Option Detail
  | .annotate _ none => none
  | .annotate key (some value) =>
    if Text.trim value.toList = [] then none else some ⟨Source.mapping, key, value⟩
  | .bind key value => some ⟨Source.binding, key, value⟩

/-- The value that was stored last under a key of a source. -/
def lastValue? (source key : String) (details : List Detail) : Option String :=
  (details.reverse.find? fun d => d.source = source ∧ d.key = key).map Detail.value

/-- No blank detail of the grammar is stored. -/
theorem AnnotationWrite.legible {w : AnnotationWrite} {d : Detail} (h : w.detail? = some d)
    (hd : d.source = Source.mapping) : Text.isBlank d.value = false := by
  cases w with
  | annotate key value =>
    cases value with
    | none => cases h
    | some value =>
      rw [detail?] at h
      split at h
      · cases h
      · next hblank =>
        cases h
        rw [Bool.eq_false_iff]
        exact fun hb => hblank ((Text.isBlank_iff value).mp hb)
  | bind key value =>
    cases h
    exact absurd hd.symm Annotations.mapping_ne_binding

namespace Annotations

/-- The annotations after a write. -/
def after (a : Annotations) : AnnotationWrite → Annotations
  | .annotate key value => a.annotate key value
  | .bind key value => a.bind key value

/-- The annotations after writes one after the other. -/
def afterAll (a : Annotations) : List AnnotationWrite → Annotations
  | [] => a
  | w :: rest => (a.after w).afterAll rest

/-- The annotations after details have been stored one after the other. -/
def storeAll (a : Annotations) : List Detail → Annotations
  | [] => a
  | d :: rest => (a.write d.source d.key d.value).storeAll rest

/-- A write is its detail stored, and nothing where it has none. -/
theorem after_eq (a : Annotations) (w : AnnotationWrite) :
    a.after w = match w.detail? with
      | none => a
      | some d => a.write d.source d.key d.value := by
  cases w with
  | annotate key value =>
    cases value with
    | none => rfl
    | some value =>
      rw [after, annotate, AnnotationWrite.detail?]
      by_cases hblank : Text.isBlank value
      · rw [if_pos hblank, if_pos ((Text.isBlank_iff value).mp hblank)]
      · rw [if_neg hblank, if_neg fun h => hblank ((Text.isBlank_iff value).mpr h)]
  | bind key value => rfl

/-- To write is to store what the writes store. -/
theorem afterAll_eq (a : Annotations) (ws : List AnnotationWrite) :
    a.afterAll ws = a.storeAll (ws.filterMap AnnotationWrite.detail?) := by
  induction ws generalizing a with
  | nil => rfl
  | cons w rest ih =>
    rw [afterAll, ih, after_eq, List.filterMap_cons]
    cases w.detail? <;> rfl

/-! ## Look-ups -/

/-- The last value stored counts, and where none was stored the value at the start. -/
theorem get?_storeAll (a : Annotations) (details : List Detail) (source key : String) :
    (a.storeAll details).get? source key =
      (lastValue? source key details).or (a.get? source key) := by
  induction details generalizing a with
  | nil => rfl
  | cons d rest ih =>
    rw [storeAll, ih, get?_write, lastValue?, lastValue?, List.reverse_cons, List.find?_append,
      Option.map_or, Option.or_assoc]
    congr 1
    by_cases h : d.source = source ∧ d.key = key
    · rw [if_pos ⟨h.1.symm, h.2.symm⟩, List.find?_cons_of_pos (by simpa using h)]
      rfl
    · rw [if_neg fun hd => h ⟨hd.1.symm, hd.2.symm⟩, List.find?_cons_of_neg (by simpa using h)]
      rfl

/-! ## Sources and keys in order -/

/-- The sources of the maps in order. -/
def sources (a : Annotations) : List String := a.maps.map AnnotationMap.source

/-- The keys under a source in order. -/
def keysUnder (a : Annotations) (source : String) : List String :=
  ((a.source? source).map fun m => m.details.keys).getD []

/-- Names that are entered one after the other stand behind those that were known, each of them
once, in the order in which they first come. -/
theorem entered_cons {known now rest : List String} {name : String}
    (h : now = if name ∈ known then known else known ++ [name]) :
    now ++ (rest.removeAll now).eraseDups =
      known ++ ((name :: rest).removeAll known).eraseDups := by
  subst h
  by_cases hk : name ∈ known
  · rw [if_pos hk, List.removeAll, List.removeAll, List.filter_cons_of_neg (by simpa using hk)]
  · have hsplit : rest.removeAll (known ++ [name]) =
        (rest.removeAll known).filter fun b => !b == name := by
      rw [List.removeAll, List.removeAll, List.filter_filter]
      congr 1
      funext b
      by_cases hb : b = name <;> simp [hb]
    rw [if_neg hk, hsplit, List.removeAll, List.removeAll,
      List.filter_cons_of_pos (by simpa using hk), List.eraseDups_cons, List.append_assoc]
    rfl

/-- A write brings in its source at the end, unless the source is there. -/
theorem sources_writeMaps (source key value : String) (maps : List AnnotationMap) :
    (writeMaps source key value maps).map AnnotationMap.source =
      if source ∈ maps.map AnnotationMap.source then maps.map AnnotationMap.source
      else maps.map AnnotationMap.source ++ [source] := by
  induction maps with
  | nil => rfl
  | cons m rest ih =>
    by_cases hm : m.source = source
    · simp [writeMaps, hm]
    · have hne : ¬ source = m.source := fun h => hm h.symm
      rw [writeMaps, if_neg hm, List.map_cons, ih, List.map_cons]
      by_cases hrest : source ∈ rest.map AnnotationMap.source
      · rw [if_pos hrest, if_pos (List.mem_cons_of_mem _ hrest)]
      · rw [if_neg hrest, if_neg fun h => (List.mem_cons.mp h).elim hne hrest, List.cons_append]

/-- A source that has no map gets one at the end. -/
theorem sources_write (a : Annotations) (source key value : String) :
    (a.write source key value).sources =
      if source ∈ a.sources then a.sources else a.sources ++ [source] :=
  sources_writeMaps source key value a.maps

/-- A new key goes last among those of its source. -/
theorem keysUnder_write (a : Annotations) (source key value s : String) :
    (a.write source key value).keysUnder s =
      if s = source then
        if key ∈ a.keysUnder s then a.keysUnder s else a.keysUnder s ++ [key]
      else a.keysUnder s := by
  rw [keysUnder, source?_write]
  by_cases hs : s = source
  · subst hs
    rw [if_pos rfl, if_pos rfl, Option.map_some, Option.getD_some, OrderedMap.keys_insert,
      keysUnder]
    cases a.source? s <;> rfl
  · rw [if_neg hs, if_neg hs]
    rfl

/-- Writes bring in their sources in the order of the first write of each. -/
theorem sources_storeAll (a : Annotations) (details : List Detail) :
    (a.storeAll details).sources =
      a.sources ++ ((details.map Detail.source).removeAll a.sources).eraseDups := by
  induction details generalizing a with
  | nil => exact (List.append_nil _).symm
  | cons d rest ih =>
    rw [storeAll, ih, List.map_cons]
    exact entered_cons (a.sources_write d.source d.key d.value)

/-- Writes bring in their keys under a source in the order of the first write of each. -/
theorem keysUnder_storeAll (a : Annotations) (details : List Detail) (source : String) :
    (a.storeAll details).keysUnder source = a.keysUnder source ++
      (((details.filter fun d => d.source = source).map Detail.key).removeAll
        (a.keysUnder source)).eraseDups := by
  induction details generalizing a with
  | nil => exact (List.append_nil _).symm
  | cons d rest ih =>
    have hkeys := a.keysUnder_write d.source d.key d.value source
    rw [storeAll, ih]
    by_cases hs : d.source = source
    · rw [if_pos hs.symm] at hkeys
      rw [List.filter_cons_of_pos (by simpa using hs), List.map_cons]
      exact entered_cons hkeys
    · rw [if_neg fun h => hs h.symm] at hkeys
      rw [List.filter_cons_of_neg (by simpa using hs), hkeys]

/-! ## Maps that are passed over -/

/-- A write leaves the maps of other sources, and those that stand behind a map of their source. -/
theorem getElem?_writeMaps {source key value : String} {maps : List AnnotationMap} {place : Nat}
    {m : AnnotationMap} (hm : maps[place]? = some m)
    (h : m.source ∈ (maps.map AnnotationMap.source).take place ∨ m.source ≠ source) :
    (writeMaps source key value maps)[place]? = some m := by
  induction maps generalizing place with
  | nil => cases hm
  | cons n rest ih =>
    by_cases hn : n.source = source
    · rw [writeMaps, if_pos hn]
      cases place with
      | zero =>
        cases hm
        rcases h with h | h
        · cases h
        · exact absurd hn h
      | succ k => exact hm
    · rw [writeMaps, if_neg hn]
      cases place with
      | zero => exact hm
      | succ k =>
        apply ih hm
        rcases h with h | h
        · rw [List.map_cons, List.take_succ_cons] at h
          rcases List.mem_cons.mp h with heq | hrest
          · exact .inr (heq ▸ hn)
          · exact .inl hrest
        · exact .inr h

/-- Maps that no write is meant for stay as they are: those of other sources, and those that stand
behind another map of their source. -/
theorem getElem?_storeAll {a : Annotations} {details : List Detail} {place : Nat}
    {m : AnnotationMap}
    (hm : a.maps[place]? = some m)
    (h : m.source ∈ a.sources.take place ∨ ∀ d ∈ details, d.source ≠ m.source) :
    (a.storeAll details).maps[place]? = some m := by
  induction details generalizing a with
  | nil => exact hm
  | cons d rest ih =>
    have hnow : (a.write d.source d.key d.value).maps[place]? = some m :=
      getElem?_writeMaps hm (h.imp id fun hd => (hd d List.mem_cons_self).symm)
    apply ih hnow
    rcases h with hshadowed | hd
    · -- the sources up to `place` are the same after a write
      have hplace : place ≤ a.sources.length := by
        have hlt := (List.getElem?_eq_some_iff.mp hm).1
        rw [sources, List.length_map]
        omega
      left
      rw [sources_write]
      split
      · exact hshadowed
      · rwa [List.take_append_of_le_length hplace]
    · exact .inr fun e he => hd e (List.mem_cons_of_mem _ he)

/-! ## Annotations that were written from nothing -/

/-- Annotations as writes leave them. -/
structure Tidy (a : Annotations) : Prop where
  /-- No source has two maps. -/
  sources : a.sources.Nodup
  /-- No map has two entries of one key. -/
  keys : ∀ m ∈ a.maps, m.details.keys.Nodup
  /-- No map is empty. -/
  filled : ∀ m ∈ a.maps, m.isEmpty = false
  /-- No detail of the grammar is blank. -/
  legible : ∀ m ∈ a.maps, m.source = Source.mapping →
    ∀ e ∈ m.details.entries, Text.isBlank e.2 = false

theorem tidy_empty : Annotations.empty.Tidy where
  sources := List.nodup_nil
  keys := fun m hm => by cases hm
  filled := fun m hm => by cases hm
  legible := fun m hm => by cases hm

/-- Where the maps come from after a write. -/
theorem mem_writeMaps {source key value : String} {maps : List AnnotationMap} {m : AnnotationMap}
    (h : m ∈ writeMaps source key value maps) : m ∈ maps ∨
      ∃ old, (old = .empty ∨ ⟨source, old⟩ ∈ maps) ∧ m = ⟨source, old.insert key value⟩ := by
  induction maps with
  | nil => exact .inr ⟨.empty, .inl rfl, List.mem_singleton.mp h⟩
  | cons n rest ih =>
    by_cases hn : n.source = source
    · rw [writeMaps, if_pos hn] at h
      rcases List.mem_cons.mp h with rfl | hrest
      · subst hn
        exact .inr ⟨n.details, .inr List.mem_cons_self, rfl⟩
      · exact .inl (List.mem_cons_of_mem _ hrest)
    · rw [writeMaps, if_neg hn] at h
      rcases List.mem_cons.mp h with rfl | hrest
      · exact .inl List.mem_cons_self
      · rcases ih hrest with hm | ⟨old, hold, rfl⟩
        · exact .inl (List.mem_cons_of_mem _ hm)
        · exact .inr ⟨old, hold.imp id (List.mem_cons_of_mem _), rfl⟩

/-- Storing a detail keeps annotations tidy, unless it is a blank detail of the grammar. -/
theorem Tidy.write {a : Annotations} (ha : a.Tidy) {d : Detail}
    (hd : d.source = Source.mapping → Text.isBlank d.value = false) :
    (a.write d.source d.key d.value).Tidy where
  sources := by
    rw [sources_write]
    split
    · exact ha.sources
    · next hnew =>
      rw [List.nodup_append]
      refine ⟨ha.sources, by simp, ?_⟩
      intro s hs t ht heq
      rw [List.mem_singleton.mp ht] at heq
      exact hnew (heq ▸ hs)
  keys := fun m _ => m.details.nodup
  filled := by
    intro m hm
    rcases mem_writeMaps hm with hold | ⟨old, _, rfl⟩
    · exact ha.filled m hold
    · have hkey : d.key ∈ (old.insert d.key d.value).keys :=
        (old.mem_keys_insert d.key d.key d.value).mpr (.inl rfl)
      cases hentries : (old.insert d.key d.value).entries with
      | nil =>
        rw [OrderedMap.keys, hentries] at hkey
        cases hkey
      | cons e rest =>
        show (old.insert d.key d.value).entries.isEmpty = false
        rw [hentries]
        rfl
  legible := by
    intro m hm hmapping e he
    rcases mem_writeMaps hm with hold | ⟨old, hold, rfl⟩
    · exact ha.legible m hold hmapping e he
    · rcases Entries.mem_insert he with rfl | he
      · exact hd hmapping
      · rcases hold with rfl | hold
        · cases he
        · exact ha.legible _ hold hmapping e he

/-- Writes keep annotations tidy as long as no blank detail of the grammar is among them. -/
theorem Tidy.storeAll {a : Annotations} (ha : a.Tidy) {details : List Detail}
    (hd : ∀ d ∈ details, d.source = Source.mapping → Text.isBlank d.value = false) :
    (a.storeAll details).Tidy := by
  induction details generalizing a with
  | nil => exact ha
  | cons d rest ih =>
    obtain ⟨hfirst, hrest⟩ := List.forall_mem_cons.mp hd
    exact ih (ha.write hfirst) hrest

/-! ## The store -/

/-- Annotations are a store with an order, whatever list of maps they begin as and whatever is
written. Under each key of each source stands the value that was stored there last, or the one that
stood there at the start. A source gets a map at the end when something is first stored under it,
and a key of a source goes behind the keys that it has when it is first stored; both keep their
place from then on. A map stays as it is if nothing is stored under its source, or if it stands
behind another map of its source. Annotations written from nothing have one map a source, none of
them empty, in each map one entry a key, and no blank detail of the grammar. -/
theorem afterAll_store (a : Annotations) (ws : List AnnotationWrite) :
    (∀ source key, (a.afterAll ws).get? source key =
      (lastValue? source key (ws.filterMap AnnotationWrite.detail?)).or (a.get? source key)) ∧
    (a.afterAll ws).sources = a.sources ++
      (((ws.filterMap AnnotationWrite.detail?).map Detail.source).removeAll a.sources).eraseDups ∧
    (∀ source, (a.afterAll ws).keysUnder source = a.keysUnder source ++
      ((((ws.filterMap AnnotationWrite.detail?).filter fun d => d.source = source).map
        Detail.key).removeAll (a.keysUnder source)).eraseDups) ∧
    (∀ place m, a.maps[place]? = some m →
      (m.source ∈ a.sources.take place ∨
        ∀ d ∈ ws.filterMap AnnotationWrite.detail?, d.source ≠ m.source) →
      (a.afterAll ws).maps[place]? = some m) ∧
    (empty.afterAll ws).Tidy := by
  rw [afterAll_eq, afterAll_eq]
  refine ⟨a.get?_storeAll _, a.sources_storeAll _, a.keysUnder_storeAll _, ?_, ?_⟩
  · intro place m hm h
    exact getElem?_storeAll hm h
  · apply tidy_empty.storeAll
    intro d hd
    obtain ⟨w, _, hw⟩ := List.mem_filterMap.mp hd
    exact AnnotationWrite.legible hw

/-- Annotations with two maps of the grammar, as they may be read from elsewhere. -/
def twofold : Annotations :=
  ⟨[⟨Source.mapping, .ofList [("type", "field"), ("segcode", "NAD")]⟩,
    ⟨Source.mapping, .ofList [("type", "segment")]⟩]⟩

/-- Writes with a new key, a blank value, a binding to the empty name, and a key that is there. -/
def fourWrites : List AnnotationWrite :=
  [.annotate "required" (some "true"), .annotate "type" (some " "), .bind "name" "",
    .annotate "type" (some "component")]

/-- The first map of the grammar has what was written, each key in its place, the second one is as
it was, and the bindings stand behind both. -/
theorem afterAll_store_twofold :
    (twofold.afterAll fourWrites).get? Source.mapping "type" = some "component" ∧
    (twofold.afterAll fourWrites).get? Source.mapping "segcode" = some "NAD" ∧
    (twofold.afterAll fourWrites).sources = [Source.mapping, Source.mapping, Source.binding] ∧
    (twofold.afterAll fourWrites).keysUnder Source.mapping = ["type", "segcode", "required"] ∧
    (twofold.afterAll fourWrites).maps[1]? =
      some ⟨Source.mapping, .ofList [("type", "segment")]⟩ := by
  obtain ⟨hget, hsources, hkeys, hplace, _⟩ := afterAll_store twofold fourWrites
  refine ⟨(hget _ _).trans (by decide), (hget _ _).trans (by decide), hsources.trans (by decide),
    (hkeys _).trans (by decide), hplace 1 _ rfl (.inl (by decide))⟩

end Annotations

end EdiSchema
