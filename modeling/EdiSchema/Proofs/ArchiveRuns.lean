import EdiSchema.Proofs.Archives

/-!
# What operations leave in an archive

An archive is an ordered map over the names that paths address. What one operation does is said for
any archive, in terms of what the archive lists and of what its look-ups answer: an addition writes
under a name (`Archive.Stores`), a removal takes a name out (`Archive.Drops`). Which paths that
concerns is told by their texts (`Addresses`): all that address the name, and no other.

`Archive.afterAll` runs operations one after the other, with additions that fail among them, and
merges of archives that were made by such runs themselves. Whatever is run, the archive stays one
that `Archive.Built` describes (`Archive.Built.afterAll`), so its names stay distinct and not empty.
-/

namespace EdiSchema

namespace Archive

variable {a b : Archive}

/-! ## Runs -/

/-- What is done to an archive. -/
inductive Operation
  | add (path : String) (bytes : ByteArray)
  | remove (path : String)
  /-- Merges the archive that the operations make out of the empty one. -/
  | merge (operations : List Operation)

mutual

/-- The archive after an operation. An addition that fails leaves it as it is. -/
def after (a : Archive) : Operation → Archive
  | .add path bytes =>
    match a.add path bytes with
    | .ok b => b
    | .error _ => a
  | .remove path => (a.remove path).2
  | .merge operations => a.merge (afterAll empty operations)

/-- The archive after operations one after the other. -/
def afterAll (a : Archive) : List Operation → Archive
  | [] => a
  | op :: rest => afterAll (after a op) rest

end

mutual

/-- No operation leaves the archives that come about. -/
theorem Built.after : ∀ (op : Operation) {a : Archive}, a.Built → (a.after op).Built
  | .add path bytes, a, h => by
    rw [Archive.after]
    cases hadd : a.add path bytes with
    | ok b => exact h.add hadd
    | error e => exact h
  | .remove path, a, h => by
    rw [Archive.after]
    exact h.remove path
  | .merge operations, a, h => by
    rw [Archive.after]
    exact h.merge (Built.afterAll operations .empty)

/-- Whatever is done to an archive that was built leaves one that was built. -/
theorem Built.afterAll : ∀ (ops : List Operation) {a : Archive}, a.Built → (a.afterAll ops).Built
  | [], a, h => by
    rw [Archive.afterAll]
    exact h
  | op :: rest, a, h => by
    rw [Archive.afterAll]
    exact Built.afterAll rest (Built.after op h)

end

/-! ## One addition -/

/-- The names of the entries in order. -/
def names (a : Archive) : List String := a.entries.map Prod.fst

/-- `b` is `a` with `bytes` written under `name`. -/
structure Stores (a : Archive) (name : String) (bytes : ByteArray) (b : Archive) : Prop where
  /-- Every path that addresses the name leads to the content. -/
  here : ∀ path, Addresses path name → b.bytes? path = some bytes
  /-- All other paths lead where they led. -/
  elsewhere : ∀ path, ¬ Addresses path name → b.bytes? path = a.bytes? path
  /-- An entry that has the name gets the content and keeps its place. -/
  replaces : name ∈ a.names →
    b.entries = a.entries.map fun e => if e.1 = name then (e.1, bytes) else e
  /-- A new entry goes last. -/
  appends : name ∉ a.names → b.entries = a.entries ++ [(name, bytes)]

/-- An addition that succeeds writes under the name that its path addresses. -/
theorem add_stores {path : String} {bytes : ByteArray} (h : a.add path bytes = .ok b) :
    a.Stores (normalPath path) bytes b := by
  obtain ⟨-, rfl⟩ := (add_eq_ok_iff a b path bytes).mp h
  refine ⟨fun q hq => ?_, fun q hq => ?_, fun hmem => ?_, fun hnew => ?_⟩
  · rw [← normalPath_eq_iff] at hq
    rw [bytes?, OrderedMap.get?_insert, if_pos hq.symm]
  · rw [← normalPath_eq_iff] at hq
    rw [bytes?, OrderedMap.get?_insert, if_neg fun h => hq h.symm]
    rfl
  · exact Entries.insert_of_mem a.files.nodup hmem bytes
  · exact Entries.insert_of_get?_none ((Entries.get?_eq_none_iff _ a.entries).mpr hnew) bytes

/-- Nothing can be added under a path that addresses nothing. -/
theorem add_eq_error (a : Archive) {path : String} (h : AddressesNothing path)
    (bytes : ByteArray) : a.add path bytes = .error (.emptyPath path) := by
  rw [addressesNothing_iff, ← normalPath_eq_iff] at h
  rw [add, if_pos (String.isEmpty_iff.mpr h)]

/-- Under all other paths something can. -/
theorem exists_add_eq_ok (a : Archive) {path : String} (h : ¬ AddressesNothing path)
    (bytes : ByteArray) : ∃ b, a.add path bytes = .ok b := by
  rw [addressesNothing_iff, ← normalPath_eq_iff] at h
  exact ⟨_, (add_eq_ok_iff a _ path bytes).mpr ⟨h, rfl⟩⟩

/-! ## One removal -/

/-- `b` is `a` without `name`. -/
structure Drops (a : Archive) (name : String) (b : Archive) : Prop where
  /-- No path that addresses the name leads anywhere. -/
  gone : ∀ path, Addresses path name → b.bytes? path = none
  /-- All other paths lead where they led. -/
  elsewhere : ∀ path, ¬ Addresses path name → b.bytes? path = a.bytes? path
  /-- The other entries stay as they are and in their order. -/
  keeps : b.entries = a.entries.filter fun e => e.1 ≠ name
  /-- A name that is not there changes nothing. -/
  absent : name ∉ a.names → b = a

/-- A removal takes out the name that its path addresses. -/
theorem remove_drops (a : Archive) (path : String) :
    a.Drops (normalPath path) (a.remove path).2 := by
  have hkeeps : (a.remove path).2.entries = a.entries.filter fun e => e.1 ≠ normalPath path :=
    Entries.erase_eq_filter (normalPath path) a.files.nodup
  refine ⟨fun q hq => ?_, fun q hq => ?_, hkeeps, fun hnew => ?_⟩
  · rw [← normalPath_eq_iff] at hq
    rw [bytes?, remove, OrderedMap.get?_erase, if_pos hq.symm]
  · rw [← normalPath_eq_iff] at hq
    rw [bytes?, remove, OrderedMap.get?_erase, if_neg fun h => hq h.symm]
    rfl
  · have hall : ∀ e ∈ a.entries, decide (e.1 ≠ normalPath path) = true := by
      intro e he
      exact decide_eq_true fun heq => hnew (heq ▸ List.mem_map_of_mem he)
    have hentries := hkeeps.trans (List.filter_eq_self.mpr hall)
    exact congrArg Archive.mk (OrderedMap.ext hentries)

/-- A path leads nowhere exactly if the name that it addresses is not listed. -/
theorem bytes?_eq_none_iff (a : Archive) (path : String) :
    a.bytes? path = none ↔ normalPath path ∉ a.names :=
  Entries.get?_eq_none_iff (normalPath path) a.entries

/-! ## The map -/

/-- An archive is an ordered map over names, whatever has been done to it since it was empty. The
names it lists are distinct and not empty, and every path addresses one name. An addition fails
exactly if nothing or one slash stands between the blank characters of the path, and then changes
nothing; else the content stands under all paths that address the same name, in the place of the
name or, if it has none, behind all others. A removal answers with the content that the path leads
to and takes its entry out; of a name that is not listed it changes nothing. No other entry is
touched by either. -/
theorem afterAll_refines (ops : List Operation) :
    (empty.afterAll ops).names.Nodup ∧ "" ∉ (empty.afterAll ops).names ∧
    (∀ path, ∃ name, ∀ other, Addresses path other ↔ other = name) ∧
    (∀ path bytes, AddressesNothing path →
      (empty.afterAll ops).add path bytes = .error (.emptyPath path) ∧
      (empty.afterAll ops).after (.add path bytes) = empty.afterAll ops) ∧
    (∀ path name bytes, ¬ AddressesNothing path → Addresses path name →
      ∃ b, (empty.afterAll ops).add path bytes = .ok b ∧
        (empty.afterAll ops).after (.add path bytes) = b ∧
        (empty.afterAll ops).Stores name bytes b) ∧
    ∀ path name, Addresses path name →
      ((empty.afterAll ops).remove path).1 = (empty.afterAll ops).bytes? path ∧
      ((empty.afterAll ops).bytes? path = none ↔ name ∉ (empty.afterAll ops).names) ∧
      (empty.afterAll ops).Drops name ((empty.afterAll ops).after (.remove path)) := by
  have hbuilt := Built.afterAll ops .empty
  generalize empty.afterAll ops = a at hbuilt ⊢
  refine ⟨a.files.nodup, fun hmem => (hbuilt.listed _ hmem).1 rfl, addresses_unique,
    fun path bytes h => ?_, fun path name bytes h hname => ?_, fun path name hname => ?_⟩
  · have hfail := a.add_eq_error h bytes
    exact ⟨hfail, by rw [after, hfail]⟩
  · obtain rfl := (normalPath_eq_iff path name).mpr hname
    obtain ⟨b, hadd⟩ := a.exists_add_eq_ok h bytes
    exact ⟨b, hadd, by rw [after, hadd], add_stores hadd⟩
  · obtain rfl := (normalPath_eq_iff path name).mpr hname
    refine ⟨rfl, a.bytes?_eq_none_iff path, ?_⟩
    rw [after]
    exact a.remove_drops path

/-- Two files from two archives, and one whose path addresses nothing. -/
def additions : List Operation :=
  [.add "a" ⟨#[1]⟩, .add " / " ⟨#[9]⟩, .merge [.add "b" ⟨#[2]⟩]]

/-- A slash between blanks is refused, a path with both is read without them, and a slash in front
does not keep a file from being taken out. -/
theorem afterAll_refines_additions :
    AddressesNothing " / " ∧ Addresses " /orders/mapping.xml " "orders/mapping.xml" ∧
    (empty.afterAll additions).names = ["a", "b"] ∧
    (empty.afterAll additions).add " / " ⟨#[3]⟩ = .error (.emptyPath " / ") ∧
    (∃ b, (empty.afterAll additions).add " /orders/mapping.xml " ⟨#[3]⟩ = .ok b ∧
      b.bytes? "orders/mapping.xml" = some ⟨#[3]⟩ ∧ b.bytes? "b" = some ⟨#[2]⟩ ∧
      b.names = ["a", "b", "orders/mapping.xml"]) ∧
    ((empty.afterAll additions).remove "/a").1 = some ⟨#[1]⟩ ∧
    ((empty.afterAll additions).after (.remove "/a")).names = ["b"] := by
  have hnames : (empty.afterAll additions).names = ["a", "b"] := by decide +kernel
  have hnothing : AddressesNothing " / " :=
    (addressesNothing_iff _).mpr ((normalPath_eq_iff _ _).mp (by decide +kernel))
  have hspaced : Addresses " /orders/mapping.xml " "orders/mapping.xml" :=
    (normalPath_eq_iff _ _).mp (by decide +kernel)
  have hplain : Addresses "orders/mapping.xml" "orders/mapping.xml" :=
    (normalPath_eq_iff _ _).mp (by decide +kernel)
  have hother : ¬ Addresses "b" "orders/mapping.xml" := by
    rw [← normalPath_eq_iff]
    decide +kernel
  have hsomething : ¬ AddressesNothing " /orders/mapping.xml " := by
    rw [addressesNothing_iff, ← normalPath_eq_iff]
    decide +kernel
  have hslashed : Addresses "/a" "a" := (normalPath_eq_iff _ _).mp (by decide +kernel)
  obtain ⟨_, _, _, hfail, hadd, hremove⟩ := afterAll_refines additions
  refine ⟨hnothing, hspaced, hnames, (hfail " / " ⟨#[3]⟩ hnothing).1, ?_, ?_, ?_⟩
  · obtain ⟨b, hb, _, hstores⟩ := hadd " /orders/mapping.xml " _ ⟨#[3]⟩ hsomething hspaced
    refine ⟨b, hb, hstores.here _ hplain, ?_, ?_⟩
    · rw [hstores.elsewhere "b" hother]
      decide +kernel
    · rw [names, hstores.appends (by rw [hnames]; decide), List.map_append]
      exact congrArg (· ++ ["orders/mapping.xml"]) hnames
  · rw [(hremove "/a" "a" hslashed).1]
    decide +kernel
  · rw [names, (hremove "/a" "a" hslashed).2.2.keeps]
    decide +kernel

end Archive

end EdiSchema
