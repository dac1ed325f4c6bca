import EdiSchema.Proofs.Connected
import Mathlib.Data.List.Nodup

/-!
# Cursors go where walks go

A walk follows references by their targets and passes over classes that it has seen; a cursor
follows references by their names and passes over nothing. Where names tell the features of a class
apart and can stand in a path text (`Package.Navigable`), the two see the same classes: the path of
a visit can be navigated (`Cursor.exists_follow`), and no cursor gets away from what the walk
visits, whatever moves it makes (`Cursor.reachable_of_reaches`). `Package.walkAll_replays` puts the
two together.

What one move does is said by `Cursor.child_ok` and `Cursor.child_of_reference`; the rest is by
induction on the names of a path.
-/

namespace EdiSchema

/-- Where no two features share a name, each is found by its name. -/
theorem ClassDef.feature?_of_mem {c : ClassDef} (hc : (c.features.map Feature.name).Nodup)
    {f : Feature} (hf : f ∈ c.features) : c.feature? f.name = some f := by
  cases hg : c.feature? f.name with
  | none =>
    have hnone := List.find?_eq_none.mp hg f hf
    simp at hnone
  | some g =>
    have hname : g.name = f.name := by simpa using List.find?_some hg
    rw [List.inj_on_of_nodup_map hc (List.mem_of_find?_eq_some hg) hf hname]

/-- Packages in which the names of references can be used for paths. -/
structure Package.Navigable (p : Package) : Prop where
  /-- Classes own whatever they refer to. -/
  owned : ∀ c ∈ p.classes, ∀ r ∈ c.references, r.containment
  /-- No two features of a class share a name. -/
  distinct : ∀ c ∈ p.classes, (c.features.map Feature.name).Nodup
  /-- A name is a piece of a path text. -/
  legible : ∀ c ∈ p.classes, ∀ f ∈ c.features,
    Text.isBlank f.name = false ∧ '/' ∉ f.name.toList

namespace Cursor

variable {p : Package}

/-! ## Moves -/

/-- A cursor that moves to a child has found a reference of that name. -/
theorem child_ok {c d : Cursor p} {name : String} (h : c.child name = .ok d) :
    ∃ r, c.cls.feature? name = some (.ref r) ∧ d.id = r.target ∧ d.path = c.path ++ [name] := by
  rcases c.child_cases name with
    ⟨r, e, hr, hok, hid, hpath⟩ | ⟨_, _, _, herr⟩ | ⟨_, _, herr⟩ | ⟨_, herr⟩
  · obtain rfl := Except.ok.inj (hok.symm.trans h)
    exact ⟨r, hr, hid, hpath⟩
  all_goals
    rw [herr] at h
    cases h

/-- A reference that is found by the name is followed to its class. -/
theorem child_of_reference {c : Cursor p} {name : String} {r : Reference}
    (hr : c.cls.feature? name = some (.ref r)) (hclass : (p.class? r.target).isSome) :
    ∃ d, c.child name = .ok d := by
  rcases c.child_cases name with
    ⟨_, d, _, hok, _⟩ | ⟨s, hs, hnone, _⟩ | ⟨_, hattr, _⟩ | ⟨hmissing, _⟩
  · exact ⟨d, hok⟩
  · obtain rfl : r = s := by simpa using hr.symm.trans hs
    rw [hnone] at hclass
    cases hclass
  · cases hr.symm.trans hattr
  · cases hr.symm.trans hmissing

/-- To follow names in two parts is to follow them at once. -/
theorem follow_append (c : Cursor p) (names rest : List String) :
    c.follow (names ++ rest) = (c.follow names).bind fun d => d.follow rest := by
  induction names generalizing c with
  | nil => rfl
  | cons name names ih =>
    rw [List.cons_append, follow, follow]
    cases c.child name with
    | ok d => exact ih d
    | error e => rfl

/-- A path that was followed can be followed one name further. -/
theorem follow_snoc {c d e : Cursor p} {names : List String} {name : String}
    (hd : c.follow names = .ok d) (he : d.child name = .ok e) :
    c.follow (names ++ [name]) = .ok e := by
  rw [follow_append, hd]
  show d.follow [name] = .ok e
  rw [follow, he]
  rfl

/-- To follow names is to move to a child and go on from there. -/
theorem follow_cons_ok {c d : Cursor p} {name : String} {names : List String}
    (h : c.follow (name :: names) = .ok d) :
    ∃ b, c.child name = .ok b ∧ b.follow names = .ok d := by
  rw [follow] at h
  cases hchild : c.child name with
  | error e =>
    rw [hchild] at h
    cases h
  | ok b =>
    rw [hchild] at h
    exact ⟨b, rfl, h⟩

/-- The names followed stand at the end of the path. -/
theorem follow_path {c d : Cursor p} {names : List String} (h : c.follow names = .ok d) :
    d.path = c.path ++ names := by
  induction names generalizing c with
  | nil =>
    cases h
    exact (List.append_nil _).symm
  | cons name names ih =>
    obtain ⟨b, hchild, hrest⟩ := follow_cons_ok h
    obtain ⟨_, _, _, hpath⟩ := child_ok hchild
    rw [ih hrest, hpath, List.append_assoc]
    rfl

theorem navigate_ok {c d : Cursor p} {text : String} (h : c.navigate text = .ok d) :
    c.follow (pathNames text) = .ok d := by
  unfold navigate at h
  split at h
  · cases h
  · exact h

/-- Names that can stand in a path text are found in it again. -/
theorem pathNames_pathText {names : List String}
    (h : ∀ name ∈ names, Text.isBlank name = false ∧ '/' ∉ name.toList) :
    pathNames (pathText names) = names := by
  have hwords : ∀ w ∈ names.map String.toList, w ≠ [] ∧ ∀ c ∈ w, decide (c = '/') = false := by
    intro w hw
    obtain ⟨name, hname, rfl⟩ := List.mem_map.mp hw
    obtain ⟨hblank, hslash⟩ := h name hname
    constructor
    · intro hnil
      rw [Text.isBlank, hnil] at hblank
      cases hblank
    · intro c hc
      exact decide_eq_false fun heq => hslash (heq ▸ hc)
  unfold pathNames pathText
  rw [String.toList_intercalate, show "/".toList = ['/'] from rfl,
    Text.words_intercalate rfl hwords, List.map_map]
  simp

/-- A path text that begins with a name is not blank. -/
theorem isBlank_pathText {name : String} (h : Text.isBlank name = false) (rest : List String) :
    Text.isBlank (pathText (name :: rest)) = false := by
  unfold pathText
  cases rest with
  | nil => simpa using h
  | cons next rest =>
    rw [String.intercalate_cons_of_ne_nil (List.cons_ne_nil next rest)]
    unfold Text.isBlank at h ⊢
    simp [h]

/-- To navigate to a path is to follow its names. -/
theorem navigate_pathText (c : Cursor p) {names : List String} (hne : names ≠ [])
    (h : ∀ name ∈ names, Text.isBlank name = false ∧ '/' ∉ name.toList) :
    c.navigate (pathText names) = c.follow names := by
  have hblank : Text.isBlank (pathText names) = false := by
    cases names with
    | nil => exact absurd rfl hne
    | cons name rest => exact isBlank_pathText (h name List.mem_cons_self).1 rest
  rw [navigate_of_not_blank hblank, pathNames_pathText h]

/-! ## From walks to cursors -/

/-- A cursor on the document root can be led along any path that leads to a class. -/
theorem exists_follow (hp : p.Navigable) {c : Cursor p} (hroot : p.documentRoot = some c.id)
    {path : List String} {id : ClassId} (h : p.LeadsTo path id) (hclass : (p.class? id).isSome) :
    ∃ d, c.follow path = .ok d ∧ d.id = id := by
  induction h with
  | start hstart => exact ⟨c, rfl, Option.some.inj (hroot.symm.trans hstart)⟩
  | @follow path id cls r _ hc hr _ ih =>
    obtain ⟨d, hd, rfl⟩ := ih (Option.isSome_iff_exists.mpr ⟨cls, hc⟩)
    obtain rfl : d.cls = cls := Option.some.inj (d.isClass.symm.trans hc)
    have hmem : d.cls ∈ p.classes := List.mem_of_getElem? hc
    have hf : .ref r ∈ d.cls.features := ClassDef.mem_references.mp hr
    have hfound : d.cls.feature? r.name = some (.ref r) :=
      ClassDef.feature?_of_mem (hp.distinct _ hmem) hf
    obtain ⟨e, he⟩ := child_of_reference hfound hclass
    obtain ⟨s, hs, htarget, _⟩ := child_ok he
    obtain rfl : r = s := by simpa using hfound.symm.trans hs
    exact ⟨e, follow_snoc hd he, htarget⟩

/-! ## From cursors to walks -/

/-- The cursor `d` can be reached from `c` by moves that succeed. -/
inductive Reaches (c : Cursor p) : Cursor p → Prop
  | here : Reaches c c
  | child {d e : Cursor p} {name : String} (hd : Reaches c d) (h : d.child name = .ok e) :
      Reaches c e
  | navigate {d e : Cursor p} {text : String} (hd : Reaches c d) (h : d.navigate text = .ok e) :
      Reaches c e

variable (hown : ∀ c ∈ p.classes, ∀ r ∈ c.references, r.containment)

include hown

/-- Where all references own, a move from a reachable class ends on one. -/
theorem reachable_child {c d : Cursor p} {name : String} (h : c.child name = .ok d)
    (hc : p.Reachable c.id) : p.Reachable d.id := by
  obtain ⟨r, hr, hid, _⟩ := child_ok h
  have hmem : c.cls ∈ p.classes := List.mem_of_getElem? c.isClass
  have hf : .ref r ∈ c.cls.features := List.mem_of_find?_eq_some hr
  rw [hid]
  exact hc.follow c.isClass hf (hown _ hmem r (ClassDef.mem_references.mpr hf))

/-- What is followed from a place that can be reached can be reached. -/
theorem reachable_follow {c d : Cursor p} {names : List String} (h : c.follow names = .ok d)
    (hc : p.Reachable c.id) : p.Reachable d.id := by
  induction names generalizing c with
  | nil =>
    cases h
    exact hc
  | cons name names ih =>
    obtain ⟨b, hchild, hrest⟩ := follow_cons_ok h
    exact ih hrest (reachable_child hown hchild hc)

/-- However far a cursor is moved, it stays on reachable classes. -/
theorem reachable_of_reaches {c d : Cursor p} (h : c.Reaches d) (hc : p.Reachable c.id) :
    p.Reachable d.id := by
  induction h with
  | here => exact hc
  | child _ h ih => exact reachable_child hown h ih
  | navigate _ h ih => exact reachable_follow hown (navigate_ok h) ih

end Cursor

namespace Package

variable {p : Package}

/-- The names of a path are names of features. -/
theorem LeadsTo.exists_feature {path : List String} {id : ClassId} (h : p.LeadsTo path id)
    {name : String} (hname : name ∈ path) : ∃ c ∈ p.classes, ∃ f ∈ c.features, f.name = name := by
  induction h with
  | start _ => cases hname
  | @follow path id cls r _ hc hr _ ih =>
    rcases List.mem_append.mp hname with hold | hlast
    · exact ih hold
    · obtain rfl := List.mem_singleton.mp hlast
      exact ⟨cls, List.mem_of_getElem? hc, .ref r, ClassDef.mem_references.mp hr, rfl⟩

/-- Cursors and walks agree. In a package with a document root, all of whose references own and
whose features go by distinct names that are neither blank nor hold a slash, a cursor can be set on
the document root. It can navigate to the path of any visit, except for the empty path of the first
one, and comes to the class visited, by that path. And wherever a cursor comes from there by moves
of any number and kind, the walk has been. -/
theorem walkAll_replays (hroot : p.documentRootClass?.isSome) (hp : p.Navigable) :
    ∃ c, Cursor.documentRoot p = .ok c ∧ p.documentRootClass? = some c.cls ∧
      (∀ v ∈ visitsOf p.walkAll, v.path ≠ [] →
        ∃ d, c.navigate (pathText v.path) = .ok d ∧ d.id = v.id ∧
          d.path = c.cls.name :: v.path) ∧
      ∀ d, c.Reaches d → ∃ path, ⟨d.id, path⟩ ∈ visitsOf p.walkAll := by
  obtain ⟨cls, hcls⟩ := Option.isSome_iff_exists.mp hroot
  obtain ⟨id, hdoc, hc⟩ := Option.bind_eq_some_iff.mp hcls
  have hset : Cursor.documentRoot p = .ok ⟨id, cls, [cls.name], hc⟩ := by
    unfold Cursor.documentRoot Cursor.start
    rw [hdoc]
    dsimp only
    split
    · next other hother =>
      obtain rfl := Option.some.inj (hc.symm.trans hother)
      rfl
    · next hnone =>
      rw [hc] at hnone
      cases hnone
  refine ⟨_, hset, hcls, fun v hv hne => ?_, fun d hd => ?_⟩
  · obtain ⟨here, hvisit⟩ := exists_of_mem_visitsOf hv
    obtain ⟨hhere, hleads⟩ := of_visit_mem hvisit
    obtain ⟨d, hd, hid⟩ := Cursor.exists_follow (c := ⟨id, cls, [cls.name], hc⟩) hp hdoc hleads
      (Option.isSome_iff_exists.mpr ⟨here, hhere⟩)
    refine ⟨d, ?_, hid, Cursor.follow_path hd⟩
    rw [Cursor.navigate_pathText _ hne fun name hname => ?_]
    · exact hd
    · obtain ⟨c, hc, f, hf, rfl⟩ := hleads.exists_feature hname
      exact hp.legible c hc f hf
  · have hreach : p.Reachable d.id :=
      Cursor.reachable_of_reaches hp.owned hd ⟨[], .start hdoc⟩
    exact (p.visited_iff d.id).mpr ⟨Option.isSome_iff_exists.mpr ⟨d.cls, d.isClass⟩, hreach⟩

/-- Orders refer to their parties, by two names, and to other orders, and parties refer to
orders. -/
def ring : Package where
  name := "ring"
  nsPrefix := "ring"
  classes := [
    { name := "Order", features := [
      .attr { name := "number", dataType := .long },
      .ref { name := "party", target := ⟨1⟩ },
      .ref { name := "billing party", target := ⟨1⟩ },
      .ref { name := "parent", target := ⟨0⟩ }] },
    { name := "Party", features := [.ref { name := "order", target := ⟨0⟩ }] },
    { name := "DocumentRoot", contentKind := .mixed, features := [
      .ref { name := "Order", target := ⟨0⟩ }] }]
  documentRoot := some ⟨2⟩

/-- The walk comes to a party by one of the two names, and a cursor to no more than three
classes. -/
theorem walkAll_replays_ring : ring.documentRootClass?.isSome ∧ ring.Navigable ∧
    visitsOf ring.walkAll = [⟨⟨2⟩, []⟩, ⟨⟨0⟩, ["Order"]⟩, ⟨⟨1⟩, ["Order", "party"]⟩] ∧
    ∃ c d, Cursor.documentRoot ring = .ok c ∧ c.navigate "Order/party" = .ok d ∧ d.id = ⟨1⟩ ∧
      d.path = ["DocumentRoot", "Order", "party"] ∧
      ∀ e, c.Reaches e → e.id ∈ [(⟨2⟩ : ClassId), ⟨0⟩, ⟨1⟩] := by
  have hroot : ring.documentRootClass?.isSome := by decide +kernel
  have hp : ring.Navigable := ⟨by decide +kernel, by decide +kernel, by decide +kernel⟩
  have hvisits : visitsOf ring.walkAll =
      [⟨⟨2⟩, []⟩, ⟨⟨0⟩, ["Order"]⟩, ⟨⟨1⟩, ["Order", "party"]⟩] := by cbv
  obtain ⟨c, hc, hcls, hreplay, hreach⟩ := walkAll_replays hroot hp
  rw [hvisits] at hreplay hreach
  obtain ⟨d, hd, hid, hpath⟩ := hreplay ⟨⟨1⟩, ["Order", "party"]⟩ (by simp) (by simp)
  have hname : c.cls.name = "DocumentRoot" := by
    have hfound : ring.documentRootClass?.map ClassDef.name = some "DocumentRoot" := by
      decide +kernel
    rw [hcls] at hfound
    exact Option.some.inj hfound
  refine ⟨hroot, hp, hvisits, c, d, hc, hd, hid, by rw [hpath, hname], fun e he => ?_⟩
  obtain ⟨path, hpath⟩ := hreach e he
  exact List.mem_map_of_mem (f := Visit.id) hpath

end Package

end EdiSchema
