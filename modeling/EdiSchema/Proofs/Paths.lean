import EdiSchema.Proofs.Navigation

/-!
# Path texts are moves in a row

To navigate a path text is to move to one child after the other, by the pieces that stand between
slashes as far as they hold something (`Cursor.pathNames_eq_split`). That settles the rest: where a
move ends and what path it leaves, at which piece a failure strikes and what it says, that two path
texts with a slash between them are navigated one after the other, and that slashes too many do not
matter (`Cursor.navigate_moves`).

A path text must not be blank, and this is asked of the text as a whole. So `/` is a path that goes
nowhere, and a blank text cannot be mended by a slash: behind it the white space is a name.

Every cursor that was moved from a class can be put where it is by following names from there
(`Cursor.Reaches.exists_follow`), so its path begins with a class name and is never empty.
-/

namespace EdiSchema

/-- Two paths in a row have a slash between them. -/
theorem pathText_append {path rest : List String} (h : path ≠ []) (hrest : rest ≠ []) :
    pathText (path ++ rest) = pathText path ++ "/" ++ pathText rest :=
  String.intercalate_append_of_ne_nil h hrest

namespace Cursor

variable {p : Package}

/-! ## The names in a path text -/

/-- The names in a path text are what stands between its slashes, as far as something does. -/
theorem pathNames_eq_split (text : String) : pathNames text =
    ((text.split '/').toList.map String.Slice.copy).filter fun name => name ≠ "" := by
  have hsplit : Text.pieces (fun c => decide (c = '/')) text.toList = text.toList.splitOn '/' := by
    rw [List.splitOn_eq_splitOnP]
    rfl
  rw [String.toList_split_char, List.filter_map, pathNames, Text.words, hsplit]
  congr 2
  funext cs
  cases cs with
  | nil => rfl
  | cons c cs => simp

/-- A slash parts the names before it from the names behind it. -/
theorem pathNames_append (before after : String) :
    pathNames (before ++ "/" ++ after) = pathNames before ++ pathNames after := by
  have hslash : (before ++ "/" ++ after).toList = before.toList ++ '/' :: after.toList := by
    rw [String.toList_append, String.toList_append, List.append_assoc]
    rfl
  rw [pathNames, hslash, Text.words_append_of_sep rfl, List.map_append]
  rfl

/-- A slash at the start does not matter. -/
theorem pathNames_leading (text : String) : pathNames ("/" ++ text) = pathNames text := by
  have hnames := pathNames_append "" text
  rwa [String.empty_append] at hnames

/-- A slash at the end does not matter. -/
theorem pathNames_trailing (text : String) : pathNames (text ++ "/") = pathNames text := by
  have hnames := pathNames_append text ""
  rwa [String.append_empty, show pathNames "" = [] from rfl, List.append_nil] at hnames

/-- A slash behind a slash does not matter. -/
theorem pathNames_doubled (before after : String) :
    pathNames (before ++ "//" ++ after) = pathNames (before ++ "/" ++ after) := by
  have hsplit : before ++ "//" ++ after = before ++ "/" ++ ("/" ++ after) := by
    rw [show "//" = "/" ++ "/" from rfl]
    simp only [String.append_assoc]
  rw [hsplit, pathNames_append, pathNames_leading, pathNames_append]

/-- A text with a slash is no blank text. -/
theorem isBlank_of_slash {text : String} (h : '/' ∈ text.toList) : Text.isBlank text = false := by
  rw [Bool.eq_false_iff]
  intro hblank
  have hslash := List.all_eq_true.mp hblank '/' h
  revert hslash
  decide

/-! ## Moves in a row -/

/-- To follow names is to move to one child after the other. -/
theorem follow_eq_foldlM (c : Cursor p) (names : List String) :
    c.follow names = names.foldlM child c := by
  induction names generalizing c with
  | nil => rfl
  | cons name names ih =>
    rw [follow, List.foldlM_cons]
    cases c.child name with
    | error e => rfl
    | ok b => exact ih b

/-- What a failed move says of the path is how the cursor came there and the name that it missed. -/
theorem child_error_path {c : Cursor p} {name : String} {e : NavigationError} {path : List String}
    (h : c.child name = .error e) (he : e = .featureNotFound path ∨ e = .notAReference path) :
    path = c.path ++ [name] := by
  rcases c.child_cases name with ⟨_, _, _, hok, _⟩ | ⟨_, _, _, herr⟩ | ⟨_, _, herr⟩ | ⟨_, herr⟩
  · cases hok.symm.trans h
  all_goals
    cases herr.symm.trans h
    rcases he with he | he <;> cases he
  · rfl
  · rfl

/-! ## Where cursors come from -/

/-- A path starts with the name of the class. -/
theorem start_path {c : Cursor p} {id : ClassId} (h : start p id = .ok c) :
    c.path = [c.cls.name] := by
  unfold start at h
  split at h
  · cases h
    rfl
  · cases h

/-- Whatever moves a cursor has made, it could have followed names one by one. -/
theorem Reaches.exists_follow {c d : Cursor p} (h : c.Reaches d) :
    ∃ names, c.follow names = .ok d := by
  induction h with
  | here => exact ⟨[], rfl⟩
  | @child d e name _ hchild ih =>
    obtain ⟨names, hd⟩ := ih
    exact ⟨names ++ [name], follow_snoc hd hchild⟩
  | @navigate d e text _ hnavigate ih =>
    obtain ⟨names, hd⟩ := ih
    refine ⟨names ++ pathNames text, ?_⟩
    rw [follow_append, hd]
    exact navigate_ok hnavigate

/-- The cursor was set on a class and moved from there, any number of times. -/
def Reached (c : Cursor p) : Prop := ∃ id first, start p id = .ok first ∧ first.Reaches c

theorem Reached.path_ne_nil {c : Cursor p} (h : c.Reached) : c.path ≠ [] := by
  obtain ⟨id, first, hfirst, hreaches⟩ := h
  obtain ⟨names, hfollow⟩ := hreaches.exists_follow
  rw [follow_path hfollow, start_path hfirst]
  exact List.cons_ne_nil _ _

/-! ## Navigation -/

/-- What navigation does, from wherever a cursor has come. The cursor stands on a class of the
package. A blank text is no path. Any other text is followed name by name, by what stands between
its slashes. If that succeeds, the names stand behind the path that the cursor had; if it fails,
then at one of the names, and a failure that names a path names the path so far and all names up to
this one. Two texts with a slash between them are navigated one after the other, failures included,
and slashes at the start, at the end, or doubled make no difference. -/
theorem navigate_moves {c : Cursor p} (hc : c.Reached) (text : String) :
    p.class? c.id = some c.cls ∧
    pathNames text =
      ((text.split '/').toList.map String.Slice.copy).filter (fun name => name ≠ "") ∧
    (Text.isBlank text = true → c.navigate text = .error (.blankPath text)) ∧
    (Text.isBlank text = false →
      c.navigate text = (pathNames text).foldlM child c ∧
      (∀ d, c.navigate text = .ok d → d.path = c.path ++ pathNames text) ∧
      (∀ e, c.navigate text = .error e → ∃ before name after b,
        pathNames text = before ++ name :: after ∧
        before.foldlM child c = .ok b ∧ b.child name = .error e ∧
        ∀ path, e = .featureNotFound path ∨ e = .notAReference path →
          path = c.path ++ (before ++ [name]) ∧
          pathText path = pathText c.path ++ "/" ++ pathText (before ++ [name])) ∧
      (∀ more, Text.isBlank more = false →
        c.navigate (text ++ "/" ++ more) = (c.navigate text).bind fun d => d.navigate more) ∧
      c.navigate ("/" ++ text) = c.navigate text ∧
      c.navigate (text ++ "/") = c.navigate text ∧
      ∀ before after, text = before ++ "/" ++ after →
        c.navigate (before ++ "//" ++ after) = c.navigate text) := by
  refine ⟨c.isClass, pathNames_eq_split text, fun hblank => if_pos hblank, fun hblank => ?_⟩
  have hfollow := navigate_of_not_blank hblank c
  refine ⟨hfollow.trans (c.follow_eq_foldlM _), ?_, ?_, ?_, ?_, ?_, ?_⟩
  · intro d hd
    exact follow_path (navigate_ok hd)
  · intro e he
    obtain ⟨before, name, after, b, hnames, hb, hchild⟩ := follow_error (hfollow.symm.trans he)
    refine ⟨before, name, after, b, hnames, (c.follow_eq_foldlM before).symm.trans hb, hchild, ?_⟩
    intro path hpath
    have heq : path = c.path ++ (before ++ [name]) := by
      rw [child_error_path hchild hpath, follow_path hb, List.append_assoc]
    refine ⟨heq, ?_⟩
    rw [heq]
    exact pathText_append hc.path_ne_nil (by simp)
  · intro more hmore
    have hboth : Text.isBlank (text ++ "/" ++ more) = false := isBlank_of_slash (by simp)
    rw [navigate_of_not_blank hboth, pathNames_append, follow_append, hfollow]
    congr 1
    funext d
    exact (navigate_of_not_blank hmore d).symm
  · have hlead : Text.isBlank ("/" ++ text) = false := isBlank_of_slash (by simp)
    rw [navigate_of_not_blank hlead, pathNames_leading, hfollow]
  · have htrail : Text.isBlank (text ++ "/") = false := isBlank_of_slash (by simp)
    rw [navigate_of_not_blank htrail, pathNames_trailing, hfollow]
  · rintro before after rfl
    have hdouble : Text.isBlank (before ++ "//" ++ after) = false := isBlank_of_slash (by simp)
    rw [navigate_of_not_blank hdouble, pathNames_doubled, hfollow]

/-- A cursor on the document root of `Package.ring`. -/
def ringRoot : Cursor Package.ring :=
  ⟨⟨2⟩, { name := "DocumentRoot", contentKind := .mixed, features := [
      .ref { name := "Order", target := ⟨0⟩ }] }, ["DocumentRoot"], rfl⟩

/-- From the document root an order can be reached, but not through its number. The failure says so
in the same words however many slashes there are. -/
theorem navigate_moves_ring : ringRoot.Reached ∧
    Text.isBlank "Order/number/party" = false ∧
    ringRoot.navigate "Order//number/party" =
      .error (.notAReference ["DocumentRoot", "Order", "number"]) ∧
    ringRoot.navigate " " = .error (.blankPath " ") := by
  have hreached : ringRoot.Reached := ⟨⟨2⟩, ringRoot, rfl, .here⟩
  have hblank : Text.isBlank "Order/number/party" = false := by decide
  obtain ⟨_, _, _, hmoves⟩ := navigate_moves hreached "Order/number/party"
  obtain ⟨hfold, _, _, _, _, _, hdoubled⟩ := hmoves hblank
  obtain ⟨_, _, hempty, _⟩ := navigate_moves hreached " "
  refine ⟨hreached, hblank, ?_, hempty (by decide)⟩
  rw [show "Order//number/party" = "Order" ++ "//" ++ "number/party" from rfl,
    hdoubled "Order" "number/party" rfl, hfold]
  rfl

end Cursor

end EdiSchema
