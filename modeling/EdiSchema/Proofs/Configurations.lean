import EdiSchema.Config
import EdiSchema.Proofs.JsonText

/-!
# Configurations in JSON

A configuration has one key, and nothing that is written beside that key is passed over. Members are
taken one after the other: one with another key is refused, and so is the key itself once a policy
has been read (`Config.takeJson_eq_ok_iff`). So of all lists of members the empty one and the one
member with a policy are taken, wherever in a longer list the fault may stand
(`Config.foldMembers_takeJson`).

A text is read as the value that it writes, however that is laid out and spelled
(`Config.ofJson_eq_ok_iff`), so what holds of an object holds of each text that writes it.
-/

namespace EdiSchema

namespace Json

section Choices

variable {α : Type} (table : List (String × α)) (name : String) (a : α)

theorem mem_names_of_lookup {table : List (String × α)} {name : String} {a : α}
    (h : table.lookup name = some a) : name ∈ table.map Prod.fst := by
  obtain ⟨before, after, rfl, -⟩ := List.lookup_eq_some_iff.mp h
  simp

theorem asNull_eq_ok_iff (v : Value) (u : Unit) : asNull v = .ok u ↔ v = .null := by
  cases v <;> simp [asNull]

/-- A name stands for what the table has under it. -/
theorem chooseName_string_eq_ok_iff :
    chooseName table (.string name) = .ok a ↔ table.lookup name = some a := by
  rw [chooseName, Value.string, choose]
  by_cases hin : name ∈ table.map Prod.fst
  · rw [if_pos hin]
    cases table.lookup name <;> simp
  · have hnone : table.lookup name ≠ some a := fun h => hin (mem_names_of_lookup h)
    rw [if_neg hin]
    simp [hnone]

/-- So does a name as the only key of an object that holds null. -/
theorem chooseName_object_eq_ok_iff (v : Value) (rest : Members) (closed : Bool) :
    chooseName table (.object ((some name, v) :: rest) closed) = .ok a ↔
      table.lookup name = some a ∧ v = .null ∧ rest = [] ∧ closed = true := by
  rw [chooseName, choose]
  by_cases hin : name ∈ table.map Prod.fst
  · rw [if_pos hin]
    simp only [bind_eq_ok_iff, ifClosed_eq_ok_iff, asNull_eq_ok_iff]
    cases table.lookup name with
    | none => simp
    | some b =>
      constructor
      · rintro ⟨_, ⟨_, hnull, hb⟩, hend, rfl⟩
        obtain ⟨hclosed, hrest⟩ := Bool.and_eq_true_iff.mp hend
        exact ⟨congrArg some (Except.ok.inj hb), hnull, List.isEmpty_iff.mp hrest, hclosed⟩
      · rintro ⟨hb, hnull, rfl, rfl⟩
        exact ⟨b, ⟨(), hnull, rfl⟩, rfl, Option.some_inj.mp hb⟩
  · have hnone : table.lookup name ≠ some a := fun h => hin (mem_names_of_lookup h)
    rw [if_neg hin]
    simp [hnone]

/-- A choice among names is written in these two ways and in no other. -/
theorem chooseName_eq_ok_iff (v : Value) : chooseName table v = .ok a ↔
    ∃ name, table.lookup name = some a ∧ (v = .string name ∨ v = .record [(name, .null)]) := by
  constructor
  · intro h
    cases v with
    | text characters =>
      cases characters with
      | none => cases h
      | some name => exact ⟨name, (chooseName_string_eq_ok_iff table name a).mp h, .inl rfl⟩
    | object members closed =>
      cases members with
      | nil => cases h
      | cons m rest =>
        obtain ⟨key?, w⟩ := m
        cases key? with
        | none => cases h
        | some name =>
          obtain ⟨hname, rfl, rfl, rfl⟩ :=
            (chooseName_object_eq_ok_iff table name a w rest closed).mp h
          exact ⟨name, hname, .inr rfl⟩
    | _ => cases h
  · rintro ⟨name, hname, rfl | rfl⟩
    · exact (chooseName_string_eq_ok_iff table name a).mpr hname
    · exact (chooseName_object_eq_ok_iff table name a .null [] true).mpr ⟨hname, rfl, rfl, rfl⟩

end Choices

end Json

namespace ConflictPolicy

/-- Policies are found under their names. -/
theorem lookup_table_eq_some_iff (name : String) (policy : ConflictPolicy) :
    table.lookup name = some policy ↔ name = policy.name := by
  simp only [table, List.lookup_cons, List.lookup_nil]
  by_cases hfail : name = "fail"
  · subst hfail
    cases policy <;> decide
  · by_cases hreuse : name = "reuse_first"
    · subst hreuse
      cases policy <;> decide
    · cases policy <;> simp [ConflictPolicy.name, hfail, hreuse, beq_eq_false_iff_ne.mpr]

end ConflictPolicy

namespace Config

/-- A policy is its name, or an object with its name and nothing in it. -/
theorem policyOfJson_eq_ok_iff (v : Json.Value) (policy : ConflictPolicy) :
    policyOfJson v = .ok policy ↔
      v = .string policy.name ∨ v = .record [(policy.name, .null)] := by
  simp only [policyOfJson, Json.chooseName_eq_ok_iff, ConflictPolicy.lookup_table_eq_some_iff,
    exists_eq_left]

/-- A member is taken if it is the first with the one key and holds a policy. -/
theorem takeJson_eq_ok_iff (before : Option ConflictPolicy) (key : String) (v : Json.Value)
    (after : Option ConflictPolicy) : takeJson before key v = .ok after ↔
      key = policyKey ∧ before = none ∧ ∃ policy, policyOfJson v = .ok policy ∧
        after = some policy := by
  by_cases hkey : key = policyKey
  · cases before with
    | none =>
      cases hv : policyOfJson v with
      | ok policy => simp [takeJson, hkey, hv, eq_comm]
      | error e => simp [takeJson, hkey, hv, Except.map]
    | some policy => simp [takeJson, hkey, Json.fill]
  · simp [takeJson, hkey, refuseKey]

/-- Once a policy has been read nothing more is taken. -/
theorem foldMembers_takeJson_some (policy : ConflictPolicy) (members : Json.Members)
    (after : Option ConflictPolicy) :
    Json.foldMembers takeJson (some policy) members = .ok after ↔
      members = [] ∧ after = some policy := by
  cases members with
  | nil => simp [eq_comm]
  | cons m rest =>
    obtain ⟨key?, v⟩ := m
    cases key? with
    | none => simp [Json.foldMembers]
    | some key => simp [Json.bind_eq_ok_iff, takeJson_eq_ok_iff]

/-- The members that are taken: none, or the one key with a policy. -/
theorem foldMembers_takeJson (members : Json.Members) (after : Option ConflictPolicy) :
    Json.foldMembers takeJson none members = .ok after ↔
      (members = [] ∧ after = none) ∨ ∃ v policy, members = [(some policyKey, v)] ∧
        policyOfJson v = .ok policy ∧ after = some policy := by
  cases members with
  | nil => simp [eq_comm]
  | cons m rest =>
    obtain ⟨key?, v⟩ := m
    cases key? with
    | none => simp [Json.foldMembers]
    | some key =>
      simp only [Json.foldMembers_cons, Json.bind_eq_ok_iff, takeJson_eq_ok_iff]
      constructor
      · rintro ⟨between, ⟨rfl, -, policy, hpolicy, rfl⟩, hrest⟩
        obtain ⟨rfl, rfl⟩ := (foldMembers_takeJson_some policy rest after).mp hrest
        exact .inr ⟨v, policy, rfl, hpolicy, rfl⟩
      · rintro (⟨hnil, -⟩ | ⟨w, policy, hmembers, hpolicy, rfl⟩)
        · cases hnil
        · cases hmembers
          exact ⟨some policy, ⟨rfl, trivial, policy, hpolicy, rfl⟩, rfl⟩

/-- The objects that are configurations, with what they configure. -/
theorem decodeJson_object_eq_ok_iff (members : Json.Members) (config : Config) :
    decodeJson (.object members true) = .ok config ↔
      (members = [] ∧ config = ⟨.fail⟩) ∨
      ∃ v, members = [(some policyKey, v)] ∧
        (v = .string config.nameConflict.name ∨ v = .record [(config.nameConflict.name, .null)]) := by
  simp only [decodeJson, Json.bind_eq_ok_iff, Json.ifClosed_eq_ok_iff, foldMembers_takeJson,
    policyOfJson_eq_ok_iff, true_and]
  constructor
  · rintro ⟨_, ⟨rfl, rfl⟩ | ⟨v, policy, rfl, hv, rfl⟩, rfl⟩
    · exact .inl ⟨rfl, rfl⟩
    · exact .inr ⟨v, rfl, hv⟩
  · rintro (⟨rfl, rfl⟩ | ⟨v, rfl, hv⟩)
    · exact ⟨none, .inl ⟨rfl, rfl⟩, rfl⟩
    · exact ⟨some config.nameConflict, .inr ⟨v, _, rfl, hv, rfl⟩, rfl⟩

/-- The text of a value is a configuration if the value is one. -/
theorem ofJson_eq_ok_iff {v : Json.Value} {text : String} (h : v.WrittenAs text) (config : Config) :
    ofJson text = .ok config ↔ decodeJson v = .ok config := by
  rw [ofJson, Json.decode, h.parse_eq]
  cases decodeJson v with
  | error cause => exact iff_of_false (fun h => nomatch h) fun h => nomatch h
  | ok read =>
    constructor
    · rintro ⟨⟩
      rfl
    · rintro ⟨⟩
      rfl

/-- What is no configuration is refused. -/
theorem exists_refused {text : String} (h : ∀ config, ofJson text ≠ .ok config) :
    ∃ cause, ofJson text = .error (.refused .json cause) := by
  unfold ofJson at h ⊢
  cases hd : Json.decode decodeJson text with
  | ok config => exact absurd (by rw [hd]; rfl) (h config)
  | error cause => exact ⟨cause, rfl⟩

/-- Nothing in a configuration is passed over. A text that writes an object, with any members in any
order and with any blanks and spellings, is a configuration if the object is empty, which configures
the default, or if it has the one key and holds the name of a policy or an object that maps this
name to null. Every other text of an object is refused, among them all with a key that is not known
or stands twice. -/
theorem ofJson_object {members : Json.Members} {text : String}
    (h : (Json.Value.object members true).WrittenAs text) :
    (∀ config, ofJson text = .ok config ↔
      (members = [] ∧ config = ⟨.fail⟩) ∨
      ∃ v, members = [(some "name_conflict", v)] ∧
        (v = .string config.nameConflict.name ∨
          v = .record [(config.nameConflict.name, .null)])) ∧
    ((∀ config, ofJson text ≠ .ok config) →
      ∃ cause, ofJson text = .error (.refused .json cause)) ∧
    ((∃ m ∈ members, m.1 ≠ some "name_conflict") ∨ ¬ (members.map Prod.fst).Nodup →
      ∃ cause, ofJson text = .error (.refused .json cause)) := by
  have hread : ∀ config, ofJson text = .ok config ↔ _ := fun config =>
    (ofJson_eq_ok_iff h config).trans (decodeJson_object_eq_ok_iff members config)
  refine ⟨hread, exists_refused, fun hfault => exists_refused fun config hconfig => ?_⟩
  -- neither the empty object nor the one member has such a fault
  rcases (hread config).mp hconfig with ⟨rfl, -⟩ | ⟨v, rfl, -⟩
  · simp at hfault
  · simp [policyKey] at hfault

/-- A text with blanks here and there, an escape in the key that is not needed, and the policy as an
object. -/
def spelledOut : String := " \x7b\"\\u006eame_conflict\" :\n\x7b\"reuse_first\": null\x7d \x7d\t"

theorem spelledOut_writes : (Json.Value.object
    [(some "name_conflict", .record [("reuse_first", .null)])] true).WrittenAs spelledOut := by
  have hkey : Json.Token.Written (.scalar (.text (some "name_conflict")))
      ('"' :: (['\\', 'u', '0', '0', '6', 'e'] ++
        "ame_conflict".toList.flatMap Json.escapeChar ++ ['"'])) := by
    have hcode : Json.hexValue4? '0' '0' '6' 'e' = some 'n'.toNat := by decide
    have htext := Json.Token.Written.text
      (.code hcode (Json.spelling_escaped "ame_conflict".toList))
    have hcodes : 'n'.toNat :: "ame_conflict".toList.map Char.toNat =
        "name_conflict".toList.map Char.toNat := by decide +kernel
    rwa [hcodes, Json.textOf_codes] at htext
  have hlaid := Json.Laid.blank (c := ' ') rfl <| .mark .beginObject rfl <|
    .word hkey (fun _ => Json.noScalarFirst_cons rfl _) <| .blank (c := ' ') rfl <|
    .mark .colon rfl <| .blank (c := '\n') rfl <| .mark .beginObject rfl <|
    .word (Json.written_quote "reuse_first") (fun _ => Json.noScalarFirst_cons rfl _) <|
    .mark .colon rfl <| .blank (c := ' ') rfl <|
    .word .null (fun _ => Json.noScalarFirst_cons rfl _) <| .mark .endObject rfl <|
    .blank (c := ' ') rfl <| .mark .endObject rfl <| .blank (c := '\t') rfl .nil
  refine ⟨rfl, (congrArg (Json.Laid _) ?_).mpr hlaid⟩
  decide +kernel

/-- A text that has the key twice. -/
def twice : String := "\x7b\"name_conflict\":\"fail\",\"name_conflict\":\"fail\"\x7d"

theorem twice_writes : (Json.Value.record
    [("name_conflict", .string "fail"), ("name_conflict", .string "fail")]).WrittenAs twice := by
  have hlaid := Json.Laid.mark .beginObject rfl <|
    .word (Json.written_quote "name_conflict") (fun _ => Json.noScalarFirst_cons rfl _) <|
    .mark .colon rfl <|
    .word (Json.written_quote "fail") (fun _ => Json.noScalarFirst_cons rfl _) <|
    .mark .comma rfl <|
    .word (Json.written_quote "name_conflict") (fun _ => Json.noScalarFirst_cons rfl _) <|
    .mark .colon rfl <|
    .word (Json.written_quote "fail") (fun _ => Json.noScalarFirst_cons rfl _) <|
    .mark .endObject rfl .nil
  refine ⟨rfl, (congrArg (Json.Laid _) ?_).mpr hlaid⟩
  decide +kernel

/-- The policy may be spelled out as an object, and it may not be given twice. -/
theorem ofJson_object_spelledOut_twice :
    (Json.Value.object [(some "name_conflict", .record [("reuse_first", .null)])] true).WrittenAs
      spelledOut ∧
    ofJson spelledOut = .ok ⟨.reuseFirst⟩ ∧ ∃ cause, ofJson twice = .error (.refused .json cause) :=
  ⟨spelledOut_writes,
    ((ofJson_object spelledOut_writes).1 ⟨.reuseFirst⟩).mpr (.inr ⟨_, rfl, .inr rfl⟩),
    (ofJson_object twice_writes).2.2 (.inr (by decide))⟩

end Config

end EdiSchema
