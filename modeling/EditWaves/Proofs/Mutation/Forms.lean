import EditWaves.Mutation.Encode
import EditWaves.Proofs.Mutation.WellFormed

/-!
# The two JSON forms of a mutation

A mutation on its own is written as a list of fields, its range and its type in front of the
fields of its kind, and of two fields with one key the later one counts.  As a child of a
`multiple` its range and its type are put into the fields of its kind and replace what they find
there.  So the two forms decide alike as long as no key is on both sides, and the other way round
where one is.

* `get?_ownFields` and `get?_childFields`: the lookups in the two forms.
* `toJson_eq_childJson_iff_agree`: when the forms are the same.
* `toJson_eq_childJson_iff`: they are but for custom mutations with a range or a type of another
  value among their fields.
-/

namespace EditWaves.Mutation

/-! ## Keys that all kinds have in common -/

theorem isHeadKey_iff {key : String} : isHeadKey key = true ↔ key = "range" ∨ key = "type" := by
  simp [isHeadKey]

theorem ne_of_isHeadKey_eq_false {key : String} (h : isHeadKey key = false) :
    key ≠ "range" ∧ key ≠ "type" := by
  rw [← not_or, ← isHeadKey_iff, h]
  decide

/-- Only custom fields can have the keys that are common to all kinds. -/
theorem headFree_kindFields {m : Mutation} (h : ∀ r tag fields, m ≠ .custom r tag fields) :
    HeadFree m.kindFields := by
  intro key hkey
  cases m with
  | custom r tag fields => exact absurd rfl (h r tag fields)
  | _ =>
    rcases isHeadKey_iff.1 hkey with rfl | rfl <;>
      simp [kindFields, Dict.get?_insert]

/-- The fields that are written for every kind. -/
def headFields (m : Mutation) : List (String × Json) :=
  [("range", m.range.toJson), ("type", .string m.tag)]

theorem find?_headFields (m : Mutation) (key : String) :
    Dict.find? key m.headFields = if key = "range" then some m.range.toJson
      else if key = "type" then some (.string m.tag) else none := by
  simp only [headFields, Dict.find?, eq_comm]

theorem find?_headFields_of_ne (m : Mutation) {key : String} (hrange : key ≠ "range")
    (htype : key ≠ "type") : Dict.find? key m.headFields = none := by
  rw [find?_headFields, if_neg hrange, if_neg htype]

/-! ## Lookups -/

/-- The fields of a mutation as a child of a `multiple`. -/
def childFields (m : Mutation) : Dict Json :=
  (m.kindFields.insert "range" m.range.childJson).insert "type" (.string m.tag)

theorem childJson_eq (m : Mutation) : m.childJson = .object m.childFields.entries := rfl

/-- On its own a mutation has its kind's value under a key that both sides have. -/
theorem get?_ownFields (m : Mutation) (key : String) : (Dict.ofList m.ownFields).get? key
    = (m.kindFields.get? key <|> Dict.find? key m.headFields) := by
  have hfields : m.ownFields = m.headFields ++ m.kindFields.entries := rfl
  have hhead : (m.headFields.map Prod.fst).Nodup := by
    show ["range", "type"].Nodup
    decide
  rw [Dict.get?_ofList, hfields, List.reverse_append, Dict.find?_append,
    Dict.find?_reverse m.kindFields.nodup_keys, Dict.find?_reverse hhead]
  rfl

/-- As a child a mutation has its own range and type. -/
theorem get?_childFields (m : Mutation) (key : String) : m.childFields.get? key
    = (Dict.find? key m.headFields <|> m.kindFields.get? key) := by
  rw [childFields, Dict.get?_insert, Dict.get?_insert, EditRange.childJson_eq_toJson,
    find?_headFields]
  by_cases hrange : key = "range"
  · subst hrange
    rfl
  · by_cases htype : key = "type"
    · subst htype
      rfl
    · rw [if_neg (Ne.symm hrange), if_neg (Ne.symm htype), if_neg hrange, if_neg htype]
      rfl

/-! ## When the forms are the same -/

/-- It does not matter which of two optional values is preferred if they are not different. -/
theorem orElse_comm_iff {α : Type} {a b : Option α} :
    (a <|> b) = (b <|> a) ↔ ∀ v w, a = some v → b = some w → v = w := by
  cases a with
  | none => cases b <;> simp
  | some v => cases b <;> simp

/-- The forms are the same if and only if the kind's fields agree with the range and the type
under every key that both have. -/
theorem toJson_eq_childJson_iff_agree {m : Mutation} : m.toJson = m.childJson ↔
    ∀ key v w, m.kindFields.get? key = some v → Dict.find? key m.headFields = some w → v = w := by
  have hdict : m.toJson = m.childJson ↔ Dict.ofList m.ownFields = m.childFields := by
    rw [toJson, childJson_eq, Json.object.injEq]
    exact ⟨Dict.ext, fun h => h ▸ rfl⟩
  have hlookups : Dict.ofList m.ownFields = m.childFields ↔
      ∀ key, (Dict.ofList m.ownFields).get? key = m.childFields.get? key :=
    ⟨fun h key => by rw [h], Dict.ext_get?⟩
  rw [hdict, hlookups]
  refine forall_congr' fun key => ?_
  rw [get?_ownFields, get?_childFields, orElse_comm_iff]

/-- A mutation has the same form on its own and as a child if its kind's fields leave the keys
free that are common to all kinds. -/
theorem toJson_eq_childJson {m : Mutation} (h : HeadFree m.kindFields) :
    m.toJson = m.childJson := by
  rw [toJson_eq_childJson_iff_agree]
  intro key v w hv hw
  cases hkey : isHeadKey key with
  | true =>
    rw [h key hkey] at hv
    cases hv
  | false =>
    obtain ⟨hrange, htype⟩ := ne_of_isHeadKey_eq_false hkey
    rw [find?_headFields_of_ne m hrange htype] at hw
    cases hw

/-- A custom mutation whose fields hold another range or another type than its own. -/
def Collides : Mutation → Prop
  | custom r tag fields => (∃ v, fields.get? "range" = some v ∧ v ≠ r.toJson) ∨
      ∃ v, fields.get? "type" = some v ∧ v ≠ .string tag
  | _ => False

theorem not_collides_iff_agree {m : Mutation} : ¬m.Collides ↔
    ∀ key v w, m.kindFields.get? key = some v → Dict.find? key m.headFields = some w → v = w := by
  cases m with
  | custom r tag fields =>
    constructor
    · intro h key v w hv hw
      by_contra hne
      rw [find?_headFields] at hw
      split_ifs at hw with hrange htype
      · exact h (.inl ⟨v, hrange ▸ hv, Option.some.inj hw ▸ hne⟩)
      · exact h (.inr ⟨v, htype ▸ hv, Option.some.inj hw ▸ hne⟩)
    · rintro h (⟨v, hv, hne⟩ | ⟨v, hv, hne⟩)
      · exact hne (h "range" v _ hv rfl)
      · exact hne (h "type" v _ hv rfl)
  | _ => exact iff_of_true id (toJson_eq_childJson_iff_agree.1
      (toJson_eq_childJson (headFree_kindFields nofun)))

/-- A mutation has the same JSON value on its own and as a child of a `multiple` if and only if
it is not a custom one whose fields hold another range or another type than its own.  As a child
its range and its type are always its own, and its other fields are those of its kind, as they
are on its own. -/
theorem toJson_eq_childJson_iff (m : Mutation) :
    (m.toJson = m.childJson ↔ ¬m.Collides) ∧
      (∀ r ms, (multiple r ms).kindFields.get? "mutations" = some (.array (ms.map childJson))) ∧
      ∃ own child : Dict Json,
        m.toJson = .object own.entries ∧ m.childJson = .object child.entries ∧
        child.get? "range" = some m.range.toJson ∧ child.get? "type" = some (.string m.tag) ∧
        ∀ key, key ≠ "range" → key ≠ "type" →
          child.get? key = m.kindFields.get? key ∧ own.get? key = m.kindFields.get? key := by
  refine ⟨toJson_eq_childJson_iff_agree.trans not_collides_iff_agree.symm, ?_,
    Dict.ofList m.ownFields, m.childFields, rfl, rfl, ?_, ?_, ?_⟩
  · intro r ms
    rw [kindFields, childrenJson_eq_map, Dict.get?_insert, if_pos rfl]
  · rw [get?_childFields]
    rfl
  · rw [get?_childFields]
    rfl
  · intro key hrange htype
    rw [get?_childFields, get?_ownFields, find?_headFields_of_ne m hrange htype]
    refine ⟨rfl, ?_⟩
    cases m.kindFields.get? key <;> rfl

end EditWaves.Mutation
