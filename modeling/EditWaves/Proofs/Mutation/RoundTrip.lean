import EditWaves.Proofs.Mutation.Forms

/-!
# Reading back what was written

Mutations, lists of them, mutations by file and waves are read back from their JSON values
as they were.  The encoder and the decoder share no code, and the encoder writes a mutation
on its own and a child of a `multiple` in two different ways; both come to the same value
for a well-formed mutation, and by the grammar that value stands for the mutation.

* `Mutation.hasHead_childFields` and `Mutation.otherFields_childFields`: the head of a mutation
  that was written.
* `Mutation.denotes_childJson`: what was written stands for the mutation, by induction on
  well-formedness.
* `codecs_roundTrip`: what this gives together with the well-formedness of whatever is read.
-/

namespace EditWaves

open Json (HasHead otherFields DenotesMutation DenotesItems)

/-! ## Ranges -/

/-- What is written for a range stands for it. -/
theorem EditRange.denotesRange_toJson {r : EditRange} (h : r.WellFormed) :
    r.toJson.DenotesRange r := by
  rcases r with ⟨start, _ | stop⟩
  · exact .object rfl h.start_lt .absent
  · have hle : start ≤ stop := of_decide_eq_true h.forward
    exact .object rfl h.start_lt (.offset hle (h.stop_lt stop rfl))

namespace Mutation

/-! ## Heads -/

/-- The fields of a kind leave the keys free that are common to all kinds. -/
theorem WellFormed.headFree {m : Mutation} (h : m.WellFormed) : HeadFree m.kindFields := by
  cases h with
  | custom hr htag hfields => exact hfields
  | _ => exact headFree_kindFields nofun

theorem hasHead_childFields {m : Mutation} (h : m.WellFormed) :
    HasHead m.childFields.entries m.range m.tag := by
  refine ⟨⟨m.range.toJson, ?_, EditRange.denotesRange_toJson h.range⟩, ?_⟩
  · show m.childFields.get? "range" = _
    rw [get?_childFields]
    rfl
  · show m.childFields.get? "type" = _
    rw [get?_childFields]
    rfl

/-- Beside its range and its type a mutation that was written has the fields of its kind. -/
theorem otherFields_childFields {m : Mutation} (h : HeadFree m.kindFields) :
    otherFields m.childFields.entries = m.kindFields := by
  refine Dict.ext_get? ?_
  intro key
  rw [Json.get?_otherFields, Dict.find?_reverse m.childFields.nodup_keys]
  cases hkey : isHeadKey key with
  | true => exact (h key hkey).symm
  | false =>
    obtain ⟨hrange, htype⟩ := ne_of_isHeadKey_eq_false hkey
    show m.childFields.get? key = _
    rw [get?_childFields, find?_headFields_of_ne m hrange htype]
    rfl

/-! ## Mutations -/

/-- Values that stand for mutations one by one stand for their list. -/
theorem denotesItems_map {encode : Mutation → Json} {ms : List Mutation}
    (h : ∀ m ∈ ms, (encode m).DenotesMutation m) : DenotesItems (ms.map encode) ms := by
  induction ms with
  | nil => exact .nil
  | cons m ms ih =>
    exact .cons (h m List.mem_cons_self) (ih (fun k hk => h k (List.mem_cons_of_mem _ hk)))

/-- What is written for a mutation as a child stands for it. -/
theorem denotes_childJson {m : Mutation} (h : m.WellFormed) : m.childJson.DenotesMutation m := by
  have hhead := hasHead_childFields h
  have hother := otherFields_childFields h.headFree
  show (Json.object m.childFields.entries).DenotesMutation m
  induction h with
  | delete hr => exact .delete hhead
  | @insert r insertion hr =>
    refine .insert hhead ?_
    rw [hother]
    rfl
  | @replace r search template hr =>
    refine .replace hhead ?_ ?_
    · rw [hother, kindFields, Dict.get?_insert, if_neg (by decide), Dict.get?_insert, if_pos rfl]
    · rw [hother, kindFields, Dict.get?_insert, if_pos rfl]
  | @swap r insertion hr =>
    refine .swap hhead ?_
    rw [hother]
    rfl
  | @multiple r ms hr hms ih =>
    have hitems : DenotesItems (ms.map childJson) ms := by
      refine denotesItems_map ?_
      intro c hc
      exact ih c hc (hasHead_childFields (hms c hc)) (otherFields_childFields (hms c hc).headFree)
    refine .multiple hhead ?_ hitems
    rw [hother, kindFields, childrenJson_eq_map, Dict.get?_insert, if_pos rfl]
  | @custom r tag fields hr htag hfields =>
    have hcustom := DenotesMutation.custom hhead htag
    rw [hother] at hcustom
    exact hcustom

/-- A mutation is read back from the form that it has as a child. -/
theorem ofJson_childJson {m : Mutation} (h : m.WellFormed) : ofJson m.childJson = .ok m :=
  ofJson_of_denotes (denotes_childJson h)

/-- A mutation is read back from the form that it has on its own. -/
theorem ofJson_toJson {m : Mutation} (h : m.WellFormed) : ofJson m.toJson = .ok m := by
  rw [toJson_eq_childJson h.headFree]
  exact ofJson_childJson h

/-- The JSON value of a list of mutations. -/
def listToJson (ms : List Mutation) : Json := .array (ms.map toJson)

theorem listOfJson_listToJson {ms : List Mutation} (h : ∀ m ∈ ms, m.WellFormed) :
    listOfJson (listToJson ms) = .ok ms := by
  refine listOfJson_eq_ok_iff_denotes.2 (.array (denotesItems_map ?_))
  intro m hm
  exact ofJson_eq_ok_iff.1 (ofJson_toJson (h m hm))

end Mutation

/-! ## Files and waves -/

namespace FileMutations

theorem ofFields_map {l : List (String × List Mutation)} (h : ∀ e ∈ l, ∀ m ∈ e.2, m.WellFormed) :
    ofFields (l.map (fun e => (e.1, Mutation.listToJson e.2))) = .ok l := by
  induction l with
  | nil => rfl
  | cons e l ih =>
    rw [List.map_cons, ofFields, Mutation.listOfJson_listToJson (h e List.mem_cons_self),
      ih (fun k hk => h k (List.mem_cons_of_mem _ hk))]
    rfl

/-- Mutations by file are read back. -/
theorem ofJson_toJson {files : FileMutations} (h : files.WellFormed) :
    ofJson files.toJson = .ok files := by
  have hfields : ofFields (files.map Mutation.listToJson).entries = .ok files.entries := by
    refine ofFields_map ?_
    intro e he
    exact h e.1 e.2 (Dict.mem_entries_iff.1 he)
  show (ofFields (files.map Mutation.listToJson).entries).map Dict.ofList = _
  rw [hfields]
  exact congrArg Except.ok (Dict.ofList_entries files)

end FileMutations

namespace Wave

/-- A wave is read back, and one without files is not one with an empty mapping. -/
theorem ofJson_toJson {w : Wave} (h : w.WellFormed) : ofJson w.toJson = .ok w := by
  rcases w with ⟨_ | files⟩
  · rfl
  · have hfiles : filesOrNull files.toJson = .ok (some files) := by
      show (FileMutations.ofJson files.toJson).map some = _
      rw [FileMutations.ofJson_toJson (h files rfl)]
      rfl
    show ((some files.toJson).mapM filesOrNull >>= _) = _
    rw [Option.mapM_some, hfiles]
    rfl

theorem toJson_dry_ne (files : FileMutations) : Wave.dry.toJson ≠ Wave.toJson ⟨some files⟩ := by
  intro h
  simp [Wave.toJson, Wave.dry] at h

end Wave

/-! ## Codecs -/

/-- An encoder and a decoder that fit together on the values with a property. -/
structure RoundTrips {α : Type} (WellFormed : α → Prop) (encode : α → Json)
    (decode : Json → Except DecodeError α) : Prop where
  /-- What was encoded is decoded as it was. -/
  decode_encode : ∀ a, WellFormed a → decode (encode a) = .ok a
  /-- Whatever is decoded has the property. -/
  wellFormed : ∀ v a, decode v = .ok a → WellFormed a
  /-- Encoding what was decoded and decoding it again changes nothing. -/
  decode_encode_decode : ∀ v a, decode v = .ok a → decode (encode a) = decode v

theorem RoundTrips.of {α : Type} {WellFormed : α → Prop} {encode : α → Json}
    {decode : Json → Except DecodeError α}
    (hencode : ∀ a, WellFormed a → decode (encode a) = .ok a)
    (hdecode : ∀ v a, decode v = .ok a → WellFormed a) : RoundTrips WellFormed encode decode := by
  refine ⟨hencode, hdecode, ?_⟩
  intro v a h
  rw [hencode a (hdecode v a h), h]

/-- Mutations, lists of mutations, mutations by file and waves are decoded from what they were
encoded to, whatever is decoded is well-formed, and a wave without files is encoded and decoded
as something else than a wave with an empty mapping. -/
theorem codecs_roundTrip :
    RoundTrips Mutation.WellFormed Mutation.toJson Mutation.ofJson ∧
      RoundTrips (fun ms => ∀ m ∈ ms, m.WellFormed) Mutation.listToJson Mutation.listOfJson ∧
      RoundTrips FileMutations.WellFormed FileMutations.toJson FileMutations.ofJson ∧
      RoundTrips Wave.WellFormed Wave.toJson Wave.ofJson ∧
      Wave.ofJson Wave.dry.toJson = .ok .dry ∧
      Wave.ofJson (Wave.toJson ⟨some .empty⟩) = .ok ⟨some .empty⟩ ∧
      ∀ files, Wave.dry.toJson ≠ Wave.toJson ⟨some files⟩ := by
  refine ⟨?_, ?_, ?_, ?_, rfl, rfl, Wave.toJson_dry_ne⟩
  · exact .of (fun _ => Mutation.ofJson_toJson) Mutation.wellFormed_of_ofJson
  · exact .of (fun _ => Mutation.listOfJson_listToJson) Mutation.wellFormed_of_listOfJson
  · exact .of (fun _ => FileMutations.ofJson_toJson)
      (fun _ _ => FileMutations.wellFormed_of_ofJson)
  · exact .of (fun _ => Wave.ofJson_toJson) (fun _ _ => Wave.wellFormed_of_ofJson)

/-- A custom mutation with a field of its own beside a swap, inside a `multiple`. -/
theorem codecs_roundTrip_nested :
    let fields : Dict Json := Dict.empty.insert "times" (.array [.nat 2, .null])
    let m : Mutation := .multiple ⟨3, some 9⟩ [.custom (.point 4) "shout" fields,
      .swap ⟨5, some 7⟩ "x"]
    m.WellFormed ∧ Mutation.ofJson m.toJson = .ok m ∧
      Mutation.ofJson m.toJson = Mutation.ofJson m.childJson := by
  intro fields m
  have hrange : ∀ start stop : Nat, start ≤ stop → stop < offsetLimit →
      (EditRange.mk start (some stop)).WellFormed := by
    intro start stop hle hlt
    refine ⟨decide_eq_true hle, Nat.lt_of_le_of_lt hle hlt, ?_⟩
    intro n hn
    cases hn
    exact hlt
  have hpoint : (EditRange.point 4).WellFormed := ⟨rfl, by decide, nofun⟩
  have hfields : Mutation.HeadFree fields := by
    intro key hkey
    rcases Mutation.isHeadKey_iff.1 hkey with rfl | rfl <;> rfl
  have hm : m.WellFormed := by
    refine .multiple (hrange 3 9 (by decide) (by decide)) ?_
    intro c hc
    obtain rfl | rfl : c = .custom (.point 4) "shout" fields ∨ c = .swap ⟨5, some 7⟩ "x" := by
      simpa using hc
    · exact .custom hpoint (by decide) hfields
    · exact .swap (hrange 5 7 (by decide) (by decide))
  have hread := codecs_roundTrip.1.decode_encode m hm
  have hchild := codecs_roundTrip.1.decode_encode_decode m.childJson m
    (Mutation.ofJson_childJson hm)
  exact ⟨hm, hread, hchild⟩

end EditWaves
