import NodeTuning.Json.Codec

/-!
Values that are read back from their documents. Main statements: a record is read back if its fields
are named apart and each of them is read back where it was written, and what is read from a document
was read from one of its members.
-/
namespace NodeTuning
variable {α : Type} [JsonCodec α]

/-- A value that is read back from its document, which does not look like that of a missing one. -/
structure Kept (value : α) : Prop where
  decoded : decode? (encode value) = some value
  present : encode value ≠ .null

/-- A type of which all values are read back. -/
class LawfulCodec (α : Type) [JsonCodec α] : Prop where
  kept (value : α) : Kept value

attribute [simp] LawfulCodec.kept

namespace Json
variable {name other : String} {fields rest : List (String × Option Json)}

def written (fields : List (String × Option Json)) : Fields :=
  fields.filterMap fun field => field.2.map fun value => (field.1, value)

@[simp] theorem valuesOf_written_nil : valuesOf name (written []) = [] := by
  simp [valuesOf, written]

@[simp] theorem valuesOf_written_self (value : Option Json) :
    valuesOf name (written ((name, value) :: rest)) =
      value.toList ++ valuesOf name (written rest) := by
  cases value <;> simp [valuesOf, written]

@[simp] theorem valuesOf_written_of_ne {entry : String × Option Json} (different : entry.1 ≠ name) :
    valuesOf name (written (entry :: rest)) = valuesOf name (written rest) := by
  obtain ⟨other, value⟩ := entry
  cases value <;> simp_all [valuesOf, written]

theorem valuesOf_written_of_notMem (absent : name ∉ fields.map (·.1)) :
    valuesOf name (written fields) = [] := by
  induction fields with
  | nil => rfl
  | cons entry rest ih =>
    simp only [List.map_cons, List.mem_cons, not_or] at absent
    rw [valuesOf_written_of_ne (Ne.symm absent.1), ih absent.2]

theorem valuesOf_written (distinct : (fields.map (·.1)).Nodup) {value : Option Json}
    (member : (name, value) ∈ fields) : valuesOf name (written fields) = value.toList := by
  induction fields with
  | nil => cases member
  | cons entry rest ih =>
    obtain ⟨fresh, others⟩ := List.nodup_cons.1 distinct
    rcases List.mem_cons.1 member with rfl | later
    · rw [valuesOf_written_self, valuesOf_written_of_notMem fresh, List.append_nil]
    · have different : entry.1 ≠ name := by
        rintro rfl
        exact fresh (List.mem_map.2 ⟨_, later, rfl⟩)
      rw [valuesOf_written_of_ne different, ih others later]

theorem length_valuesOf_written_le (distinct : (fields.map (·.1)).Nodup) (name : String) :
    (valuesOf name (written fields)).length ≤ 1 := by
  induction fields with
  | nil => simp
  | cons entry rest ih =>
    obtain ⟨own, value⟩ := entry
    obtain ⟨fresh, others⟩ := List.nodup_cons.1 distinct
    by_cases same : own = name
    · subst same
      rw [valuesOf_written_self, valuesOf_written_of_notMem fresh]
      cases value <;> simp
    · rw [valuesOf_written_of_ne same]
      exact ih others

theorem record?_obj {names : List String} {members : Fields}
    (once : ∀ name ∈ names, (valuesOf name members).length ≤ 1) :
    (Json.obj members).record? names = some members :=
  if_pos (List.all_eq_true.2 fun name member => decide_eq_true (once name member))

/-- A record names no field twice, so it can be read strictly. -/
theorem record?_record (names : List String) (distinct : (fields.map (·.1)).Nodup) :
    (record fields).record? names = some (written fields) :=
  record?_obj fun name _ => length_valuesOf_written_le distinct name

end Json

namespace Fields
variable {name : String} {value : α} {rest : List (String × Option Json)}
  {entry : String × Option Json}

open Json (valuesOf written)

theorem nullable?_of_decoded {json : Json} (decoded : decode? json = some value)
    (present : json ≠ .null) : nullable? json = some (some value) := by
  have plain : nullable? (α := α) json = (decode? json).map some := by
    cases json with
    | null => exact absurd rfl present
    | _ => rfl
  rw [plain, decoded, Option.map_some]

section Given
variable {fields : Fields} {json : Json}

theorem required_of_value (given : valuesOf name fields = [json])
    (decoded : decode? json = some value) : required fields name = some value := by
  simp [required, all?, given, decoded]

theorem withDefault_of_value (given : valuesOf name fields = [json])
    (decoded : decode? json = some value) (fallback : α) :
    withDefault fields name fallback = some value := by
  simp [withDefault, all?, given, decoded]

theorem withDefault_of_none (given : valuesOf name fields = []) (fallback : α) :
    withDefault fields name fallback = some fallback := by
  simp [withDefault, all?, given]

theorem optional_of_value (given : valuesOf name fields = [json])
    (decoded : decode? json = some value) (present : json ≠ .null) :
    optional fields name = some (some value) := by
  simp [optional, given, nullable?_of_decoded decoded present]

theorem optional_of_values {value : Option α} (kept : ∀ own, value = some own → Kept own)
    (given : valuesOf name fields = (value.map encode).toList) :
    optional fields name = some value := by
  cases value with
  | none => simp [optional, given]
  | some own => exact optional_of_value given (kept own rfl).decoded (kept own rfl).present

end Given

/-! Where a field stands first and no other has its name, it is read. -/

@[simp] theorem required_field (kept : Kept value) (only : valuesOf name (written rest) = []) :
    required (written (field name value :: rest)) name = some value :=
  required_of_value (by simp [field, only]) kept.decoded

@[simp] theorem withDefault_field (kept : Kept value) (only : valuesOf name (written rest) = [])
    (fallback : α) : withDefault (written (field name value :: rest)) name fallback = some value :=
  withDefault_of_value (by simp [field, only]) kept.decoded fallback

@[simp] theorem orElse_field (kept : Kept value) (only : valuesOf name (written rest) = [])
    (fallback : α) : orElse (written (field name value :: rest)) name fallback = some value := by
  rw [orElse, optional_of_value (by simp [field, only]) kept.decoded kept.present]
  rfl

@[simp] theorem optional_optionalField {value : Option α} (kept : ∀ own, value = some own → Kept own)
    (only : valuesOf name (written rest) = []) :
    optional (written (optionalField name value :: rest)) name = some value :=
  optional_of_values kept (by simp [optionalField, only])

@[simp] theorem withDefault_listField {values : List α} (kept : Kept values)
    (only : valuesOf name (written rest) = []) :
    withDefault (written (listField name values :: rest)) name [] = some values := by
  cases values with
  | nil => exact withDefault_of_none (by simp [listField, only]) []
  | cons first more => exact withDefault_of_value (by simp [listField, only]) kept.decoded []

@[simp] theorem withDefault_labelsField {labels : Labels} (kept : Kept labels)
    (only : valuesOf name (written rest) = []) :
    withDefault (written (labelsField name labels :: rest)) name .empty = some labels := by
  obtain ⟨entries, sorted⟩ := labels
  cases entries with
  | nil => exact withDefault_of_none (by simp [labelsField, only, SortedMap.isEmpty]) _
  | cons first more =>
    exact withDefault_of_value (by simp [labelsField, only, SortedMap.isEmpty]) kept.decoded _

/-! A field of another name is passed over. -/

@[simp] theorem required_of_ne (different : entry.1 ≠ name) :
    required (α := α) (written (entry :: rest)) name = required (written rest) name := by
  simp [required, all?, different]

@[simp] theorem optional_of_ne (different : entry.1 ≠ name) :
    optional (α := α) (written (entry :: rest)) name = optional (written rest) name := by
  simp [optional, different]

@[simp] theorem orElse_of_ne (different : entry.1 ≠ name) (fallback : α) :
    orElse (written (entry :: rest)) name fallback = orElse (written rest) name fallback := by
  simp [orElse, different]

@[simp] theorem withDefault_of_ne (different : entry.1 ≠ name) (fallback : α) :
    withDefault (written (entry :: rest)) name fallback =
      withDefault (written rest) name fallback := by
  simp [withDefault, all?, different]

end Fields

section Builders
variable (name : String)

@[simp] theorem field_name (value : α) : (field name value).1 = name := by rw [field]

@[simp] theorem optionalField_name (value : Option α) : (optionalField name value).1 = name := by
  rw [optionalField]

@[simp] theorem listField_name (values : List α) : (listField name values).1 = name := by
  rw [listField]

@[simp] theorem labelsField_name (labels : Labels) : (labelsField name labels).1 = name := by
  rw [labelsField]

end Builders

/-- A strict record is read back if its reader finds the fields where they were written. -/
theorem Kept.of_record {value : α} {fields : List (String × Option Json)} {names : List String}
    {read : Fields → Option α} (encoded : encode value = .record fields)
    (decoded : ∀ json : Json, decode? json = (json.record? names).bind read)
    (distinct : (fields.map (·.1)).Nodup) (reads : read (Json.written fields) = some value) :
    Kept value where
  decoded := by rw [encoded, decoded, Json.record?_record names distinct, Option.bind_some, reads]
  present := by rw [encoded]; nofun

/-- A loose record is read back if its reader finds the fields where they were written. -/
theorem Kept.of_members {value : α} {fields : List (String × Option Json)}
    {read : Fields → Option α} (encoded : encode value = .record fields)
    (decoded : ∀ json : Json, decode? json = json.members?.bind read)
    (reads : read (Json.written fields) = some value) : Kept value where
  decoded := by
    rw [encoded, decoded]
    exact reads
  present := by rw [encoded]; nofun

section Values

instance : LawfulCodec Bool := ⟨fun _ => ⟨rfl, nofun⟩⟩

instance : LawfulCodec String := ⟨fun _ => ⟨rfl, nofun⟩⟩

theorem intBetween?_int {low high value : Int} (above : low ≤ value) (below : value ≤ high) :
    intBetween? low high (.int value) = some value := if_pos ⟨above, below⟩

instance : LawfulCodec UInt32 where
  kept n := by
    have fits := n.toNat_lt
    refine ⟨?_, nofun⟩
    change (intBetween? 0 (UInt32.size - 1) (.int n.toNat)).map _ = _
    rw [intBetween?_int (by omega) (by simp only [UInt32.size]; omega)]
    simp

instance : LawfulCodec UInt64 where
  kept n := by
    have fits := n.toNat_lt
    refine ⟨?_, nofun⟩
    change (intBetween? 0 (UInt64.size - 1) (.int n.toNat)).map _ = _
    rw [intBetween?_int (by omega) (by simp only [UInt64.size]; omega)]
    simp

instance : LawfulCodec Int32 where
  kept n := by
    refine ⟨?_, nofun⟩
    change (intBetween? _ _ (.int n.toInt)).map _ = _
    rw [intBetween?_int n.minValue_le_toInt n.toInt_le]
    simp

instance : LawfulCodec Int64 where
  kept n := by
    refine ⟨?_, nofun⟩
    change (intBetween? _ _ (.int n.toInt)).map _ = _
    rw [intBetween?_int n.minValue_le_toInt n.toInt_le]
    simp

theorem kept_list {values : List α} (each : ∀ value ∈ values, Kept value) : Kept values where
  decoded := by
    change (values.map encode).mapM decode? = some values
    induction values with
    | nil => rfl
    | cons first rest ih =>
      obtain ⟨own, others⟩ := List.forall_mem_cons.1 each
      simp [List.mapM_cons, own.decoded, ih others]
  present := nofun

instance [LawfulCodec α] : LawfulCodec (List α) :=
  ⟨fun _ => kept_list fun _ _ => LawfulCodec.kept _⟩

theorem decodeEntries?_encode [LawfulCodec α] (entries : List (String × α)) :
    decodeEntries? (entries.map fun entry => (entry.1, encode entry.2)) = some entries := by
  induction entries with
  | nil => rfl
  | cons first rest ih => simp [decodeEntries?, (LawfulCodec.kept first.2).decoded, ih]

instance [LawfulCodec α] : LawfulCodec (SortedMap α) where
  kept map := by
    refine ⟨?_, nofun⟩
    change (decodeEntries? (map.entries.map fun entry => (entry.1, encode entry.2))).map _ = _
    rw [decodeEntries?_encode, Option.map_some, SortedMap.ofList_entries]

end Values

section Decoded
variable {β γ : Type} {fields : Fields} {name : String} {value fallback : α}

theorem exists_of_mem_mapM {f : β → Option γ} {items : List β} {results : List γ}
    (mapped : items.mapM f = some results) {result : γ} (member : result ∈ results) :
    ∃ item ∈ items, f item = some result := by
  induction items generalizing results with
  | nil =>
    cases mapped
    cases member
  | cons first rest ih =>
    simp only [List.mapM_cons, Option.pure_def, Option.bind_eq_bind,
      Option.bind_eq_some_iff] at mapped
    obtain ⟨head, headed, tail, tailed, same⟩ := mapped
    cases same
    rcases List.mem_cons.1 member with rfl | later
    · exact ⟨first, List.mem_cons_self, headed⟩
    · obtain ⟨item, there, own⟩ := ih tailed later
      exact ⟨item, List.mem_cons_of_mem _ there, own⟩

theorem decoded_of_mem {json : Json} {values : List α} (read : decode? json = some values)
    (member : value ∈ values) : ∃ item, decode? item = some value := by
  cases json with
  | arr items =>
    obtain ⟨item, _, decoded⟩ := exists_of_mem_mapM read member
    exact ⟨item, decoded⟩
  | _ => cases read

theorem decoded_of_withDefault (read : fields.withDefault name fallback = some value) :
    value = fallback ∨ ∃ json, decode? json = some value := by
  obtain ⟨values, mapped, last⟩ := Option.map_eq_some_iff.1 read
  cases ends : values.getLast? with
  | none => exact .inl (by rw [← last, ends]; rfl)
  | some own =>
    obtain ⟨json, _, decoded⟩ := exists_of_mem_mapM mapped (List.mem_of_getLast? ends)
    refine .inr ⟨json, ?_⟩
    rw [decoded, ← last, ends]
    rfl

theorem decoded_of_optional (read : fields.optional name = some (some value)) :
    ∃ json, decode? json = some value := by
  obtain ⟨values, mapped, last⟩ := Option.map_eq_some_iff.1 read
  have ends := Option.join_eq_some_iff.1 last
  obtain ⟨json, _, read⟩ := exists_of_mem_mapM mapped (List.mem_of_getLast? ends)
  unfold Fields.nullable? at read
  split at read
  · cases read
  · obtain ⟨own, decoded, same⟩ := Option.map_eq_some_iff.1 read
    cases same
    exact ⟨_, decoded⟩

end Decoded

/-- What becomes of a document that is read and written again. -/
def rewritten? (α : Type) [JsonCodec α] (json : Json) : Option Json :=
  (decode? (α := α) json).map encode

/-- Values and documents agree: what is written is read back, and a document that can be read is
rewritten to one that says the same and is rewritten no further. -/
structure RoundTrips (α : Type) [JsonCodec α] (exact : α → Prop) : Prop where
  written : ∀ value, exact value → decode? (encode value) = some value
  read : ∀ json document, rewritten? α json = some document →
    decode? (α := α) document = decode? json ∧ rewritten? α document = some document

theorem RoundTrips.of_kept {exact : α → Prop} (kept : ∀ value, exact value → Kept value)
    (decoded : ∀ json value, decode? json = some value → exact value) : RoundTrips α exact where
  written value fits := (kept value fits).decoded
  read json document rewritten := by
    obtain ⟨value, read, rfl⟩ := Option.map_eq_some_iff.1 rewritten
    have again := (kept value (decoded json value read)).decoded
    exact ⟨again.trans read.symm, by rw [rewritten?, again, Option.map_some]⟩

theorem LawfulCodec.roundTrips (α : Type) [JsonCodec α] [LawfulCodec α] :
    RoundTrips α fun _ => True :=
  .of_kept (fun value _ => LawfulCodec.kept value) fun _ _ _ => trivial

end NodeTuning
