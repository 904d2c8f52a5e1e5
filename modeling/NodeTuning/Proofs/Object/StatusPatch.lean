import NodeTuning.Proofs.Json.MergePatch
import NodeTuning.Proofs.Object.Documents
import NodeTuning.Remote.Request

/-!
The merge patch by which the status of a profile is written. Main statement: it puts the new status
in place of the old one and changes nothing else, if the new one has conditions and drops no
reference.
-/
namespace NodeTuning
open Json

instance : LawfulCodec OwnerReference where
  kept _ := .of_members rfl (fun _ => rfl) (by simp)

/-- The time of deletion is written in whole seconds only. -/
theorem ObjectMeta.kept {metadata : ObjectMeta} (live : metadata.deletionTimestamp = none) :
    Kept metadata := by
  have skipped : ("deletionTimestamp", metadata.deletionTimestamp.map fun time =>
      Json.str time.wholeText) = optionalField "deletionTimestamp" metadata.deletionTimestamp := by
    rw [live]
    rfl
  have absent : ∀ time, metadata.deletionTimestamp = some time → Kept time := by
    rw [live]
    nofun
  refine .of_members rfl (fun _ => rfl) ?_
  rw [skipped]
  simp [Fields.optional_optionalField absent]

namespace ProfileStatus
variable {status : ProfileStatus} {members : Fields}

theorem decode?_obj (kept : Kept status.conditions)
    (conditions : valuesOf "conditions" members = [encode status.conditions])
    (tuned : valuesOf "tuned" members = (status.tuned.map encode).toList)
    (runtimeClass : valuesOf "runtimeClass" members = (status.runtimeClass.map encode).toList) :
    decode? (.obj members) = some status := by
  have once : (Json.obj members).record? ["conditions", "tuned", "runtimeClass"] =
      some members := by
    apply record?_obj
    simp only [List.forall_mem_cons, conditions, tuned, runtimeClass]
    cases status.tuned <;> cases status.runtimeClass <;> simp
  change ((Json.obj members).record? _).bind _ = _
  rw [once, Option.bind_some, Fields.withDefault_of_value conditions kept.decoded]
  rw [Fields.optional_of_values (fun _ _ => LawfulCodec.kept _) tuned]
  rw [Fields.optional_of_values (fun _ _ => LawfulCodec.kept _) runtimeClass]
  rfl

/-- The references of the new status are at least those of the old one. -/
structure Covers (old new : ProfileStatus) : Prop where
  tuned : new.tuned = none → old.tuned = none
  runtimeClass : new.runtimeClass = none → old.runtimeClass = none

def fields (status : ProfileStatus) : List (String × Option Json) := [
  listField "conditions" status.conditions,
  optionalField "tuned" status.tuned,
  optionalField "runtimeClass" status.runtimeClass]

theorem distinct_fields (status : ProfileStatus) : (status.fields.map (·.1)).Nodup := by
  simp [fields]

/-- The members of the document of an old status, if there is one. -/
def oldMembers (old : Option ProfileStatus) : Fields :=
  (((old.map encode).getD .null).members?).getD []

theorem valuesOf_oldMembers {old : Option ProfileStatus} {name : String}
    (silent : ∀ status, old = some status → (name, none) ∈ status.fields) :
    valuesOf name (oldMembers old) = [] := by
  cases old with
  | none => rfl
  | some status =>
    change valuesOf name (written status.fields) = []
    rw [valuesOf_written status.distinct_fields (silent status rfl)]
    rfl

theorem replaces_str (text : String) : (Json.str text).Replaces :=
  ⟨fun _ => by simp [appliedTo], nofun⟩

theorem replaces_arr (items : List Json) : (Json.arr items).Replaces :=
  ⟨fun _ => by simp [appliedTo], nofun⟩

/-- A status that is merged into an old one stands for itself, although the merge takes nothing
away. -/
theorem decode?_appliedTo {old : Option ProfileStatus} {new : ProfileStatus} (exact : new.Exact)
    (filled : new.conditions ≠ []) (covers : ∀ status, old = some status → Covers status new) :
    decode? ((encode new).appliedTo ((old.map encode).getD .null)) = some new := by
  have conditions : Kept new.conditions :=
    kept_list fun condition member => Condition.kept (exact condition member)
  have text : ∀ (value : Option String) own, value.map encode = some own → own.Replaces := by
    intro value own same
    obtain ⟨text, _, rfl⟩ := Option.map_eq_some_iff.1 same
    exact replaces_str text
  change decode? (.obj (changed (written new.fields) (oldMembers old))) = some new
  apply decode?_obj conditions
  · have listed : ("conditions", some (encode new.conditions)) ∈ new.fields := by
      simp [fields, listField, filled]
    refine valuesOf_changed_written new.distinct_fields listed ?_ fun absent => ?_
    · rintro own ⟨⟩
      exact replaces_arr _
    · cases absent
  · have referred : ∀ status : ProfileStatus,
        ("tuned", status.tuned.map encode) ∈ status.fields := by simp [fields, optionalField]
    refine valuesOf_changed_written new.distinct_fields (referred new) (text new.tuned) ?_
    intro none
    apply valuesOf_oldMembers
    intro status there
    have dropped := (covers status there).tuned (Option.map_eq_none_iff.1 none)
    simpa [dropped] using referred status
  · have referred : ∀ status : ProfileStatus,
        ("runtimeClass", status.runtimeClass.map encode) ∈ status.fields := by
      simp [fields, optionalField]
    refine valuesOf_changed_written new.distinct_fields (referred new) (text new.runtimeClass) ?_
    intro none
    apply valuesOf_oldMembers
    intro status there
    have dropped := (covers status there).runtimeClass (Option.map_eq_none_iff.1 none)
    simpa [dropped] using referred status

end ProfileStatus

def statusPatch (status : ProfileStatus) : Json := .obj [("status", encode status)]

theorem Request.body_of_patchStatus {key : String} {status : ProfileStatus} {request : Request}
    (made : Request.ofOperation? (.patchStatus key status) = some request) :
    request.body = some (.mergePatch, statusPatch status) := by
  obtain ⟨target, _, made⟩ := Option.bind_eq_some_iff.1 made
  obtain ⟨read, _, rfl⟩ := Option.map_eq_some_iff.1 made
  rfl

namespace Profile
variable {profile : Profile} {status : ProfileStatus} {members : Fields} {json : Json}

theorem decode?_obj (live : profile.metadata.deletionTimestamp = none)
    (metadata : valuesOf "metadata" members = [encode profile.metadata])
    (spec : valuesOf "spec" members = [encode profile.spec])
    (reported : valuesOf "status" members = [json]) (decoded : decode? json = some status)
    (present : json ≠ .null) :
    decode? (.obj members) = some { profile with status := some status } := by
  have once : (Json.obj members).fullRecord? ["metadata", "spec", "status"] = some members := by
    rw [fullRecord?, record?_obj (by simp [metadata, spec, reported])]
    rfl
  change ((Json.obj members).fullRecord? _).bind _ = _
  rw [once, Option.bind_some]
  rw [Fields.required_of_value metadata (ObjectMeta.kept live).decoded]
  rw [Fields.required_of_value spec (LawfulCodec.kept profile.spec).decoded]
  rw [Fields.optional_of_value reported decoded present]
  rfl

def fields (profile : Profile) : List (String × Option Json) := [
  field "apiVersion" Kind.performanceProfile.apiVersion,
  field "kind" Kind.performanceProfile.name,
  field "metadata" profile.metadata,
  field "spec" profile.spec,
  optionalField "status" profile.status]

theorem distinct_fields (profile : Profile) : (profile.fields.map (·.1)).Nodup := by
  simp [fields]

/-- The merge patch with a new status changes the status of a live profile and nothing else. -/
theorem decode?_statusPatch (live : profile.metadata.deletionTimestamp = none)
    (exact : status.Exact) (filled : status.conditions ≠ [])
    (covers : ∀ old, profile.status = some old → old.Covers status) :
    decode? ((statusPatch status).appliedTo (encode profile)) =
      some { profile with status := some status } := by
  have values : ∀ {name value}, (name, value) ∈ profile.fields →
      valuesOf name (written profile.fields) = value.toList :=
    valuesOf_written profile.distinct_fields
  have untouched : ∀ {name}, name ≠ "status" →
      valuesOf name (changed [("status", encode status)] (written profile.fields)) =
        valuesOf name (written profile.fields) :=
    fun different => valuesOf_changed_of_notMem (by simpa using different)
  have old : (valuesOf "status" (written profile.fields)).getLast?.getD .null =
      (profile.status.map encode).getD .null := by
    have written : ("status", profile.status.map encode) ∈ profile.fields := by
      simp [fields, optionalField]
    rw [values written]
    cases profile.status <;> rfl
  have patched : valuesOf "status" (changed [("status", encode status)] (written profile.fields)) =
      [(encode status).appliedTo ((profile.status.map encode).getD .null)] := by
    rw [changed_cons (ProfileStatus.kept exact).present, old, changed, valuesOf_append,
      valuesOf_others]
    simp [valuesOf]
  have present : (encode status).appliedTo ((profile.status.map encode).getD .null) ≠ .null := by
    rintro ⟨⟩
  have decoded := ProfileStatus.decode?_appliedTo exact filled covers
  change decode? (.obj (changed [("status", encode status)] (written profile.fields))) = _
  refine decode?_obj live ?_ ?_ patched decoded present
  · have written : ("metadata", some (encode profile.metadata)) ∈ profile.fields := by
      simp [fields, field]
    rw [untouched (by decide), values written]
    rfl
  · have written : ("spec", some (encode profile.spec)) ∈ profile.fields := by
      simp [fields, field]
    rw [untouched (by decide), values written]
    rfl

end Profile
end NodeTuning
