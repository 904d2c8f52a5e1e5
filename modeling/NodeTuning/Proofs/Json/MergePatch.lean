import NodeTuning.Proofs.Json.Codec

/-!
Changing a document by a merge patch. A member of the patch that is null takes the member of its
name away, one that is an object is merged into it, and any other one stands in its place. What the
patch does not name stays. Main statements: the members of an object after a patch that is a record.
-/
namespace NodeTuning.Json

mutual

/-- The document after the patch. What is no object counts as an empty one for the members of the
patch. -/
def appliedTo : Json → Json → Json
  | .obj changes, target => .obj (changed changes (target.members?.getD []))
  | patch, _ => patch

/-- The members after those of a patch. The order of members has no meaning. -/
def changed : Fields → Fields → Fields
  | [], members => members
  | (name, value) :: rest, members =>
    let others := members.filter fun member => member.1 ≠ name
    match value with
    | .null => changed rest others
    | value =>
      let target := (valuesOf name members).getLast?.getD .null
      changed rest (others ++ [(name, value.appliedTo target)])

end

variable {name other : String} {members first second : Fields} {value : Json}
variable {fields : List (String × Option Json)}

theorem valuesOf_append :
    valuesOf name (first ++ second) = valuesOf name first ++ valuesOf name second :=
  List.filterMap_append

theorem valuesOf_others : valuesOf name (members.filter fun member => member.1 ≠ name) = [] := by
  induction members with
  | nil => rfl
  | cons member rest ih =>
    by_cases same : member.1 = name <;> simp_all [valuesOf]

theorem valuesOf_others_of_ne (different : other ≠ name) :
    valuesOf name (members.filter fun member => member.1 ≠ other) = valuesOf name members := by
  induction members with
  | nil => rfl
  | cons member rest ih =>
    by_cases same : member.1 = other
    · simp_all [valuesOf]
    · by_cases own : member.1 = name <;> simp_all [valuesOf]

theorem changed_cons (present : value ≠ .null) (rest : Fields) :
    changed ((name, value) :: rest) members =
      changed rest (members.filter (fun member => member.1 ≠ name) ++
        [(name, value.appliedTo ((valuesOf name members).getLast?.getD .null))]) := by
  cases value with
  | null => exact absurd rfl present
  | _ => simp [changed]

/-- A patch leaves alone what it does not name. -/
theorem valuesOf_changed_of_notMem {changes : Fields} (absent : name ∉ changes.map (·.1)) :
    valuesOf name (changed changes members) = valuesOf name members := by
  induction changes generalizing members with
  | nil => rw [changed]
  | cons change rest ih =>
    obtain ⟨other, value⟩ := change
    simp only [List.map_cons, List.mem_cons, not_or] at absent
    have different : other ≠ name := Ne.symm absent.1
    by_cases there : value = .null
    · subst there
      rw [changed, ih absent.2, valuesOf_others_of_ne different]
    · rw [changed_cons there, ih absent.2, valuesOf_append, valuesOf_others_of_ne different]
      simp [valuesOf, different]

/-- A value that a patch puts in place of whatever was there. -/
structure Replaces (value : Json) : Prop where
  applied : ∀ target, value.appliedTo target = value
  present : value ≠ .null

theorem valuesOf_changed_cons_self {rest : Fields} (replaces : value.Replaces)
    (only : name ∉ rest.map (·.1)) :
    valuesOf name (changed ((name, value) :: rest) members) = [value] := by
  rw [changed_cons replaces.present, valuesOf_changed_of_notMem only, valuesOf_append,
    valuesOf_others, replaces.applied]
  simp [valuesOf]

theorem names_written_subset (member : name ∈ (written fields).map (·.1)) :
    name ∈ fields.map (·.1) := by
  obtain ⟨entry, among, rfl⟩ := List.mem_map.1 member
  obtain ⟨field, there, same⟩ := List.mem_filterMap.1 among
  obtain ⟨value, _, rfl⟩ := Option.map_eq_some_iff.1 same
  exact List.mem_map.2 ⟨field, there, rfl⟩

/-- A record as a patch puts its own fields in place of the old ones, but an old one stays where the
record has none. -/
theorem valuesOf_changed_written (distinct : (fields.map (·.1)).Nodup) {value : Option Json}
    (member : (name, value) ∈ fields) (replaces : ∀ own, value = some own → own.Replaces)
    (dropped : value = none → valuesOf name members = []) :
    valuesOf name (changed (written fields) members) = value.toList := by
  induction fields generalizing members with
  | nil => cases member
  | cons field rest ih =>
    obtain ⟨other, given⟩ := field
    obtain ⟨fresh, others⟩ := List.nodup_cons.1 distinct
    rcases List.mem_cons.1 member with own | later
    · cases own
      have only : name ∉ (written rest).map (·.1) := mt names_written_subset fresh
      cases value with
      | none =>
        change valuesOf name (changed (written rest) members) = []
        rw [valuesOf_changed_of_notMem only, dropped rfl]
      | some own =>
        change valuesOf name (changed ((name, own) :: written rest) members) = [own]
        exact valuesOf_changed_cons_self (replaces own rfl) only
    · have different : other ≠ name := by
        rintro rfl
        exact fresh (List.mem_map.2 ⟨_, later, rfl⟩)
      cases given with
      | none => exact ih others later dropped
      | some change =>
        change valuesOf name (changed ((other, change) :: written rest) members) = _
        by_cases there : change = .null
        · subst there
          rw [changed]
          refine ih others later fun absent => ?_
          rw [valuesOf_others_of_ne different, dropped absent]
        · rw [changed_cons there]
          refine ih others later fun absent => ?_
          rw [valuesOf_append, valuesOf_others_of_ne different, dropped absent]
          simp [valuesOf, different]

end NodeTuning.Json
