import NodeTuning.Proofs.Controller.StatusReports
import NodeTuning.Proofs.Object.StatusPatch

/-!
Status writes as a distant cluster sees them. The controller sends a merge patch, which can take
nothing away, while the cluster at hand puts the new status in place of the old one. Main statement:
for the status that a pass writes, both make the same of the profile that it has read.
-/
namespace NodeTuning

/-- The status of the profile under a key is replaced, and the document of that profile, changed by
the patch that is sent for the write, is the document of the same new profile. -/
structure Cluster.Replaced (key : String) (existing : Profile) (status : ProfileStatus)
    (before after : Cluster) : Prop where
  written : before.patchStatus key status = .ok ((), after)
  stored : after.peek Profile key = some { existing with status := some status }
  sent : ∀ request, Request.ofOperation? (.patchStatus key status) = some request →
    request.body = some (.mergePatch, statusPatch status)
  merged : decode? ((statusPatch status).appliedTo (encode existing)) =
    some { existing with status := some status }

theorem Condition.exact_carryTransition {old : List Condition} {condition : Condition}
    (known : ∀ other ∈ old, other.Exact) (exact : condition.Exact) :
    (condition.carryTransition old).Exact := by
  unfold carryTransition
  dsimp only
  split
  · rename_i time carried
    obtain ⟨other, found, moved⟩ := Option.bind_eq_some_iff.1 carried
    refine ⟨?_, exact.heartbeat⟩
    rintro _ ⟨⟩
    exact (known other (List.mem_of_find?_eq_some found)).transition time moved
  · exact exact

theorem Report.exact_conditions {now : Timestamp} (clock : now.Exact) (report : Report) :
    ∀ condition ∈ report.conditions now, condition.Exact := by
  intro condition member
  obtain ⟨moved, beat⟩ := Report.times_of_mem member
  constructor
  · intro time same
    exact Option.some.inj (moved.symm.trans same) ▸ clock
  · intro time same
    exact Option.some.inj (beat.symm.trans same) ▸ clock

section Passes
variable {settings : Settings} {now : Timestamp} {profile : Profile}

/-- The times in the status of a profile, if it has one, are exact. -/
def Profile.ExactTimes (profile : Profile) : Prop :=
  ∀ status, profile.status = some status → status.Exact

theorem Profile.ExactTimes.adopted (exact : profile.ExactTimes) : profile.adopted.ExactTimes := by
  rw [ExactTimes, profile.status_adopted]
  exact exact

theorem exact_nextStatus (clock : now.Exact) (exact : profile.ExactTimes) (report : Report)
    (references : References) :
    (nextStatus settings profile (report.conditions now) references).Exact := by
  have known : ∀ other ∈ profile.conditions, other.Exact := by
    rw [profile.conditions_eq]
    cases own : profile.status with
    | none => exact fun _ member => absurd member List.not_mem_nil
    | some status => exact exact status own
  intro condition member
  rw [conditions_nextStatus] at member
  obtain ⟨fresh, among, rfl⟩ := List.mem_map.1 member
  exact Condition.exact_carryTransition known (report.exact_conditions clock fresh among)

theorem conditions_nextStatus_ne_nil (report : Report) (references : References) :
    (nextStatus settings profile (report.conditions now) references).conditions ≠ [] := by
  intro none
  have types := (coherent_nextStatus settings now profile report references).types
  rw [none] at types
  cases types

/-- References are kept, or they are all given. -/
theorem covers_nextStatus {old : ProfileStatus} (reported : profile.status = some old)
    (conditions : List Condition) (references : References) :
    old.Covers (nextStatus settings profile conditions references) := by
  unfold nextStatus
  rw [reported]
  cases references with
  | kept => exact ⟨id, id⟩
  | current => exact ⟨nofun, nofun⟩

/-- A report on a live profile is merged into it as it is written to it. -/
theorem replaced_of_patchStatus {name : String} {report : Report} {references : References}
    {before after : Cluster} (clock : now.Exact) (exact : profile.ExactTimes)
    (live : profile.metadata.deletionTimestamp = none) (under : profile.Under name)
    (found : before.peek Profile name = some profile) :
    let status := nextStatus settings profile (report.conditions now) references
    before.patchStatus name status = .ok ((), after) →
      before.Replaced name profile status after := by
  intro status ok
  refine ⟨ok, Cluster.peek_patchStatus under found ok, fun _ => Request.body_of_patchStatus, ?_⟩
  apply Profile.decode?_statusPatch live
  · exact exact_nextStatus clock exact report references
  · exact conditions_nextStatus_ne_nil report references
  · exact fun old reported => covers_nextStatus reported _ _

/-- Let a pass run over a profile that is stored under its own name. It writes no status, or it
writes one to the profile that it has read, to which nothing but the finalizer may have been added
since. That write makes of the profile what the merge patch in the request for it makes of it. -/
theorem status_writes_agree (settings : Settings) (now : Timestamp) (name : String)
    (controller : Controller) (clock : now.Exact)
    (stored : ∀ profile, controller.cluster.peek Profile name = some profile →
      profile.Under name ∧ profile.ExactTimes) :
    let reached := (controller.reconcile settings now name).2.cluster
    controller.cluster.Silent reached ∨
      ∃ profile status middle, controller.cluster.Readies name profile middle ∧
        middle.Replaced name profile.adopted status reached := by
  intro reached
  have reports : controller.cluster.Reports settings now name reached :=
    reports_reconcile settings now fun profile found => (stored profile found).1
  cases reports with
  | silent silent => exact .inl silent
  | reported profile middle report references readies ok =>
    obtain ⟨under, exact⟩ := stored profile readies.found
    have live : profile.adopted.metadata.deletionTimestamp = none :=
      profile.deletionTimestamp_adopted.trans readies.live
    exact .inr ⟨profile, _, middle, readies,
      replaced_of_patchStatus clock exact.adopted live under.adopted readies.stored ok⟩

/-- A pass that refuses a profile writes a status, in which the old reference has to stay. -/
theorem status_writes_agree_refused :
    let profile := { smallProfile with status := some { tuned := some "tuning/small" } }
    let start : Controller := { cluster := Cluster.put {} profile }
    let settings : Settings := ⟨"tuning", fun _ => .error "not valid"⟩
    let reached := (start.reconcile settings default "small").2.cluster
    (default : Timestamp).Exact ∧
    (∀ profile, start.cluster.peek Profile "small" = some profile →
      profile.Under "small" ∧ profile.ExactTimes) ∧
    ∃ status middle, start.cluster.Readies "small" profile middle ∧
      middle.Replaced "small" profile status reached ∧ status.tuned = some "tuning/small" ∧
      (Request.ofOperation? (.patchStatus "small" status)).isSome = true := by
  intro profile start settings reached
  have clock : (default : Timestamp).Exact := ⟨by decide, fun late => absurd late (by decide)⟩
  have same : start.cluster.peek Profile "small" = some profile := by decide +kernel
  have stored : ∀ other, start.cluster.peek Profile "small" = some other →
      other.Under "small" ∧ other.ExactTimes := by
    intro other found
    cases same.symm.trans found
    refine ⟨⟨rfl, rfl⟩, ?_⟩
    rintro _ ⟨⟩
    exact fun _ member => absurd member List.not_mem_nil
  have written : reached.calls = [⟨.updateStatus, .performanceProfile, "small"⟩] := by
    decide +kernel
  have kept : ((reached.peek Profile "small").bind (·.status)).bind (·.tuned) =
      some "tuning/small" := by
    decide +kernel
  have sent : ∀ status, (Request.ofOperation? (.patchStatus "small" status)).isSome = true := by
    intro status
    have empty : (Request.ofOperation? (.patchStatus "small" {})).isSome = true := by decide +kernel
    simpa [Request.ofOperation?, Request.make?, Option.isSome_bind] using empty
  refine ⟨clock, stored, ?_⟩
  obtain ⟨_, more, logged, quiet⟩ | ⟨other, status, middle, readies, replaced⟩ :=
    status_writes_agree settings default "small" start clock stored
  · have silent : reached.calls = more := logged
    exact absurd rfl (quiet _ (silent ▸ written ▸ List.mem_singleton_self _))
  · cases same.symm.trans readies.found
    rw [replaced.stored] at kept
    exact ⟨status, middle, readies, replaced, kept, sent status⟩

end Passes
end NodeTuning
