import NodeTuning.Proofs.Controller.PassOutcome

/-!
When the status of a profile is written. Main statement: conditions of different types are written
unless the status states the same already, but for order and times, and it states them afterwards
either way.
-/
namespace NodeTuning
open Steps Cluster.Action

section Writing
variable {settings : Settings} {profile : Profile} {conditions : List Condition}
variable {references : References} {controller : Controller} {name : String}

theorem run_writeStatus_changed (under : profile.Under name)
    (found : controller.cluster.peek Profile name = some profile)
    (writable : controller.cluster.check .updateStatus .performanceProfile = .ok ())
    (changed : ¬ statusUnchanged (profile.status.getD {})
      (nextStatus settings profile conditions references) = true) :
    (writeStatus settings profile conditions references).run controller =
      (.ok (), { controller with cluster := { controller.cluster with
        profiles := controller.cluster.profiles.insert name { profile with
          status := some (nextStatus settings profile conditions references) }
        calls := controller.cluster.calls ++
          [⟨.updateStatus, .performanceProfile, name⟩] } }) := by
  have own : storeKey profile = profile.name := by rw [under.name_eq, under.storeKey_eq]
  obtain rfl := under.name_eq
  have ok : controller.cluster.patchStatus profile.name
      (nextStatus settings profile conditions references) = .ok ((), _) :=
    Cluster.patchStatus_eq_ok_iff.2 ⟨writable, profile, found, rfl⟩
  unfold writeStatus
  dsimp only
  rw [if_neg changed, Pass.run_onCluster, run_ofWrite_ok ok]
  change (_, { controller with cluster := { controller.cluster with
    profiles := controller.cluster.profiles.insert (storeKey profile) _, calls := _ } }) = _
  rw [own]
  rfl

end Writing

/-- Let new conditions, each of a type of its own, be given to a stored profile, to be written with
the references it has or with those to its generated objects. They are written unless the status
states the same already, but for order and times. Either way it states them afterwards, and nothing
but the status has changed. -/
theorem status_written_unless_stated (settings : Settings) (controller : Controller) (name : String)
    (profile : Profile) (conditions : List Condition) (references : References)
    (under : profile.Under name) (found : controller.cluster.peek Profile name = some profile)
    (writable : controller.cluster.check .updateStatus .performanceProfile = .ok ())
    (distinct : (conditions.map Condition.type).Nodup) :
    let wanted := profile.reportedReferences settings references
    ∃ status logged,
      (writeStatus settings profile conditions references).run controller =
        (.ok (), { controller with cluster := { controller.cluster with
          profiles := controller.cluster.profiles.insert name { profile with status }
          calls := controller.cluster.calls ++ logged } }) ∧
      Profile.States { profile with status } conditions wanted ∧
      (profile.States conditions wanted → logged = [] ∧ status = profile.status) ∧
      (¬ profile.States conditions wanted →
        logged = [⟨.updateStatus, .performanceProfile, name⟩]) := by
  intro wanted
  have unchanged : statusUnchanged (profile.status.getD {})
      (nextStatus settings profile conditions references) = true ↔
        profile.States conditions wanted :=
    Profile.statusUnchanged_iff_states distinct
  by_cases stated : profile.States conditions wanted
  · have same : controller.cluster.profiles.insert name profile = controller.cluster.profiles :=
      SortedMap.insert_of_find? found
    refine ⟨profile.status, [], ?_, stated, fun _ => ⟨rfl, rfl⟩, fun other => absurd stated other⟩
    rw [run_writeStatus_unchanged controller (unchanged.2 stated), same, List.append_nil]
  · refine ⟨_, _, run_writeStatus_changed under found writable (stated ∘ unchanged.1),
      profile.states_nextStatus settings conditions references, fun other => absurd other stated,
      fun _ => rfl⟩

/-- A repeated condition, with as many old conditions as new ones and each old one among these, does
not hide that a new one is missing. Another order and other times are no reason to write. -/
theorem status_written_unless_stated_repeated :
    let condition (type : ConditionType) : Condition := .mk type .fails none none none none
    let conditions := [condition .degraded, condition .available]
    let repeated := { smallProfile with
      status := some { conditions := [condition .degraded, condition .degraded] } }
    let swapped := { smallProfile with status := some { conditions := [
      condition .available, { condition .degraded with lastTransitionTime := some default }] } }
    let write (profile : Profile) := (writeStatus {} profile conditions .kept).run
      { cluster := Cluster.put {} profile }
    (conditions.map Condition.type).Nodup ∧
    (∃ after, write repeated = (.ok (), after) ∧
      after.cluster.calls = [⟨.updateStatus, .performanceProfile, "small"⟩]) ∧
    ∃ after, write swapped = (.ok (), after) ∧ after.cluster.calls = [] := by
  intro condition conditions repeated swapped write
  have distinct : (conditions.map Condition.type).Nodup := by decide
  have missing : ¬ repeated.States conditions (repeated.reportedReferences {} .kept) :=
    fun stated => absurd stated.conditions (by decide)
  have stated : swapped.States conditions (swapped.reportedReferences {} .kept) :=
    ⟨by decide, rfl⟩
  obtain ⟨_, _, wrote, _, _, written⟩ := status_written_unless_stated {}
    { cluster := Cluster.put {} repeated } "small" repeated conditions .kept ⟨rfl, rfl⟩ rfl rfl
    distinct
  obtain ⟨_, _, skipped, _, left, _⟩ := status_written_unless_stated {}
    { cluster := Cluster.put {} swapped } "small" swapped conditions .kept ⟨rfl, rfl⟩ rfl rfl
    distinct
  exact ⟨distinct, ⟨_, wrote, written missing⟩, _, skipped, (left stated).1⟩

end NodeTuning
