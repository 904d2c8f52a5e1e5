import NodeTuning.Proofs.Cluster.Profiles
import NodeTuning.Proofs.Controller.History

/-!
What the statuses of profiles say in the course of a history. Main statement: the conditions of
every status fit together, and the references to generated objects appear only in a pass that has
applied the components, and then stay.
-/
namespace NodeTuning
open Steps Cluster.Action

/-- Conditions of the four types in order, of which exactly one of available, progressing and
degraded holds. Upgradeable goes with available, and what is progressing or degraded is explained. -/
structure Coherent (conditions : List Condition) : Prop where
  types : conditions.map Condition.type = [.available, .upgradeable, .progressing, .degraded]
  definite : ∀ condition ∈ conditions, condition.status = .holds ∨ condition.status = .fails
  single : conditions.countP (fun condition =>
    condition.type ≠ .upgradeable ∧ condition.status = .holds) = 1
  upgradeable : ∀ condition ∈ conditions, ∀ other ∈ conditions,
    condition.type = .available → other.type = .upgradeable → other.status = condition.status
  reason : ∀ condition ∈ conditions, condition.reason.isSome ↔
    condition.status = .holds ∧ (condition.type = .progressing ∨ condition.type = .degraded)
  message : ∀ condition ∈ conditions, condition.message.isSome ↔
    condition.status = .holds ∧ (condition.type = .progressing ∨ condition.type = .degraded)

theorem Coherent.of_timeless {conditions : List Condition}
    (coherent : Coherent (timeless conditions)) : Coherent conditions where
  types := by simpa [timeless, Function.comp_def, Condition.timeless] using coherent.types
  definite := List.forall_mem_map.1 coherent.definite
  single := by
    have single := coherent.single
    rw [timeless, List.countP_map] at single
    exact single
  upgradeable condition member other among :=
    coherent.upgradeable condition.timeless (List.mem_map.2 ⟨condition, member, rfl⟩)
      other.timeless (List.mem_map.2 ⟨other, among, rfl⟩)
  reason := List.forall_mem_map.1 coherent.reason
  message := List.forall_mem_map.1 coherent.message

theorem Report.coherent_timeless (report : Report) (now : Timestamp) :
    Coherent (timeless (report.conditions now)) := by
  cases report <;> constructor <;>
    simp [Report.conditions, Report.plain, Report.explained, timeless, Condition.timeless]

theorem coherent_nextStatus (settings : Settings) (now : Timestamp) (profile : Profile)
    (report : Report) (references : References) :
    Coherent (nextStatus settings profile (report.conditions now) references).conditions := by
  apply Coherent.of_timeless
  rw [timeless_nextStatus]
  exact report.coherent_timeless now

namespace Profile

/-- A status, if there is one, has coherent conditions. -/
def ReportsCoherently (profile : Profile) : Prop :=
  ∀ status, profile.status = some status → Coherent status.conditions

/-- The references in the status of a profile, to the tuned object and to the runtime class. -/
def references (profile : Profile) : Option String × Option String :=
  let status := profile.status.getD {}
  (status.tuned, status.runtimeClass)

end Profile

/-- The references to the objects that are generated for a profile. -/
def generatedReferences (tunedNamespace profile : String) : Option String × Option String :=
  (some (tunedNamespace ++ "/" ++ tunedName profile), some (componentName profile))

section Objects
variable {settings : Settings} {profile : Profile}

theorem within_applyComponents :
    Keeps (Pass.Clusters (Cluster.Within .components)) (applyComponents settings profile) :=
  keeps_applyComponents_of_writes (fun _ _ _ object other => keeps_create object other)
    (fun _ _ _ object other => keeps_update object other)
    (keeps_sweepTuned _ _ _ fun _ => keeps_ensureDeleted (by simp [Footprint.components]))

theorem within_deleteComponents :
    Keeps (Cluster.Within .objects)
      (deleteComponents settings.tunedNamespace profile.name) :=
  keeps_deleteComponents _ _ fun _ _ _ _ member =>
    keeps_ensureDeleted (kind_of_mem_componentPlaces member).1

theorem preservesProfiles_applyComponents {property : String → Profile → Prop} :
    Keeps (Pass.Clusters (Preserving (Cluster.Profiles property)))
      (applyComponents settings profile) :=
  fun controller profiles =>
    profiles.within ((within_applyComponents controller).mono Footprint.components_below_objects)

end Objects

section Conditions
variable {settings : Settings} {now : Timestamp} {controller : Controller} {name : String}

/-- Whatever a pass writes to a status, wherever it ends up, its conditions fit together. -/
theorem coherent_reconcileProfile (profile : Profile) :
    Keeps (Pass.Clusters (Preserving (Cluster.Profiles fun _ => Profile.ReportsCoherently)))
      (reconcileProfile settings now profile) := by
  apply keeps_reconcileProfile
  · exact fun _ _ => preservesProfiles_applyComponents
  · exact preservesProfiles_of_within within_deleteComponents
  · exact fun _ => preservesProfiles_updateProfile fun _ coherent => coherent
  · intro subject references report
    apply preservesProfiles_patchStatus
    rintro existing _ status ⟨⟩
    exact coherent_nextStatus settings now subject report references

theorem coherent_reconcile
    (profiles : controller.cluster.Profiles fun _ => Profile.ReportsCoherently) :
    (controller.reconcile settings now name).2.cluster.Profiles
      fun _ => Profile.ReportsCoherently := by
  rw [(Controller.reconcile_passed settings now name controller).2.1]
  obtain ⟨_, _, run⟩ | ⟨_, _, run⟩ | ⟨profile, _, run⟩ :=
    Controller.passed_cases settings now name controller
  · rw [run]
    exact profiles
  · rw [run]
    exact profiles
  · rw [run]
    exact coherent_reconcileProfile profile controller.counted profiles

end Conditions

section References
variable {settings : Settings} {now : Timestamp} {controller : Controller} {profile : Profile}

/-- In a pass over one profile that profile has one of some references, and all other profiles are
as they were at the start. -/
structure Profile.Refers (start : Cluster) (name : String)
    (allowed : List (Option String × Option String)) (key : String) (profile : Profile) : Prop where
  under : profile.Under key
  own : key = name → profile.references ∈ allowed
  other : key ≠ name → start.peek Profile key = some profile

/-- The profile gets through all guards, and its components are then applied without a failure. -/
structure Settings.Applies (settings : Settings) (profile : Profile) (controller : Controller) :
    Prop where
  accepts : settings.Accepts profile
  unpaused : profile.isPaused = false
  applied : ∃ written after,
    (applyComponents settings profile).run controller = (.ok written, after)

variable {start : Cluster} {allowed : List (Option String × Option String)}

private abbrev KeepsReferences (start : Cluster) (name : String)
    (allowed : List (Option String × Option String)) : Controller → Controller → Prop :=
  Pass.Clusters (Preserving (Cluster.Profiles (Profile.Refers start name allowed)))

theorem keepsReferences_updateProfile (named : profile.Under profile.name)
    (finalizers : List String) :
    Keeps (Preserving (Cluster.Profiles (Profile.Refers start profile.name allowed)))
      (ofWrite (Cluster.updateProfile · (profile.withFinalizers finalizers))) := by
  apply preservesProfiles_updateProfile
  intro existing refers
  have under : (profile.withFinalizers finalizers).Under profile.name :=
    ⟨named.named, named.unspaced⟩
  rw [under.storeKey_eq]
  exact ⟨⟨named.named, named.unspaced⟩, fun _ => refers.own rfl, fun other => absurd rfl other⟩

theorem keepsReports_references {subject : Profile} {references : References}
    (known : ∀ conditions, ({ subject with
      status := some (nextStatus settings subject conditions references) } : Profile).references ∈
        allowed) :
    KeepsReports (Preserving (Cluster.Profiles (Profile.Refers start profile.name allowed)))
      settings now profile.name subject references := by
  intro report
  apply preservesProfiles_patchStatus
  intro existing refers
  rw [refers.under.storeKey_eq]
  exact ⟨⟨refers.under.named, refers.under.unspaced⟩, fun _ => known _,
    fun other => absurd rfl other⟩

theorem keepsReferences_adopt (named : profile.Under profile.name) :
    Keeps (KeepsReferences start profile.name allowed) (adopt settings now profile) := by
  unfold adopt
  refine Pass.keeps_bind_preserving
    (Pass.keeps_onCluster (keepsReferences_updateProfile named _)) ?_
  intro controller updated _ refers run
  obtain ⟨existing, found, rfl⟩ := eq_of_run_updateProfile run
  refine Keeps.bind (keeps_writeReport (fun report => ?_) _) fun _ => Keeps.pure _
  exact keepsReports_references (fun _ => (refers _ _ found).own rfl) report

theorem run_rollOut_ok {written : Bool} {after : Controller}
    (run : (rollOut settings now profile).run controller = (.ok written, after)) :
    ∃ middle, (applyComponents settings profile).run controller = (.ok written, middle) := by
  cases applies : (applyComponents settings profile).run controller with
  | mk result middle =>
    cases result with
    | error fault =>
      rw [run_rollOut_failed applies rfl] at run
      cases run
    | ok value =>
      rw [run_rollOut_applied applies] at run
      cases run
      exact ⟨_, rfl⟩

/-- What a pass comes to for the references of its profile. They are left as they are, or the
components have been applied. -/
inductive Cluster.Referred (settings : Settings) (start : Cluster) (controller : Controller)
    (profile : Profile) (after : Cluster) : Prop where
  | kept : after.Profiles (Profile.Refers start profile.name [profile.references]) → Referred ..
  | applied : settings.Applies profile controller →
      after.Profiles (Profile.Refers start profile.name [profile.references,
        generatedReferences settings.tunedNamespace profile.name]) → Referred ..

theorem referred_rollOut (accepts : settings.Accepts profile) (unpaused : profile.isPaused = false)
    (profiles : controller.cluster.Profiles
      (Profile.Refers start profile.name [profile.references])) :
    Cluster.Referred settings start controller profile
      ((rollOut settings now profile >>= reportPools settings now profile).run
        controller).2.cluster := by
  have keeps : Keeps (KeepsReferences start profile.name [profile.references])
      (rollOut settings now profile) :=
    keeps_rollOut preservesProfiles_applyComponents
      (keepsReports_references fun _ => List.mem_singleton.2 rfl)
  have rolled := keeps controller profiles
  obtain ⟨written, middle, run, whole⟩ | ⟨fault, middle, run, whole⟩ :=
    run_bind_cases (rollOut settings now profile) (reportPools settings now profile) controller
  · obtain ⟨last, applied⟩ := run_rollOut_ok run
    have current : Keeps (KeepsReferences start profile.name [profile.references,
        generatedReferences settings.tunedNamespace profile.name])
        (reportPools settings now profile written) :=
      keeps_reportPools (keepsReports_references fun _ => .tail _ (.head _)) written
    rw [run] at rolled
    rw [whole]
    refine .applied ⟨accepts, unpaused, written, last, applied⟩ (current middle ?_)
    intro key other found
    have refers := rolled key other found
    exact ⟨refers.under, fun own => List.mem_cons.2 (.inl (List.mem_singleton.1 (refers.own own))),
      refers.other⟩
  · rw [run] at rolled
    rw [whole]
    exact .kept rolled

theorem referred_reconcileProfile (named : profile.Under profile.name)
    (profiles : controller.cluster.Profiles
      (Profile.Refers start profile.name [profile.references])) :
    Cluster.Referred settings start controller profile
      ((reconcileProfile settings now profile).run controller).2.cluster := by
  have patches : KeepsReports (Preserving (Cluster.Profiles
      (Profile.Refers start profile.name [profile.references]))) settings now profile.name
      profile .kept := keepsReports_references fun _ => List.mem_singleton.2 rfl
  have kept : ∀ {α : Type} {steps : Pass α},
      Keeps (KeepsReferences start profile.name [profile.references]) steps →
      Cluster.Referred settings start controller profile (steps.run controller).2.cluster :=
    fun keeps => .kept (keeps controller profiles)
  obtain ⟨_, branch⟩ | ⟨_, _, branch⟩ | ⟨message, _, _, branch⟩ | ⟨_, _, branch⟩ |
    ⟨accepts, unpaused, branch⟩ := reconcileProfile_cases settings profile
  · rw [branch]
    exact kept (keeps_finalize (preservesProfiles_of_within within_deleteComponents)
      (keepsReferences_updateProfile named _))
  · rw [branch]
    exact kept (keepsReferences_adopt named)
  · rw [branch]
    exact kept (keeps_refuse patches message)
  · rw [branch]
    exact kept keeps_hold
  · rw [branch]
    exact referred_rollOut accepts unpaused profiles

/-- How a stored profile comes by its references in a step, given what was under its key before and
when components of that get applied. -/
inductive Profile.Succeeds (tunedNamespace key : String) (applies : Profile → Prop)
    (before : Option Profile) (later : Profile) : Prop where
  | created : before = none → later.references = (none, none) → Succeeds ..
  | kept (earlier : Profile) : before = some earlier → later.references = earlier.references →
      Succeeds ..
  | applied (earlier : Profile) : before = some earlier → applies earlier →
      later.references = generatedReferences tunedNamespace key → Succeeds ..

section Succession
variable {tunedNamespace key : String} {applies : Profile → Prop} {before : Option Profile}
variable {later : Profile}

theorem Profile.Succeeds.imp {other : Profile → Prop} {edited : Profile}
    (succeeds : later.Succeeds tunedNamespace key applies before)
    (same : edited.references = later.references)
    (weaker : ∀ earlier, applies earlier → other earlier) :
    edited.Succeeds tunedNamespace key other before := by
  cases succeeds with
  | created absent none => exact .created absent (same.trans none)
  | kept earlier found kept => exact .kept earlier found (same.trans kept)
  | applied earlier found applies generated =>
    exact .applied earlier found (weaker earlier applies) (same.trans generated)

theorem Profile.Succeeds.stays (succeeds : later.Succeeds tunedNamespace key applies before)
    {earlier : Profile} (found : before = some earlier)
    (set : earlier.references = generatedReferences tunedNamespace key) :
    later.references = generatedReferences tunedNamespace key := by
  cases succeeds with
  | created absent =>
    rw [absent] at found
    cases found
  | kept other known same =>
    obtain rfl : other = earlier := Option.some.inj (known.symm.trans found)
    exact same.trans set
  | applied _ _ _ generated => exact generated

/-- References that are set were set before, or get set as components are applied. -/
theorem Profile.Succeeds.origin (succeeds : later.Succeeds tunedNamespace key applies before)
    (set : later.references = generatedReferences tunedNamespace key) :
    ∃ earlier, before = some earlier ∧
      (earlier.references = generatedReferences tunedNamespace key ∨ applies earlier) := by
  cases succeeds with
  | created _ none =>
    rw [none] at set
    cases set
  | kept earlier found same => exact ⟨earlier, found, .inl (same ▸ set)⟩
  | applied earlier found applies => exact ⟨earlier, found, .inr applies⟩

end Succession

theorem Cluster.Referred.succeeds {after : Cluster} {key : String} {later : Profile}
    (referred : Cluster.Referred settings start controller profile after)
    (stored : start.peek Profile profile.name = some profile)
    (found : after.peek Profile key = some later) :
    later.Under key ∧ later.Succeeds settings.tunedNamespace key
      (fun earlier => key = profile.name ∧ settings.Applies earlier controller)
      (start.peek Profile key) := by
  by_cases own : key = profile.name
  · subst own
    rw [stored]
    cases referred with
    | kept profiles =>
      obtain ⟨under, allowed, _⟩ := profiles _ later found
      exact ⟨under, .kept profile rfl (List.mem_singleton.1 (allowed rfl))⟩
    | applied applies profiles =>
      obtain ⟨under, allowed, _⟩ := profiles _ later found
      rcases List.mem_cons.1 (allowed rfl) with same | generated
      · exact ⟨under, .kept profile rfl same⟩
      · exact ⟨under, .applied profile rfl ⟨rfl, applies⟩ (List.mem_singleton.1 generated)⟩
  · cases referred
    all_goals
      rename_i profiles
      obtain ⟨under, _, other⟩ := profiles key later found
      exact ⟨under, .kept later (other own) rfl⟩

/-- A pass changes the references of its own profile only, and only if it applies the components. -/
theorem references_reconcile {name key : String} {later : Profile}
    (profiles : controller.cluster.Profiles Profile.Under)
    (found : (controller.reconcile settings now name).2.cluster.peek Profile key = some later) :
    later.Under key ∧ later.Succeeds settings.tunedNamespace key
      (fun earlier => key = name ∧ settings.Applies earlier controller.counted)
      (controller.cluster.peek Profile key) := by
  rw [(Controller.reconcile_passed settings now name controller).2.1] at found
  obtain ⟨_, _, run⟩ | ⟨_, _, run⟩ | ⟨profile, read, run⟩ :=
    Controller.passed_cases settings now name controller
  · rw [run] at found
    exact ⟨profiles key later found, .kept later found rfl⟩
  · rw [run] at found
    exact ⟨profiles key later found, .kept later found rfl⟩
  · have stored := (Cluster.read_eq_ok_iff.1 read).2
    have named := profiles name profile stored
    obtain rfl : profile.name = name := named.name_eq
    have refers : controller.counted.cluster.Profiles
        (Profile.Refers controller.cluster profile.name [profile.references]) := by
      intro other existing there
      refine ⟨profiles other existing there, fun own => ?_, fun _ => there⟩
      subst own
      obtain rfl : profile = existing := Option.some.inj (stored.symm.trans there)
      exact List.mem_singleton.2 rfl
    have referred : Cluster.Referred settings controller.cluster controller.counted profile
        ((reconcileProfile settings now profile).run controller.counted).2.cluster :=
      referred_reconcileProfile named refers
    rw [run] at found
    exact referred.succeeds stored found

end References

section Histories
variable {tunedNamespace : String} {controller : Controller}

/-- A property of stored profiles that users keep when they edit profiles or delete them. -/
def Editable (property : String → Profile → Prop) : Prop :=
  ∀ key profile spec metadata, metadata.name = profile.metadata.name →
    metadata.inNamespace = profile.metadata.inNamespace → property key profile →
      property (storeKey profile) { profile with spec, metadata }

/-- The users leave the status of the profiles that they create to the controller. -/
def Occurrence.LeavesStatus : Occurrence → Prop
  | .createProfile _ profile => profile.status = none
  | _ => True

theorem profiles_undergo {property : String → Profile → Prop} {occurrence : Occurrence}
    (leaves : occurrence.LeavesStatus) (profiles : controller.cluster.Profiles property)
    (editable : Editable property)
    (created : ∀ key profile, controller.cluster.peek Profile key = none → profile.Under key →
      profile.status = none → property key profile)
    (passes : ∀ validate now name, occurrence = .pass validate now name →
      (controller.reconcile ⟨tunedNamespace, validate⟩ now name).2.cluster.Profiles property) :
    (controller.undergo tunedNamespace occurrence).cluster.Profiles property := by
  cases occurrence with
  | pass validate now name => exact passes validate now name rfl
  | failOn operation message => exact profiles.congr fun _ => rfl
  | clearFailures => exact profiles.congr fun _ => rfl
  | collectGarbage => exact profiles.congr fun _ => rfl
  | putPool pool => exact profiles.congr fun _ => rfl
  | createProfile name profile =>
    change (controller.cluster.createProfile name profile).Profiles property
    unfold Cluster.createProfile
    split
    · exact profiles
    · rename_i absent
      have under : Profile.Under name { profile with
          metadata := { profile.metadata with name := some name, inNamespace := none } } :=
        ⟨rfl, rfl⟩
      apply profiles.put
      rw [under.storeKey_eq]
      exact created name _ absent under leaves
  | editProfile name spec labels annotations =>
    change (controller.cluster.editProfile name spec labels annotations).Profiles property
    unfold Cluster.editProfile
    split
    · exact profiles
    · rename_i profile found
      exact profiles.put (editable name profile _ _ rfl rfl (profiles name profile found))
  | deleteProfile name time =>
    change (controller.cluster.deleteProfile name time).Profiles property
    unfold Cluster.deleteProfile
    split
    · exact profiles
    · rename_i profile found
      split
      · exact profiles.remove name
      · exact profiles.put (editable name profile _ _ rfl rfl (profiles name profile found))

theorem coherent_undergo {occurrence : Occurrence} (leaves : occurrence.LeavesStatus)
    (profiles : controller.cluster.Profiles fun _ => Profile.ReportsCoherently) :
    (controller.undergo tunedNamespace occurrence).cluster.Profiles
      fun _ => Profile.ReportsCoherently := by
  apply profiles_undergo leaves profiles
  · exact fun _ _ _ _ _ _ coherent => coherent
  · intro _ profile _ _ silent status known
    rw [silent] at known
    cases known
  · exact fun _ _ _ _ => coherent_reconcile profiles

/-- In one step of a history references are kept, unless it is a pass that applies components. -/
theorem references_undergo {occurrence : Occurrence} (leaves : occurrence.LeavesStatus)
    (profiles : controller.cluster.Profiles Profile.Under) :
    (controller.undergo tunedNamespace occurrence).cluster.Profiles fun key later =>
      later.Under key ∧ later.Succeeds tunedNamespace key
        (fun earlier => ∃ validate now, occurrence = .pass validate now key ∧
          Settings.Applies ⟨tunedNamespace, validate⟩ earlier controller.counted)
        (controller.cluster.peek Profile key) := by
  refine profiles_undergo leaves ?_ ?_ ?_ ?_
  · intro key profile found
    exact ⟨profiles key profile found, .kept profile found rfl⟩
  · rintro key profile spec metadata named unspaced ⟨under, succeeds⟩
    rw [under.storeKey_eq]
    exact ⟨⟨named.trans under.named, unspaced.trans under.unspaced⟩,
      succeeds.imp rfl fun _ => id⟩
  · intro key profile absent under silent
    exact ⟨under, .created absent (by simp [Profile.references, silent])⟩
  · intro validate now name same key later found
    obtain ⟨under, succeeds⟩ := references_reconcile profiles found
    refine ⟨under, succeeds.imp rfl ?_⟩
    rintro earlier ⟨rfl, applies⟩
    exact ⟨validate, now, same, applies⟩

/-- The profile is where it belongs, and refers to nothing or to what is generated for it. -/
structure Profile.Referring (tunedNamespace key : String) (profile : Profile) : Prop where
  under : profile.Under key
  references : profile.references = (none, none) ∨
    profile.references = generatedReferences tunedNamespace key

theorem referring_undergo {occurrence : Occurrence} (leaves : occurrence.LeavesStatus)
    (profiles : controller.cluster.Profiles (Profile.Referring tunedNamespace)) :
    (controller.undergo tunedNamespace occurrence).cluster.Profiles
      (Profile.Referring tunedNamespace) := by
  intro key later found
  obtain ⟨under, succeeds⟩ :=
    references_undergo leaves (profiles.imp fun _ _ => Profile.Referring.under) key later found
  refine ⟨under, ?_⟩
  cases succeeds with
  | created _ none => exact .inl none
  | kept earlier there same => exact same ▸ (profiles key earlier there).references
  | applied _ _ _ generated => exact .inr generated

end Histories

/-- Start from profiles without a status, and let users leave the status to the controller. Whatever
happens then, and in whatever order, the conditions of every stored status fit together. If each
profile sits under its own name, then its references are missing or those to its generated objects.
They get set only in a pass over the profile that has applied its components, and they stay set
while the profile is stored. -/
theorem statuses_sound (tunedNamespace : String) (start : Controller)
    (silent : start.cluster.Profiles fun _ profile => profile.status = none)
    (history : List Occurrence) (leaves : ∀ occurrence ∈ history, occurrence.LeavesStatus) :
    let reached := start.after tunedNamespace history
    let generated := generatedReferences tunedNamespace
    (∀ key profile status, reached.cluster.peek Profile key = some profile →
      profile.status = some status → Coherent status.conditions) ∧
    (start.cluster.Profiles Profile.Under →
      (∀ name profile, reached.cluster.peek Profile name = some profile →
        profile.references = (none, none) ∨ profile.references = generated name) ∧
      ∀ occurrence name later, occurrence.LeavesStatus →
        (reached.undergo tunedNamespace occurrence).cluster.peek Profile name = some later →
        (∀ profile, reached.cluster.peek Profile name = some profile →
          profile.references = generated name → later.references = generated name) ∧
        (later.references = generated name → ∃ profile,
          reached.cluster.peek Profile name = some profile ∧
          (profile.references = generated name ∨ ∃ validate now,
            occurrence = .pass validate now name ∧
            Settings.Applies ⟨tunedNamespace, validate⟩ profile reached.counted))) := by
  intro reached generated
  constructor
  · have step : ∀ controller : Controller, ∀ occurrence ∈ history,
        controller.cluster.Profiles (fun _ => Profile.ReportsCoherently) →
        (controller.undergo tunedNamespace occurrence).cluster.Profiles
          fun _ => Profile.ReportsCoherently :=
      fun _ occurrence member => coherent_undergo (leaves occurrence member)
    have coherent := Controller.holds_after step (silent.imp fun _ profile none status known => by
      rw [none] at known
      cases known)
    exact fun key profile status found => coherent key profile found status
  · intro under
    have step : ∀ controller : Controller, ∀ occurrence ∈ history,
        controller.cluster.Profiles (Profile.Referring tunedNamespace) →
        (controller.undergo tunedNamespace occurrence).cluster.Profiles
          (Profile.Referring tunedNamespace) :=
      fun _ occurrence member => referring_undergo (leaves occurrence member)
    have referring : reached.cluster.Profiles (Profile.Referring tunedNamespace) := by
      apply Controller.holds_after step
      intro key profile found
      have none : profile.status = none := silent key profile found
      exact ⟨under key profile found, .inl (by simp [Profile.references, none])⟩
    refine ⟨fun name profile found => (referring name profile found).references, ?_⟩
    intro occurrence name later leaves found
    obtain ⟨_, succeeds⟩ := references_undergo leaves
      (referring.imp fun _ _ => Profile.Referring.under) name later found
    exact ⟨fun _ there set => succeeds.stays there set, succeeds.origin⟩

/-- A pass that rolls the small profile out, and a request for its deletion. -/
def rolledOutAndDeleted : List Occurrence :=
  [.pass (fun _ => .ok ()) default "small", .deleteProfile "small" default]

theorem statuses_sound_rolledOutAndDeleted :
    let start : Controller := { cluster := Cluster.put {} smallProfile }
    let reached := start.after "tuning" rolledOutAndDeleted
    start.cluster.Profiles (fun _ profile => profile.status = none) ∧
    (∀ occurrence ∈ rolledOutAndDeleted, occurrence.LeavesStatus) ∧
    start.cluster.Profiles Profile.Under ∧
    ∃ profile status, reached.cluster.peek Profile "small" = some profile ∧
      profile.status = some status ∧ Coherent status.conditions ∧
      profile.references = generatedReferences "tuning" "small" := by
  intro start reached
  have empty : ∀ property, Cluster.Profiles property {} := fun _ key profile found => by cases found
  have silent : start.cluster.Profiles fun _ profile => profile.status = none := (empty _).put rfl
  have leaves : ∀ occurrence ∈ rolledOutAndDeleted, occurrence.LeavesStatus := by
    simp [rolledOutAndDeleted, Occurrence.LeavesStatus]
  have under : start.cluster.Profiles Profile.Under := (empty _).put ⟨rfl, rfl⟩
  obtain ⟨coherent, referring⟩ :=
    statuses_sound "tuning" start silent rolledOutAndDeleted leaves
  have shown : (((reached.cluster.peek Profile "small").bind (·.status)).bind (·.tuned)).isSome := by
    decide +kernel
  cases found : reached.cluster.peek Profile "small" with
  | none => simp [found] at shown
  | some profile =>
    cases known : profile.status with
    | none => simp [found, known] at shown
    | some status =>
      refine ⟨silent, leaves, under, profile, status, rfl, known,
        coherent "small" profile status found known, ?_⟩
      rcases (referring under).1 "small" profile found with none | generated
      · simp [found, known, Profile.references] at shown none
        simp [none] at shown
      · exact generated

end NodeTuning
