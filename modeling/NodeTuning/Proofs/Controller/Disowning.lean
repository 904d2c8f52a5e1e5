import NodeTuning.Proofs.Controller.Territory

/-!
Tuned objects that are named for a profile and that another profile does not own. Main statement: a
pass gives its profile no tuned object that is named for another one.
-/
namespace NodeTuning
open Stored Steps Cluster.Action

/-- If the object is named for the profile, then no owner of it has the uid. -/
def Tuned.Disowns (tuned : Tuned) (name uid : String) : Prop :=
  Resource.displayName tuned = tunedName name → ∀ owner ∈ Resource.owners tuned, owner.uid ≠ uid

theorem Tuned.Disowns.congr {tuned other : Tuned} {name uid : String}
    (disowns : tuned.Disowns name uid)
    (shown : Resource.displayName other = Resource.displayName tuned)
    (owners : Resource.owners other = Resource.owners tuned) : other.Disowns name uid := by
  intro named owner member
  rw [shown] at named
  rw [owners] at member
  exact disowns named owner member

def Cluster.Disowns (name uid : String) (cluster : Cluster) : Prop :=
  ∀ key tuned, cluster.peek Tuned key = some tuned → tuned.Disowns name uid

section Kept
variable {name uid tunedNamespace : String} {profile : Profile}

theorem Cluster.Disowns.within {footprint : Footprint} {before after : Cluster}
    (disowns : before.Disowns name uid) (within : before.Within footprint after)
    (unwritten : ∀ key, ¬ footprint.writes (.tuned, key)) : after.Disowns name uid := by
  intro key tuned found
  have object : after.peekAny .tuned key = some (.tuned tuned) := by simp [Cluster.peekAny, found]
  obtain ⟨old, stored, same⟩ := within.metadata_eq (unwritten key) object
  obtain ⟨earlier, peeked, rfl⟩ := Option.map_eq_some_iff.1 stored
  have metadata : earlier.metadata = tuned.metadata := same
  apply (disowns key earlier peeked).congr
  · simp [Resource.displayName, Resource.metadata, metadata]
  · simp [Resource.owners, Resource.metadata, metadata]

theorem Cluster.Disowns.put {cluster : Cluster} {tuned : Tuned} (disowns : cluster.Disowns name uid)
    (own : tuned.Disowns name uid) (verb : Verb) (kind : Kind) (key : String) :
    ((cluster.put tuned).record verb kind key).Disowns name uid := by
  intro other stored found
  rw [Cluster.peek_record, Cluster.peek_put] at found
  split at found
  · cases found
    exact own
  · exact disowns other stored found

theorem Cluster.Disowns.not_outdated {cluster : Cluster} {kinds : Kind → Prop}
    (orderly : cluster.Orderly kinds) (managed : kinds .tuned)
    (disowns : ∀ uid, profile.metadata.uid = some uid → cluster.Disowns name uid) :
    ¬ cluster.Outdated tunedNamespace profile (.tuned, tunedKey tunedNamespace name) := by
  rintro ⟨_, uid, tuned, identified, found, spaced, outdated⟩
  have own := keyIn_displayName (orderly.peek managed found) spaced
  have shown : Resource.displayName tuned = tunedName name := keyIn_inj.1 own
  simp only [isOutdated, Bool.and_eq_true, List.any_eq_true, decide_eq_true_eq] at outdated
  obtain ⟨⟨owner, member, same⟩, _⟩ := outdated
  exact disowns uid identified _ tuned found shown owner member same

theorem preservesDisowns_of_within {ε α : Type} {footprint : Footprint} {steps : Steps ε Cluster α}
    (keeps : Keeps (Cluster.Within footprint) steps)
    (unwritten : ∀ key, ¬ footprint.writes (.tuned, key)) :
    Keeps (Preserving (Cluster.Disowns name uid)) steps :=
  fun start disowns => disowns.within (keeps start) unwritten

theorem preservesDisowns_ensureDeleted {K : Type} [Stored K] [Lawful K] (key : String) :
    Keeps (Preserving (Cluster.Disowns name uid)) (ensureDeleted K key) := by
  have removes : Keeps (Cluster.Within { removes := fun _ => True }) (ensureDeleted K key) :=
    keeps_ensureDeleted trivial
  exact preservesDisowns_of_within removes fun _ => id

theorem preservesDisowns_create {tuned : Tuned} (own : tuned.Disowns name uid) :
    Keeps (Preserving (Cluster.Disowns name uid)) (ofWrite (Cluster.create · tuned)) := by
  apply keeps_ofWrite
  intro cluster created after ok disowns
  obtain ⟨_, _, rfl, rfl⟩ := Cluster.create_eq_ok_iff.1 ok
  have counted : (cluster.countUid tuned).Disowns name uid := by
    intro key stored found
    rw [Cluster.peek_congr (Cluster.peekAny_countUid ..)] at found
    exact disowns key stored found
  have created : (cluster.asCreated tuned).Disowns name uid := own.congr rfl rfl
  exact counted.put created _ _ _

theorem preservesDisowns_update {tuned : Tuned} (own : tuned.Disowns name uid) :
    Keeps (Preserving (Cluster.Disowns name uid)) (ofWrite (Cluster.update · tuned)) := by
  apply keeps_ofWrite
  intro cluster updated after ok disowns
  obtain ⟨_, existing, _, rfl, rfl⟩ := Cluster.update_eq_ok_iff.1 ok
  have updated : (Cluster.asUpdated existing tuned).Disowns name uid := own.congr rfl rfl
  exact disowns.put updated _ _ _

theorem merged_disowns {existing desired : Tuned} (disowns : existing.Disowns name uid) :
    (merged existing desired).Disowns name uid :=
  disowns.congr rfl rfl

theorem owners_of_tuned {object : Tuned} (derived : profile.tuned tunedNamespace = .ok object) :
    ∃ owner, Resource.owners object = [owner] ∧ profile.metadata.uid = some owner.uid := by
  simp only [Profile.tuned, except_bind_eq_ok_iff] at derived
  obtain ⟨_, _, _, _, owner, owned, done⟩ := derived
  cases done
  refine ⟨owner, rfl, ?_⟩
  unfold Profile.ownerReference at owned
  split at owned
  · rename_i identified
    cases owned
    exact identified
  · cases owned

theorem preservesDisowns_perform {cluster : Cluster} {desired : Tuned} {key : String}
    (disowns : cluster.Disowns name uid) (own : desired.Disowns name uid) :
    Keeps (Pass.Clusters (Preserving (Cluster.Disowns name uid)))
      (Write.plan (cluster.peek Tuned key) desired).perform := by
  apply Write.keeps_perform
  · intro object planned
    obtain ⟨_, rfl⟩ := Write.plan_eq_create planned
    exact preservesDisowns_create own
  · intro object planned
    obtain ⟨existing, found, rfl⟩ := Write.plan_eq_update planned
    exact preservesDisowns_update (merged_disowns (disowns key existing found))

end Kept

section Passes
variable {settings : Settings} {now : Timestamp} {profile : Profile} {name uid : String}

theorem preservesDisowns_applyComponents (stranger : profile.metadata.uid ≠ some uid) :
    Keeps (Pass.Clusters (Preserving (Cluster.Disowns name uid)))
      (applyComponents settings profile) := by
  let Guard := Guarded (Cluster.Disowns name uid) (Preserving (Cluster.Disowns name uid))
  have guarded : Keeps (Pass.Clusters Guard) (applyComponents settings profile) := by
    have strengthen : ∀ {α : Type} {steps : Pass α},
        Keeps (Pass.Clusters (Preserving (Cluster.Disowns name uid))) steps →
        Keeps (Pass.Clusters Guard) steps :=
      fun keeps start disowns => ⟨keeps start disowns, keeps start⟩
    apply keeps_applyComponents
    · intro components cluster derived disowns
      -- The tuned object that is written has one owner, the profile of the pass.
      obtain ⟨owner, owners, identified⟩ :=
        owners_of_tuned (Profile.components_eq_ok_iff.1 derived).2.2.1
      have own : components.tuned.Disowns name uid := by
        intro _ other member same
        rw [owners, List.mem_singleton] at member
        subst member
        rw [identified, same] at stranger
        exact stranger rfl
      have elsewhere : ∀ {K : Type} [Component K] [Lawful K] (write : Write K),
          Resource.kind K ≠ .tuned →
          Keeps (Pass.Clusters (Preserving (Cluster.Disowns name uid))) write.perform := by
        intro K _ _ write other
        have apart : ∀ key, ¬ Footprint.writes { writes := (·.1 = Resource.kind K) }
            (.tuned, key) := fun key same => other same.symm
        exact Write.keeps_perform
          (fun object _ => preservesDisowns_of_within (keeps_create object rfl) apart)
          fun object _ => preservesDisowns_of_within (keeps_update object rfl) apart
      constructor
      · exact strengthen (elsewhere _ (by decide))
      · exact strengthen (elsewhere _ (by decide))
      · exact strengthen (preservesDisowns_perform disowns own)
      · exact strengthen (elsewhere _ (by decide))
    · have sweeps : Keeps (Preserving (Cluster.Disowns name uid))
          (sweepTuned profile settings.tunedNamespace (tunedName profile.name)) :=
        keeps_sweepTuned _ _ _ fun key => preservesDisowns_ensureDeleted key
      exact fun start disowns => ⟨sweeps start disowns, sweeps start⟩
  intro start disowns
  exact (guarded start disowns).1

/-- A pass makes a tuned object that is named for another profile no object of its own one. -/
theorem preservesDisowns_reconcileProfile (stranger : profile.metadata.uid ≠ some uid) :
    Keeps (Pass.Clusters (Preserving (Cluster.Disowns name uid)))
      (reconcileProfile settings now profile) := by
  have profiles : ∀ key, ¬ Footprint.writes { writes := (·.1 = .performanceProfile)
                                              reports := fun _ => True } (.tuned, key) := by
    intro key impossible
    cases impossible
  apply keeps_reconcileProfile
  · exact fun _ _ => preservesDisowns_applyComponents stranger
  · exact keeps_deleteComponents _ _ fun K _ _ key _ => preservesDisowns_ensureDeleted key
  · exact fun finalizers => preservesDisowns_of_within (keeps_updateProfile _ rfl rfl) profiles
  · exact fun _ _ _ => preservesDisowns_of_within
      (keeps_patchStatus _ _ (fun _ => rfl) trivial) profiles

theorem disowns_reconcile {controller : Controller}
    (found : controller.cluster.peek Profile profile.name = some profile)
    (stranger : profile.metadata.uid ≠ some uid) (disowns : controller.cluster.Disowns name uid) :
    (controller.reconcile settings now profile.name).2.cluster.Disowns name uid := by
  have passed : Pass.Clusters (Preserving (Cluster.Disowns name uid)) controller
      (controller.passed settings now profile.name).2 :=
    Controller.tracked_passed found (preservesDisowns_reconcileProfile stranger)
  rw [(Controller.reconcile_passed settings now profile.name controller).2.1]
  exact passed disowns

end Passes
end NodeTuning
