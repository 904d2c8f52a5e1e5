import NodeTuning.Proofs.Controller.Disowning
import NodeTuning.Proofs.Controller.Lockstep

/-!
Passes over two profiles one after the other. Main statement: if neither profile owns the tuned
object that is named for the other one, then it does not matter which pass comes first, but for the
uids of what was created and the times of conditions.
-/
namespace NodeTuning
open Steps Cluster.Action

namespace Cluster

/-- A stored profile beside another one that does not own what is named for it. -/
structure Separate (cluster : Cluster) (profile other : Profile) : Prop where
  stored : cluster.peek Profile profile.name = some profile
  unspaced : profile.metadata.inNamespace = none
  name : profile.name ≠ other.name
  uid : profile.metadata.uid ≠ other.metadata.uid
  disowned : ∀ uid, other.metadata.uid = some uid → cluster.Disowns profile.name uid

/-- An object without the times of its conditions, and without its uid if it is new. -/
def blur (start : Cluster) (place : Place) (object : AnyObject) : AnyObject :=
  if start.holds place then object.timeless else object.timeless.anonymous

/-- What has come of a place is the same but for times and new uids. -/
structure Resembles (start one two : Cluster) (place : Place) : Prop where
  object : (one.peekAny place.1 place.2).map (start.blur place) =
    (two.peekAny place.1 place.2).map (start.blur place)
  mark : place ∈ one.terminating ↔ place ∈ two.terminating

namespace Resembles
variable {start one two three : Cluster} {place : Place}

theorem symm (resembles : start.Resembles one two place) : start.Resembles two one place :=
  ⟨resembles.object.symm, resembles.mark.symm⟩

theorem trans (first : start.Resembles one two place) (second : start.Resembles two three place) :
    start.Resembles one three place :=
  ⟨first.object.trans second.object, first.mark.trans second.mark⟩

theorem of_unmoved (unmoved : one.Unmoved two place) : start.Resembles one two place :=
  ⟨by rw [unmoved.object], unmoved.mark.symm⟩

end Resembles

section Discarded
variable {before middle one two : Cluster} {place : Place}

/-- What has been discarded once does not change any more when it is discarded again. -/
theorem Discarded.unmoved (discarded : before.Discarded middle place)
    (same : middle.deferredDeletion = before.deferredDeletion)
    (spared : middle.Unmoved one place ∨ middle.Discarded one place) :
    middle.Unmoved one place := by
  rcases spared with unmoved | again
  · exact unmoved
  cases deletion : before.deferredDeletion with
  | false =>
    obtain ⟨gone, _⟩ := discarded.immediate deletion
    obtain ⟨still, mark⟩ := again.immediate (same.trans deletion)
    exact ⟨still.trans gone.symm, mark⟩
  | true =>
    obtain ⟨_, marked⟩ := discarded.deferred deletion
    obtain ⟨object, still⟩ := again.deferred (same.trans deletion)
    exact ⟨object, ⟨fun _ => marked, fun _ => still⟩⟩

theorem Discarded.resembles (first : before.Discarded one place)
    (second : before.Discarded two place) : before.Resembles one two place := by
  cases deletion : before.deferredDeletion with
  | false =>
    obtain ⟨gone, mark⟩ := first.immediate deletion
    obtain ⟨gone', mark'⟩ := second.immediate deletion
    exact ⟨by rw [gone, gone'], mark.trans mark'.symm⟩
  | true =>
    obtain ⟨object, marked⟩ := first.deferred deletion
    obtain ⟨object', marked'⟩ := second.deferred deletion
    exact ⟨by rw [object, object'], ⟨fun _ => marked', fun _ => marked⟩⟩

/-- Two pieces of work in either order, at a place where each of them may only discard what is
there, and where each does the same after the other one if that has left the place alone. -/
theorem resembles_of_spared {start both both' : Cluster}
    (deletion : one.deferredDeletion = start.deferredDeletion)
    (deletion' : two.deferredDeletion = start.deferredDeletion)
    (spared : start.Unmoved one place ∨ start.Discarded one place)
    (spared' : start.Unmoved two place ∨ start.Discarded two place)
    (later : one.Unmoved both place ∨ one.Discarded both place)
    (later' : two.Unmoved both' place ∨ two.Discarded both' place)
    (same : start.Unmoved two place → start.Resembles one both' place)
    (same' : start.Unmoved one place → start.Resembles two both place) :
    start.Resembles both both' place := by
  rcases spared with unmoved | discarded
  · have reached := (same' unmoved).symm
    rcases spared' with unmoved' | discarded'
    · have back : start.Resembles two one place :=
        (Resembles.of_unmoved unmoved').symm.trans (.of_unmoved unmoved)
      exact reached.trans (back.trans (same unmoved'))
    · exact reached.trans (.of_unmoved (discarded'.unmoved deletion' later'))
  · have kept : start.Resembles both one place :=
      (Resembles.of_unmoved (discarded.unmoved deletion later)).symm
    rcases spared' with unmoved' | discarded'
    · exact kept.trans (same unmoved')
    · have kept' : start.Resembles two both' place :=
        .of_unmoved (discarded'.unmoved deletion' later')
      exact kept.trans ((discarded.resembles discarded').trans kept')

end Discarded

/-- Nothing has happened at the places of a profile. -/
structure Leaves (tunedNamespace name : String) (before after : Cluster) : Prop where
  unmoved : ∀ place ∈ profilePlaces tunedNamespace name, before.Unmoved after place
  calls :
    (after.calls.filter fun call => (call.kind, call.key) ∈ profilePlaces tunedNamespace name) =
      before.calls.filter fun call => (call.kind, call.key) ∈ profilePlaces tunedNamespace name

end Cluster

namespace Controller.OnlyFor

theorem filter_events {name other : String} {before after : Controller}
    (only : before.OnlyFor name after) (different : other ≠ name) :
    (after.events.filter fun event => event.profile = other) =
      before.events.filter fun event => event.profile = other := by
  obtain ⟨more, told, own⟩ := only.events
  have none : (more.filter fun event => event.profile = other) = [] := by
    rw [List.filter_eq_nil_iff]
    intro event member same
    have here : event.profile = other := by simpa using same
    exact different (here.symm.trans (own event member))
  rw [told, List.filter_append, none, List.append_nil]

end Controller.OnlyFor

section Passes
variable {settings : Settings} {now : Timestamp} {controller : Controller} {profile : Profile}

theorem spared_reconcile (orderly : controller.cluster.Orderly fun _ => True)
    (found : controller.cluster.peek Profile profile.name = some profile)
    (unspaced : profile.metadata.inNamespace = none) {place : Place}
    (apart : place ∉ profilePlaces settings.tunedNamespace profile.name) :
    let after := (controller.reconcile settings now profile.name).2
    controller.cluster.Unmoved after.cluster place ∨
      controller.cluster.Discarded after.cluster place := by
  obtain ⟨confined, discards⟩ := confined_reconcile settings now orderly found unspaced
  obtain unmoved | ⟨_, _, discarded⟩ := confined.spares discards orderly apart
  · exact .inl unmoved
  · exact .inr discarded

/-- A pass leaves the places of a profile alone that disowns the pass's own one. -/
theorem leaves_reconcile (orderly : controller.cluster.Orderly fun _ => True)
    (found : controller.cluster.peek Profile profile.name = some profile)
    (unspaced : profile.metadata.inNamespace = none) {name : String} (apart : name ≠ profile.name)
    (disowned : ∀ uid, profile.metadata.uid = some uid → controller.cluster.Disowns name uid) :
    controller.cluster.Leaves settings.tunedNamespace name
      (controller.reconcile settings now profile.name).2.cluster := by
  obtain ⟨confined, discards⟩ := confined_reconcile settings now orderly found unspaced
  have foreign : ∀ place ∈ profilePlaces settings.tunedNamespace name,
      place ∉ profilePlaces settings.tunedNamespace profile.name :=
    fun place own member => apart (eq_of_mem_profilePlaces own member)
  have spared : ∀ place ∈ profilePlaces settings.tunedNamespace name,
      ¬ controller.cluster.Outdated settings.tunedNamespace profile place := by
    intro place own outdated
    obtain rfl := tuned_of_mem_profilePlaces own outdated.1
    exact Cluster.Disowns.not_outdated orderly trivial disowned outdated
  constructor
  · intro place own
    obtain unmoved | ⟨outdated, _⟩ := confined.spares discards orderly (foreign place own)
    · exact unmoved
    · exact absurd outdated (spared place own)
  · obtain ⟨more, logged, permitted⟩ := (confined orderly).2.calls
    have none : (more.filter fun call =>
        (call.kind, call.key) ∈ profilePlaces settings.tunedNamespace name) = [] := by
      rw [List.filter_eq_nil_iff]
      intro call member own
      have here : (call.kind, call.key) ∈ profilePlaces settings.tunedNamespace name := by
        simpa using own
      rcases Footprint.touches_of_permits (permitted call member) with
        (component | ⟨_, isProfile⟩) | isProfile | component | ⟨outdated, _⟩
      · exact foreign _ here (List.mem_cons_of_mem _ component)
      · exact foreign _ here (List.mem_cons.2 (.inl isProfile))
      · exact foreign _ here (List.mem_cons.2 (.inl isProfile))
      · exact foreign _ here (List.mem_cons_of_mem _ component)
      · exact spared _ here outdated
    rw [logged, List.filter_append, none, List.append_nil]

end Passes

/-- What a profile sees that is the same before and after other work. -/
def Sight.across (settings : Settings) (profile : Profile) (before after : Cluster) : Sight where
  settings
  profile
  others := before.Unmoved after
  fresh place := !before.holds place

theorem Sight.blur_across (settings : Settings) (profile : Profile) (before after : Cluster)
    (place : Place) : (Sight.across settings profile before after).blur true place =
      before.blur place := by
  funext object
  unfold Sight.blur Cluster.blur Sight.across
  cases held : before.holds place <;> simp [held]

theorem Sight.Abreast.resembles {settings : Settings} {profile : Profile} {start after : Cluster}
    {one two : Controller} {place : Place}
    (abreast : (Sight.across settings profile start after).Abreast true one two)
    (seen : (Sight.across settings profile start after).Sees place) :
    start.Resembles one.cluster two.cluster place := by
  have object := abreast.cluster.objects place seen
  rw [Sight.blur_across] at object
  exact ⟨object, abreast.cluster.marks place seen⟩

section Pair
variable {settings : Settings} {controller : Controller} {profile other : Profile}

/-- To a profile the cluster looks the same after a pass over a separate one. -/
theorem alike_across (now : Timestamp) (orderly : controller.cluster.Orderly fun _ => True)
    (one : controller.cluster.Separate profile other)
    (two : controller.cluster.Separate other profile) :
    let after := (controller.reconcile settings now other.name).2
    Cluster.Alike (.across settings profile controller.cluster after.cluster) false
      controller.cluster after.cluster := by
  intro after
  obtain ⟨confined, discards⟩ := confined_reconcile settings now orderly two.stored two.unspaced
  obtain ⟨orderlyAfter, within⟩ := confined orderly
  have leaves : controller.cluster.Leaves settings.tunedNamespace profile.name after.cluster :=
    leaves_reconcile orderly two.stored two.unspaced one.name one.disowned
  have unmoved : ∀ place, (Sight.across settings profile controller.cluster after.cluster).Sees
      place → controller.cluster.Unmoved after.cluster place :=
    fun place seen => seen.elim (leaves.unmoved place) id
  -- What is outdated for the profile is none of the other one's own objects.
  have foreign : ∀ (cluster : Cluster) (place : Place), cluster.Orderly (fun _ => True) →
      (∀ uid, profile.metadata.uid = some uid → cluster.Disowns other.name uid) →
      cluster.Outdated settings.tunedNamespace profile place →
      place ∉ profilePlaces settings.tunedNamespace other.name := by
    intro cluster place tidy disowned outdated own
    obtain rfl := tuned_of_mem_profilePlaces own outdated.1
    exact Cluster.Disowns.not_outdated tidy trivial disowned outdated
  have disowned : ∀ uid, profile.metadata.uid = some uid →
      after.cluster.Disowns other.name uid := by
    intro uid identified
    have stranger : other.metadata.uid ≠ some uid :=
      fun same => one.uid (identified.trans same.symm)
    exact disowns_reconcile two.stored stranger (two.disowned uid identified)
  refine ⟨orderly, orderlyAfter, ?_, ?_, ?_, within.failures.symm, within.deferredDeletion.symm, ?_,
    ?_⟩
  · intro place seen
    rw [(unmoved place seen).object]
  · exact fun place seen => (unmoved place seen).mark.symm
  · have apart : ∀ key, (Kind.machineConfigPool, key) ∉
        profilePlaces settings.tunedNamespace other.name := by
      intro key own
      simp [profilePlaces, componentPlaces] at own
    refine (Cluster.pools_of_peekAny fun key => ?_).symm
    obtain still | ⟨outdated, _⟩ := confined.spares discards orderly (apart key)
    · exact still.object
    · cases outdated.1
  · exact leaves.calls.symm
  · intro blocked
    have spared : ∀ place, place ∉ profilePlaces settings.tunedNamespace other.name →
        controller.cluster.Unmoved after.cluster place := by
      intro place apart
      obtain still | ⟨_, allowed, _⟩ := confined.spares discards orderly apart
      · exact still
      · exact absurd allowed blocked
    constructor
    · rintro ⟨place, outdated⟩
      have apart := foreign controller.cluster place orderly two.disowned outdated
      exact ⟨place, outdated.congr (spared place apart).object⟩
    · rintro ⟨place, outdated⟩
      have apart := foreign after.cluster place orderlyAfter disowned outdated
      exact ⟨place, outdated.congr (spared place apart).object.symm⟩

theorem lockstep_across (settings : Settings) (orderly : controller.cluster.Orderly fun _ => True)
    (one : controller.cluster.Separate profile other)
    (two : controller.cluster.Separate other profile) (now next later : Timestamp) :
    let alone := controller.reconcile settings now profile.name
    let after := (controller.reconcile settings next other.name).2
    let joined := after.reconcile settings later profile.name
    alone.1 = joined.1 ∧
      (Sight.across settings profile controller.cluster after.cluster).Abreast true alone.2
        joined.2 := by
  intro alone after joined
  have only : controller.OnlyFor other.name after := Controller.onlyFor_reconcile two.stored rfl
  have abreast : (Sight.across settings profile controller.cluster after.cluster).Abreast false
      controller after :=
    ⟨alike_across next orderly one two, (only.filter_events one.name).symm,
      (only.retries profile.name one.name).symm⟩
  exact lockstep_reconcile abreast (fun _ _ => rfl) one.stored one.unspaced now later

/-- A later pass over a separate profile leaves alone what a pass has done for its own one. -/
theorem leaves_across (settings : Settings) (orderly : controller.cluster.Orderly fun _ => True)
    (one : controller.cluster.Separate profile other)
    (two : controller.cluster.Separate other profile) (now later : Timestamp) :
    let alone := (controller.reconcile settings now profile.name).2
    let both := (alone.reconcile settings later other.name).2
    alone.cluster.Orderly (fun _ => True) ∧
      alone.cluster.peek Profile other.name = some other ∧
      alone.cluster.deferredDeletion = controller.cluster.deferredDeletion ∧
      alone.cluster.Leaves settings.tunedNamespace profile.name both.cluster ∧
      alone.OnlyFor other.name both := by
  intro alone both
  obtain ⟨confined, discards⟩ := confined_reconcile settings now orderly one.stored one.unspaced
  have tidy := (confined orderly).1
  have leaves : controller.cluster.Leaves settings.tunedNamespace other.name alone.cluster :=
    leaves_reconcile orderly one.stored one.unspaced two.name two.disowned
  have found : alone.cluster.peek Profile other.name = some other := by
    have still := leaves.unmoved (.performanceProfile, other.name) (List.mem_cons_self ..)
    exact (Cluster.peek_congr still.object).trans two.stored
  have disowned : ∀ uid, other.metadata.uid = some uid →
      alone.cluster.Disowns profile.name uid := by
    intro uid identified
    have stranger : profile.metadata.uid ≠ some uid :=
      fun same => one.uid (same.trans identified.symm)
    exact disowns_reconcile one.stored stranger (one.disowned uid identified)
  exact ⟨tidy, found, discards.deferredDeletion,
    leaves_reconcile tidy found two.unspaced one.name disowned,
    Controller.onlyFor_reconcile found rfl⟩

end Pair

/-- Two controllers that have the same to show since they started from one, but for the uids of new
objects and the times of conditions. Of the logs each profile's own writes are compared. -/
structure Controller.Agree (start : Cluster) (tunedNamespace : String) (names : List String)
    (one two : Controller) : Prop where
  objects : ∀ place, start.Resembles one.cluster two.cluster place
  calls : ∀ name ∈ names, (one.cluster.calls.filter fun call =>
      (call.kind, call.key) ∈ profilePlaces tunedNamespace name) =
    two.cluster.calls.filter fun call => (call.kind, call.key) ∈ profilePlaces tunedNamespace name
  events : ∀ name, (one.events.filter fun event => event.profile = name) =
    two.events.filter fun event => event.profile = name
  retries : one.retries = two.retries

/-- Whichever of two separate profiles is passed over first, both passes come to the same results,
tell and write the same for their own profile, and leave the same objects, marks and delays. -/
theorem reconcile_commutes (settings : Settings) (controller : Controller) (first second : Profile)
    (now next now' next' : Timestamp) (orderly : controller.cluster.Orderly fun _ => True)
    (one : controller.cluster.Separate first second)
    (two : controller.cluster.Separate second first) :
    let alone := controller.reconcile settings now first.name
    let both := alone.2.reconcile settings next second.name
    let alone' := controller.reconcile settings now' second.name
    let both' := alone'.2.reconcile settings next' first.name
    alone.1 = both'.1 ∧ both.1 = alone'.1 ∧
      both.2.Agree controller.cluster settings.tunedNamespace [first.name, second.name]
        both'.2 := by
  intro alone both alone' both'
  obtain ⟨result, step⟩ := lockstep_across settings orderly one two now now' next'
  obtain ⟨result', step'⟩ := lockstep_across settings orderly two one now' now next
  obtain ⟨tidy, found, deletion, leaves, only⟩ :=
    leaves_across settings orderly one two now next
  obtain ⟨tidy', found', deletion', leaves', only'⟩ :=
    leaves_across settings orderly two one now' next'
  have start : controller.OnlyFor first.name alone.2 := Controller.onlyFor_reconcile one.stored rfl
  have start' : controller.OnlyFor second.name alone'.2 :=
    Controller.onlyFor_reconcile two.stored rfl
  refine ⟨result, result'.symm, ?_, ?_, ?_, ?_⟩
  · -- Each profile's own places are left alone by the other pass; elsewhere both may only discard.
    intro place
    by_cases own : place ∈ profilePlaces settings.tunedNamespace first.name
    · have kept : controller.cluster.Resembles alone.2.cluster both.2.cluster place :=
        .of_unmoved (leaves.unmoved place own)
      exact kept.symm.trans (step.resembles (.inl own))
    by_cases own' : place ∈ profilePlaces settings.tunedNamespace second.name
    · have kept : controller.cluster.Resembles alone'.2.cluster both'.2.cluster place :=
        .of_unmoved (leaves'.unmoved place own')
      exact (step'.resembles (.inl own')).symm.trans kept
    · exact Cluster.resembles_of_spared deletion deletion'
        (spared_reconcile orderly one.stored one.unspaced own)
        (spared_reconcile orderly two.stored two.unspaced own')
        (spared_reconcile tidy found two.unspaced own')
        (spared_reconcile tidy' found' one.unspaced own)
        (fun unmoved => step.resembles (.inr unmoved))
        fun unmoved => step'.resembles (.inr unmoved)
  · intro name member
    rcases List.mem_pair.1 member with rfl | rfl
    · exact leaves.calls.trans step.cluster.calls
    · exact (leaves'.calls.trans step'.cluster.calls).symm
  · intro name
    by_cases own : name = first.name
    · subst own
      exact (only.filter_events one.name).trans step.events
    by_cases own' : name = second.name
    · subst own'
      exact ((only'.filter_events two.name).trans step'.events).symm
    · rw [only.filter_events own', start.filter_events own, only'.filter_events own,
        start'.filter_events own']
  · apply SortedMap.ext_find?
    intro name
    by_cases own : name = first.name
    · subst own
      exact (only.retries _ one.name).trans step.retry
    by_cases own' : name = second.name
    · subst own'
      exact ((only'.retries _ two.name).trans step'.retry).symm
    · rw [only.retries name own', start.retries name own, only'.retries name own,
        start'.retries name own']

def largeProfile : Profile :=
  { smallProfile with
    metadata := { smallProfile.metadata with name := some "large", uid := some "2" } }

/-- Two profiles and a tuned object that one of them owns under an old name. -/
def shared : Cluster := renamed.put largeProfile

theorem reconcile_commutes_shared :
    let controller : Controller := { cluster := shared }
    let first := (controller.reconcile {} default "small").2
    let second := (controller.reconcile {} default "large").2
    shared.Separate smallProfile largeProfile ∧ shared.Separate largeProfile smallProfile ∧
      (first.reconcile {} default "large").2.Agree shared Config.defaultTunedNamespace
        ["small", "large"] (second.reconcile {} default "small").2 := by
  intro controller first second
  have orderly : shared.Orderly fun _ => True := ((Cluster.Orderly.empty.put rfl).put rfl).put rfl
  have disowned : ∀ name uid, "old" ≠ tunedName name → shared.Disowns name uid := by
    intro name uid different key tuned found named
    have shown : ∀ entry ∈ shared.tuneds.entries, Resource.displayName entry.2 = "old" := by decide
    have old := shown (key, tuned) ((SortedMap.mem_entries_iff ..).2 found)
    exact absurd (old.symm.trans named) different
  have one : shared.Separate smallProfile largeProfile :=
    ⟨rfl, rfl, by decide, by decide, fun uid _ => disowned _ uid (by decide)⟩
  have two : shared.Separate largeProfile smallProfile :=
    ⟨rfl, rfl, by decide, by decide, fun uid _ => disowned _ uid (by decide)⟩
  have commutes := reconcile_commutes {} controller smallProfile largeProfile default default
    default default orderly one two
  exact ⟨one, two, commutes.2.2⟩

end NodeTuning
