import NodeTuning.Proofs.Backoff
import NodeTuning.Proofs.Controller.StatusHistory
import NodeTuning.Proofs.Controller.Territory

/-!
How long to wait before a profile is tried again, in any course of events. Main statement: the delay
of a profile depends only on how often it was asked for since it last started over, and it starts
over with each pass that succeeds.
-/
namespace NodeTuning
open Steps Cluster.Action

/-- What can happen between two requests for a delay. Another cluster stands for whatever others do
to the one that is worked on. -/
inductive RetryStep where
  | ask (name : String)
  | reset (name : String)
  | pass (settings : Settings) (now : Timestamp) (name : String)
  | others (cluster : Cluster)

inductive RetryNote where
  | asked (name : String)
  | reset (name : String)
  | passed (name : String) (result : Except ControllerError Outcome)
  | others

namespace RetryNote

def asks (name : String) : RetryNote → Bool
  | .asked other => name = other
  | _ => false

/-- After a reset and after a pass that succeeds the delays of a profile start over. -/
def clears (name : String) : RetryNote → Bool
  | .reset other => name = other
  | .passed other result => name = other && result.isOk
  | _ => false

end RetryNote

/-- How often the delay of a profile was asked for since it last started over. The latest note comes
first. -/
def asksSince (name : String) (notes : List RetryNote) : Nat :=
  (notes.takeWhile fun note => !note.clears name).countP (·.asks name)

theorem asksSince_cons (name : String) (note : RetryNote) (notes : List RetryNote) :
    asksSince name (note :: notes) = if note.clears name then 0
      else if note.asks name then asksSince name notes + 1 else asksSince name notes := by
  unfold asksSince
  rw [List.takeWhile_cons]
  cases note.clears name with
  | true => rfl
  | false =>
    rw [Bool.not_false, if_pos rfl, if_neg Bool.false_ne_true, List.countP_cons]
    cases note.asks name <;> rfl

namespace Controller

def observe (controller : Controller) : RetryStep → RetryNote × Controller
  | .ask name => (.asked name, (controller.nextRetry name).2)
  | .reset name => (.reset name, controller.resetRetry name)
  | .pass settings now name =>
    let (result, after) := controller.reconcile settings now name
    (.passed name result, after)
  | .others cluster => (.others, { controller with cluster })

def retry (controller : Controller) (name : String) : Retry :=
  (controller.retries.find? name).getD .fresh

end Controller

namespace Retry

/-- What is kept for a profile after it was asked for that many delays. -/
def after (asks : Nat) : Retry := ⟨(Backoff.create 5 300).advanced asks, UInt32.ofNat asks⟩

def next (retry : Retry) : Retry := ⟨retry.backoff.next.2, retry.errors + 1⟩

def reset (retry : Retry) : Retry := ⟨retry.backoff.reset, 0⟩

theorem after_zero : after 0 = fresh := rfl

theorem next_after (asks : Nat) : (after asks).next = after (asks + 1) := by
  simp only [next, after, UInt32.ofNat_add, Backoff.advanced]
  rfl

theorem reset_after (asks : Nat) : (after asks).reset = fresh := by
  rw [reset, after, Backoff.reset_advanced_create]
  rfl

end Retry

namespace Controller
variable {controller : Controller} {name : String}

theorem nextRetry_eq (controller : Controller) (name : String) : (controller.nextRetry name).1 =
    ((controller.retry name).backoff.current, (controller.retry name).errors + 1) := rfl

theorem retry_nextRetry (controller : Controller) (asked name : String) :
    (controller.nextRetry asked).2.retry name =
      if name = asked then (controller.retry name).next else controller.retry name := by
  change ((controller.retries.insert asked (controller.retry asked).next).find? name).getD .fresh = _
  rw [SortedMap.find?_insert]
  split
  · rename_i same
    rw [same]
    rfl
  · rfl

theorem retry_resetRetry (controller : Controller) (other name : String) :
    (controller.resetRetry other).retry name =
      if name = other then (controller.retry name).reset else controller.retry name := by
  split
  · rename_i same
    subst same
    rw [retry, find?_resetRetry, retry]
    cases controller.retries.find? name <;> rfl
  · rename_i different
    rw [retry, (onlyFor_resetRetry other controller).retries name different]
    rfl

theorem retry_forgetRetry (controller : Controller) (forgotten name : String) :
    (controller.forgetRetry forgotten).retry name = controller.retry name ∨
      name = forgotten ∧ (controller.forgetRetry forgotten).retry name = .fresh := by
  change ((controller.retries.erase forgotten).find? name).getD .fresh = _ ∨ _
  by_cases same : name = forgotten
  · refine .inr ⟨same, ?_⟩
    change ((controller.retries.erase forgotten).find? name).getD .fresh = _
    rw [same, SortedMap.find?_erase_self]
    rfl
  · rw [SortedMap.find?_erase_of_ne _ same]
    exact .inl rfl

def SameRetries (before after : Controller) : Prop := after.retries = before.retries

theorem SameRetries.retry_eq {before after : Controller} (same : before.SameRetries after)
    (name : String) : after.retry name = before.retry name := by
  rw [retry, same]
  rfl

instance : Pass.Tracks SameRetries (fun _ _ => True) where
  refl _ := rfl
  trans _ _ _ first second := second.trans first
  cluster _ _ _ := rfl
  metrics _ _ := rfl

instance (name : String) : Pass.Tells name SameRetries where
  told _ _ _ := rfl

end Controller

/-- The steps leave all delays as they are, unless they succeed and forget those of a profile. -/
def MayForget {α : Type} (name : String) (pass : Pass α) : Prop :=
  ∀ controller other, (pass.run controller).2.retry other = controller.retry other ∨
    (pass.run controller).1.isOk = true ∧ other = name ∧
      (pass.run controller).2.retry other = .fresh

section Passes
variable {settings : Settings} {now : Timestamp} {profile : Profile} {name : String}

theorem MayForget.of_keeps {α : Type} {pass : Pass α} (keeps : Keeps Controller.SameRetries pass) :
    MayForget name pass :=
  fun controller other => .inl ((keeps controller).retry_eq other)

theorem MayForget.bind {α β : Type} {first : Pass α} {next : α → Pass β}
    (head : Keeps Controller.SameRetries first) (rest : ∀ value, MayForget name (next value)) :
    MayForget name (first >>= next) := by
  intro controller other
  have same := (head controller).retry_eq other
  obtain ⟨value, middle, run, whole⟩ | ⟨fault, middle, run, whole⟩ :=
    run_bind_cases first next controller
  · rw [run] at same
    rw [whole, ← same]
    exact rest value middle other
  · rw [run] at same
    rw [whole]
    exact .inl same

theorem mayForget_finalize : MayForget profile.name (finalize settings profile) := by
  unfold finalize
  split
  · exact .of_keeps (Keeps.pure _)
  refine .bind (Pass.keeps_attemptOnCluster (Keeps.anything _)) fun deleted => ?_
  cases deleted with
  | error fault =>
    exact .of_keeps (Keeps.bind (Pass.keeps_tell _ _ _ _) fun _ => Keeps.throw _)
  | ok =>
    refine .bind (Pass.keeps_tell _ _ _ _) fun _ => ?_
    refine .bind (Pass.keeps_onCluster (Keeps.anything _)) fun present => ?_
    split
    · exact .of_keeps (Keeps.pure _)
    refine .bind (Pass.keeps_onCluster (Keeps.anything _)) fun _ => ?_
    -- Nothing can fail any more once the delays are forgotten.
    intro controller other
    rcases Controller.retry_forgetRetry controller profile.name other with same | forgotten
    · exact .inl same
    · exact .inr ⟨rfl, forgotten⟩

theorem mayForget_reconcileProfile :
    MayForget profile.name (reconcileProfile settings now profile) := by
  have patches : ∀ subject references,
      KeepsReports (fun _ _ => True) settings now profile.name subject references :=
    fun _ _ _ => Keeps.anything _
  obtain ⟨_, branch⟩ | ⟨_, _, branch⟩ | ⟨message, _, _, branch⟩ | ⟨_, _, branch⟩ | ⟨_, _, branch⟩ :=
    reconcileProfile_cases settings profile
  · rw [branch]
    exact mayForget_finalize
  · rw [branch]
    exact .of_keeps (keeps_adopt (Keeps.anything _) (patches · .kept))
  · rw [branch]
    exact .of_keeps (keeps_refuse (patches profile .kept) message)
  · rw [branch]
    exact .of_keeps keeps_hold
  · rw [branch]
    exact .of_keeps (Keeps.bind (keeps_rollOut keeps_applyComponents_aside (patches profile .kept))
      (keeps_reportPools (patches profile .current)))

theorem under_reconcileProfile (under : profile.Under profile.name) :
    Keeps (Pass.Clusters (Preserving (Cluster.Profiles fun key profile => profile.Under key)))
      (reconcileProfile settings now profile) := by
  apply keeps_reconcileProfile
  · exact fun _ _ => preservesProfiles_applyComponents
  · exact preservesProfiles_of_within within_deleteComponents
  · intro finalizers
    apply preservesProfiles_updateProfile
    intro existing _
    have own : storeKey (profile.withFinalizers finalizers) = profile.name := under.storeKey_eq
    rw [own]
    exact ⟨under.named, under.unspaced⟩
  · intro subject references report
    apply preservesProfiles_patchStatus
    intro existing here
    rw [here.storeKey_eq]
    exact ⟨here.named, here.unspaced⟩

end Passes

section Whole
variable {controller : Controller}

theorem retry_passed (settings : Settings) (now : Timestamp) (name : String)
    (under : controller.cluster.Profiles fun key profile => profile.Under key) :
    let pass := controller.passed settings now name
    (∀ other, pass.2.retry other = controller.retry other ∨
      pass.1.isOk = true ∧ other = name ∧ pass.2.retry other = .fresh) ∧
    pass.2.cluster.Profiles fun key profile => profile.Under key := by
  intro pass
  obtain ⟨_, _, run⟩ | ⟨_, _, run⟩ | ⟨profile, read, run⟩ :=
    Controller.passed_cases settings now name controller
  · simp only [pass, run]
    exact ⟨fun _ => .inl rfl, under⟩
  · simp only [pass, run]
    exact ⟨fun _ => .inl rfl, under⟩
  · have stored := under name profile (Cluster.read_eq_ok_iff.1 read).2
    obtain rfl := stored.name_eq
    simp only [pass, run]
    exact ⟨mayForget_reconcileProfile controller.counted,
      under_reconcileProfile stored controller.counted under⟩

/-- A pass that fails changes no delays, and one that succeeds lets those of its profile start
over. -/
theorem retry_reconcile (settings : Settings) (now : Timestamp) (passed : String)
    (under : controller.cluster.Profiles fun key profile => profile.Under key)
    {name : String} {asks : Nat} (known : controller.retry name = .after asks) :
    let pass := controller.reconcile settings now passed
    pass.2.retry name = if name = passed ∧ pass.1.isOk = true then .fresh else .after asks := by
  have retries := (retry_passed settings now passed under).1 name
  unfold Controller.reconcile
  unfold Controller.passed Controller.counted at retries
  dsimp only
  rw [known] at retries
  split
  · rename_i outcome after run
    rw [run] at retries
    dsimp only at retries ⊢
    rw [Controller.retry_resetRetry]
    by_cases same : name = passed
    · rw [if_pos same, if_pos ⟨same, rfl⟩]
      -- What was forgotten is fresh, and resetting leaves it so.
      rcases retries with kept | ⟨_, _, fresh⟩
      · rw [kept, Retry.reset_after]
      · rw [fresh, ← Retry.after_zero, Retry.reset_after, Retry.after_zero]
    · rw [if_neg same, if_neg fun both => same both.1]
      exact retries.resolve_right fun forgotten => same forgotten.2.1
  · rename_i fault after run
    rw [run] at retries
    rw [if_neg fun both => Bool.false_ne_true both.2]
    exact retries.resolve_right fun forgotten => Bool.false_ne_true forgotten.1

theorem retry_observe (under : controller.cluster.Profiles fun key profile => profile.Under key)
    {name : String} {notes : List RetryNote}
    (known : controller.retry name = .after (asksSince name notes)) (step : RetryStep) :
    (controller.observe step).2.retry name =
      .after (asksSince name ((controller.observe step).1 :: notes)) := by
  rw [asksSince_cons]
  cases step with
  | ask asked =>
    change (controller.nextRetry asked).2.retry name = _
    rw [Controller.retry_nextRetry, known, Retry.next_after]
    simp [Controller.observe, RetryNote.clears, RetryNote.asks, apply_ite Retry.after]
  | reset cleared =>
    change (controller.resetRetry cleared).retry name = _
    rw [Controller.retry_resetRetry, known, Retry.reset_after]
    simp [Controller.observe, RetryNote.clears, RetryNote.asks, apply_ite Retry.after,
      Retry.after_zero]
  | pass settings now passed =>
    change (controller.reconcile settings now passed).2.retry name = _
    rw [retry_reconcile settings now passed under known]
    simp [Controller.observe, RetryNote.clears, RetryNote.asks, apply_ite Retry.after,
      Retry.after_zero]
  | others cluster => exact known

theorem under_observe (under : controller.cluster.Profiles fun key profile => profile.Under key)
    {step : RetryStep} (tidy : ∀ cluster, step = .others cluster →
      cluster.Profiles fun key profile => profile.Under key) :
    (controller.observe step).2.cluster.Profiles fun key profile => profile.Under key := by
  cases step with
  | ask asked => exact under
  | reset cleared =>
    change (controller.resetRetry cleared).cluster.Profiles _
    rw [Controller.cluster_resetRetry]
    exact under
  | pass settings now passed =>
    change (controller.reconcile settings now passed).2.cluster.Profiles _
    rw [(Controller.reconcile_passed settings now passed controller).2.1]
    exact (retry_passed settings now passed under).2
  | others cluster => exact tidy cluster rfl

end Whole

/-- A controller and the notes on what happened to it, the latest first. -/
structure RetryLog where
  controller : Controller
  notes : List RetryNote := []

namespace RetryLog

def take (log : RetryLog) (step : RetryStep) : RetryLog :=
  let (note, controller) := log.controller.observe step
  ⟨controller, note :: log.notes⟩

def takeAll (log : RetryLog) (steps : List RetryStep) : RetryLog := steps.foldl take log

structure Sound (log : RetryLog) : Prop where
  under : log.controller.cluster.Profiles fun key profile => profile.Under key
  retry : ∀ name, log.controller.retry name = .after (asksSince name log.notes)

theorem Sound.takeAll {log : RetryLog} {steps : List RetryStep} (sound : log.Sound)
    (tidy : ∀ cluster, .others cluster ∈ steps →
      cluster.Profiles fun key profile => profile.Under key) : (log.takeAll steps).Sound := by
  induction steps generalizing log with
  | nil => exact sound
  | cons step later ih =>
    refine ih ?_ fun cluster member => tidy cluster (List.mem_cons_of_mem _ member)
    exact ⟨under_observe sound.under fun cluster same => tidy cluster (by simp [same]),
      fun name => retry_observe sound.under (sound.retry name) step⟩

end RetryLog

/-- Whatever was asked for, reset, passed over or done by others, in any order and over any
profiles: the next delay of a profile is 5 seconds, doubled for each delay it was asked for since it
last started over, up to 300 seconds, and it counts these. What happens to other profiles and passes
that fail make no difference. -/
theorem delays_count_asks (start : Controller) (steps : List RetryStep) (name : String)
    (fresh : start.retries = .empty)
    (under : start.cluster.Profiles fun key profile => profile.Under key)
    (tidy : ∀ cluster, .others cluster ∈ steps →
      cluster.Profiles fun key profile => profile.Under key) :
    let log := (RetryLog.mk start []).takeAll steps
    let asks := asksSince name log.notes
    let answer := (log.controller.nextRetry name).1
    (asks + 1 < 2 ^ 32 → answer.1.toNat = min (5 * 2 ^ asks) 300 ∧ answer.2.toNat = asks + 1) ∧
    ∀ step, (log.controller.observe step).1.asks name = false →
      (log.controller.observe step).1.clears name = false →
        ((log.controller.observe step).2.nextRetry name).1 = answer := by
  intro log asks answer
  have begun : (RetryLog.mk start []).Sound :=
    ⟨under, fun name => by rw [Controller.retry, fresh]; rfl⟩
  have sound : log.Sound := begun.takeAll tidy
  have answered : answer = ((Retry.after asks).backoff.current, (Retry.after asks).errors + 1) := by
    rw [← sound.retry]
    exact Controller.nextRetry_eq ..
  rw [answered]
  refine ⟨fun bounded => ⟨?_, ?_⟩, fun step apart kept => ?_⟩
  · exact Backoff.toNat_current_advanced 5 300 asks
  · change (UInt32.ofNat asks + 1).toNat = asks + 1
    rw [UInt32.toNat_add, UInt32.toNat_ofNat']
    simp only [UInt32.reduceToNat]
    omega
  · have later := retry_observe sound.under (sound.retry name) step
    rw [asksSince_cons, kept, apart] at later
    rw [Controller.nextRetry_eq, later]
    rfl

/-- A profile that is being deleted, which the first pass over it releases. -/
def leaving : Cluster :=
  let metadata := { smallProfile.metadata with deletionTimestamp := some default }
  Cluster.put {} { smallProfile with metadata }

/-- A profile that can't be read. -/
def unreadable : Cluster :=
  (Cluster.put {} smallProfile).failOn (operationName .get .performanceProfile) "down"

theorem delays_count_asks_leaving :
    let steps : List RetryStep := [.ask "small", .others leaving, .pass {} default "small",
      .ask "small", .others unreadable, .pass {} default "small", .ask "other"]
    let answer := (((RetryLog.mk {} []).takeAll steps).controller.nextRetry "small").1
    answer.1.toNat = 10 ∧ answer.2.toNat = 2 := by
  intro steps answer
  have empty : Cluster.Profiles (fun key profile => profile.Under key) {} :=
    fun key profile found => nomatch found
  have tidy : ∀ cluster, .others cluster ∈ steps →
      cluster.Profiles fun key profile => profile.Under key := by
    intro cluster member
    have named : cluster = leaving ∨ cluster = unreadable := by simpa [steps] using member
    rcases named with rfl | rfl
    · exact empty.put ⟨rfl, rfl⟩
    · have stored : (Cluster.put {} smallProfile).Profiles fun key profile => profile.Under key :=
        empty.put ⟨rfl, rfl⟩
      exact stored.congr fun key => rfl
  have asked : asksSince "small" ((RetryLog.mk {} []).takeAll steps).notes = 1 := by decide +kernel
  have counted := (delays_count_asks {} steps "small" rfl empty tidy).1
  rw [asked] at counted
  exact counted (by decide)

end NodeTuning
