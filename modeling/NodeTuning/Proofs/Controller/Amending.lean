import NodeTuning.Proofs.Controller.Settling

/-!
When an object that is there has to be written, and what the write comes to. Main statement: it has
to be written unless it has the desired spec, labels and annotations, what is written has them
besides all that others gave it, and it need not be written again, whatever others add to it.
-/
namespace NodeTuning
open Stored

section Objects
variable {K : Type} [Component K]

/-- An object has the labels and annotations of a desired one, with the same values. -/
structure Bears (object desired : K) : Prop where
  labels : ∀ key value, (Resource.labels desired).find? key = some value →
    (Resource.labels object).find? key = some value
  annotations : ∀ key value, (Resource.annotations desired).find? key = some value →
    (Resource.annotations object).find? key = some value

/-- Others have changed labels and annotations of an object, but none that the desired one has. -/
structure ChangedBeside (desired before after : K) : Prop where
  rest : ∃ labels annotations, after =
    Resource.withMetadata before { Resource.metadata before with labels, annotations }
  labels : ∀ key, (Resource.labels desired).contains key = true →
    (Resource.labels after).find? key = (Resource.labels before).find? key
  annotations : ∀ key, (Resource.annotations desired).contains key = true →
    (Resource.annotations after).find? key = (Resource.annotations before).find? key

def ObjectMeta.withoutLabels (metadata : ObjectMeta) : ObjectMeta :=
  { metadata with labels := none, annotations := none }

/-- What is written in place of an object to bring it to a desired one. -/
structure Amends (sameSpec : K → K → Prop) (existing desired updated : K) : Prop where
  spec : sameSpec updated desired
  labels : ∀ key, (Resource.labels updated).find? key =
    ((Resource.labels desired).find? key).or ((Resource.labels existing).find? key)
  annotations : ∀ key, (Resource.annotations updated).find? key =
    ((Resource.annotations desired).find? key).or ((Resource.annotations existing).find? key)
  rest : (Resource.metadata updated).withoutLabels = (Resource.metadata existing).withoutLabels
  settled : mutated? updated desired = none
  lasting : ∀ after, ChangedBeside desired updated after → mutated? after desired = none

/-- An object is left alone if it is as desired already, and else it is amended. -/
structure Converges (sameSpec : K → K → Prop) (existing desired : K) : Prop where
  unchanged : mutated? existing desired = none ↔
    sameSpec existing desired ∧ Bears existing desired
  changed : ∀ updated, mutated? existing desired = some updated →
    Amends sameSpec existing desired updated

theorem find?_eq_or_iff {first second : Labels} :
    (∀ key, second.find? key = (first.find? key).or (second.find? key)) ↔
      ∀ key value, first.find? key = some value → second.find? key = some value := by
  constructor
  · intro same key value found
    rw [same key, found]
    rfl
  · intro among key
    cases found : first.find? key with
    | none => rfl
    | some value => exact among key value found

theorem Bears.changedBeside {desired before after : K} (bears : Bears before desired)
    (changed : ChangedBeside desired before after) : Bears after desired where
  labels key value found := by
    rw [changed.labels key (by simp [SortedMap.contains, found])]
    exact bears.labels key value found
  annotations key value found := by
    rw [changed.annotations key (by simp [SortedMap.contains, found])]
    exact bears.annotations key value found

variable [Lawful K] [Component.Lawful K] [Plain K]

theorem mutated?_eq_none_iff {existing desired : K} : mutated? existing desired = none ↔
    Component.withSpecOf existing desired = existing ∧ Bears existing desired := by
  -- Merging leaves an object as it is exactly if the object realizes the desired one already.
  constructor
  · intro same
    have realizes := realizes_unchanged same
    exact ⟨realizes.spec, find?_eq_or_iff.1 realizes.labels, find?_eq_or_iff.1 realizes.annotations⟩
  · rintro ⟨spec, bears⟩
    have realizes : Realizes (some existing) desired existing := by
      refine ⟨spec, find?_eq_or_iff.2 bears.labels, find?_eq_or_iff.2 bears.annotations, ?_⟩
      rintro _ ⟨⟩
      rfl
    unfold mutated?
    exact if_pos realizes.merged_eq

theorem mutated?_merged (existing desired : K) :
    mutated? (merged existing desired) desired = none := by
  unfold mutated?
  exact if_pos (merged_merged existing desired)

theorem mutated?_changedBeside {desired before after : K} (settled : mutated? before desired = none)
    (changed : ChangedBeside desired before after) : mutated? after desired = none := by
  obtain ⟨spec, bears⟩ := mutated?_eq_none_iff.1 settled
  refine mutated?_eq_none_iff.2 ⟨?_, bears.changedBeside changed⟩
  obtain ⟨labels, annotations, rfl⟩ := changed.rest
  rw [Component.Lawful.withSpecOf_withMetadata, spec]

theorem amends_merged {sameSpec : K → K → Prop}
    (specs : ∀ object other, Component.withSpecOf object other = object ↔ sameSpec object other)
    (existing desired : K) : Amends sameSpec existing desired (merged existing desired) := by
  have realizes := realizes_merged existing desired
  have settled := mutated?_merged existing desired
  refine ⟨(specs _ _).1 realizes.spec, realizes.labels, realizes.annotations, ?_, settled,
    fun _ => mutated?_changedBeside settled⟩
  rw [metadata_merged]
  rfl

theorem converges {sameSpec : K → K → Prop}
    (specs : ∀ object other, Component.withSpecOf object other = object ↔ sameSpec object other)
    (existing desired : K) : Converges sameSpec existing desired where
  unchanged := by rw [mutated?_eq_none_iff, specs]
  changed updated written := by
    rw [mutated?_eq_some written]
    exact amends_merged specs existing desired

end Objects

/-- For each kind of component, whatever is there and whatever is desired: an object is written
exactly if its spec, a desired label or a desired annotation differs. The write gives it these,
keeps all else, and is the last one as long as others only change what is not desired. -/
theorem merging_converges :
    (∀ existing desired : MachineConfig,
      Converges (fun one other => one.spec = other.spec) existing desired) ∧
    (∀ existing desired : KubeletConfig,
      Converges (fun one other => one.spec = other.spec) existing desired) ∧
    (∀ existing desired : Tuned,
      Converges (fun one other => one.spec = other.spec) existing desired) ∧
    (∀ existing desired : RuntimeClass,
      Converges (fun one other => one.handler = other.handler ∧ one.scheduling = other.scheduling ∧
        one.overhead = other.overhead) existing desired) := by
  refine ⟨converges fun object other => ?_, converges fun object other => ?_,
    converges fun object other => ?_, converges fun object other => ?_⟩
  · cases object
    simp [Component.withSpecOf, eq_comm]
  · cases object
    simp [Component.withSpecOf, eq_comm]
  · cases object
    simp [Component.withSpecOf, eq_comm]
  · cases object
    cases other
    simp [Component.withSpecOf, eq_comm]

end NodeTuning
