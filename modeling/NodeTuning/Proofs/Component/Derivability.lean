import NodeTuning.Proofs.Component.Places
import NodeTuning.Proofs.Controller.Branches
import NodeTuning.Validation

/-!
When components can be derived from a profile. The check of a profile and the derivation of its
components read the same fields in different orders. Main statement: the check accepts exactly the
profiles whose components can be derived, whose CPUs are divided and whose maps have one label at
most; what it accepts can then fail to be derived for want of an owner only.
-/
namespace NodeTuning

section Results
variable {ε α β : Type}

theorem except_then_eq_ok_iff (first : Except ε Unit) (next : Unit → Except ε β) (result : β) :
    (first >>= next) = .ok result ↔ first = .ok () ∧ next () = .ok result := by
  cases first <;> simp [bind, Except.bind]

theorem except_mapM_ok_iff (f : α → Except ε β) (items : List α) :
    (∃ results, items.mapM f = .ok results) ↔ ∀ item ∈ items, ∃ result, f item = .ok result := by
  induction items with
  | nil => simp [pure, Except.pure]
  | cons item rest ih =>
    simp only [List.mapM_cons, except_bind_eq_ok_iff, List.forall_mem_cons, ← ih]
    constructor
    · rintro ⟨_, value, one, values, others, _⟩
      exact ⟨⟨value, one⟩, values, others⟩
    · rintro ⟨⟨value, one⟩, values, others⟩
      exact ⟨value :: values, value, one, values, others, rfl⟩

theorem except_forM_eq_ok_iff (f : α → Except ε Unit) (items : List α) :
    items.forM f = .ok () ↔ ∀ item ∈ items, f item = .ok () := by
  induction items with
  | nil => simp [pure, Except.pure, List.forM]
  | cons item rest ih =>
    simp only [List.forM_eq_forM, List.forM_cons, except_then_eq_ok_iff, List.forall_mem_cons, ← ih]

end Results

theorem CpuSet.isEmpty_eq_false_iff {set : CpuSet} : set.isEmpty = false ↔ ∃ cpu, cpu ∈ set := by
  rw [CpuSet.isEmpty, List.isEmpty_eq_false_iff]
  constructor
  · exact List.exists_mem_of_ne_nil _
  · rintro ⟨_, member⟩
    exact List.ne_nil_of_mem member

namespace HugePages
variable {hugepages : HugePages}

private theorem defaultArgument_ok_iff : (∃ texts, hugepages.defaultArgument = .ok texts) ↔
    ∀ size, hugepages.defaultSize = some size → ∃ kb, hugePageKb size = .ok kb := by
  unfold defaultArgument
  cases hugepages.defaultSize with
  | none => simp
  | some size =>
    simp only [except_bind_eq_ok_iff, Option.some.injEq, forall_eq']
    constructor
    · rintro ⟨_, kb, known, _⟩
      exact ⟨kb, known⟩
    · rintro ⟨kb, known⟩
      exact ⟨_, kb, known, rfl⟩

private theorem pageArguments_ok_iff (page : HugePage) :
    (∃ texts, pageArguments page = .ok texts) ↔ ∃ kb, hugePageKb page.size = .ok kb := by
  simp only [pageArguments, except_bind_eq_ok_iff]
  constructor
  · rintro ⟨_, kb, known, _⟩
    exact ⟨kb, known⟩
  · rintro ⟨kb, known⟩
    exact ⟨_, kb, known, rfl⟩

private theorem unpinnedArguments_ok_iff : (∃ texts, hugepages.unpinnedArguments = .ok texts) ↔
    ∀ page ∈ hugepages.pages, page.node = none → ∃ kb, hugePageKb page.size = .ok kb := by
  have all := except_mapM_ok_iff pageArguments hugepages.unpinned
  simp only [pageArguments_ok_iff, unpinned, List.mem_filter, Option.isNone_iff_eq_none,
    and_imp] at all
  rw [← all]
  simp only [unpinnedArguments, except_bind_eq_ok_iff, unpinned]
  constructor
  · rintro ⟨_, texts, mapped, _⟩
    exact ⟨texts, mapped⟩
  · rintro ⟨texts, mapped⟩
    exact ⟨_, texts, mapped, rfl⟩

private theorem unit?_ok_iff (page : HugePage) : (∃ unit, page.unit? = .ok unit) ↔
    ∀ node, page.node = some node → ∃ kb, hugePageKb page.size = .ok kb := by
  unfold HugePage.unit?
  cases page.node with
  | none => simp
  | some node =>
    simp only [except_bind_eq_ok_iff, Option.some.injEq, forall_eq']
    constructor
    · rintro ⟨_, kb, known, _⟩
      exact ⟨kb, known⟩
    · rintro ⟨kb, known⟩
      exact ⟨_, kb, known, rfl⟩

end HugePages

namespace Profile
variable {profile : Profile}

def SizesKnown (profile : Profile) : Prop :=
  ∀ size ∈ profile.hugePageSizes, ∃ kb, hugePageKb size = .ok kb

/-- The sizes are read in three places: the default one and those of unpinned pages for the kernel
and for the daemon, those of pinned pages for the boot units. -/
private theorem sizesKnown_iff (hugepages : HugePages)
    (given : profile.spec.hugepages = some hugepages) :
    profile.SizesKnown ↔ (∃ texts, hugepages.defaultArgument = .ok texts) ∧
      (∃ texts, hugepages.unpinnedArguments = .ok texts) ∧
      (∃ units, hugepages.pages.mapM HugePage.unit? = .ok units) := by
  simp only [SizesKnown, hugePageSizes, given, List.mem_append, Option.mem_toList, List.mem_map,
    HugePages.defaultArgument_ok_iff, HugePages.unpinnedArguments_ok_iff, except_mapM_ok_iff,
    HugePages.unit?_ok_iff]
  constructor
  · intro known
    refine ⟨fun size given => known size (.inl given), fun page member _ => ?_,
      fun page member _ _ => ?_⟩
    · exact known page.size (.inr ⟨page, member, rfl⟩)
    · exact known page.size (.inr ⟨page, member, rfl⟩)
  · rintro ⟨default, unpinned, pinned⟩ size (given | ⟨page, member, rfl⟩)
    · exact default size given
    · cases placed : page.node with
      | none => exact unpinned page member placed
      | some node => exact pinned page member node placed

theorem cpuSets_eq_ok_iff {reserved isolated : CpuSet} :
    profile.cpuSets = .ok (reserved, isolated) ↔
      CpuSet.parse profile.spec.cpu.reserved = .ok reserved ∧
      CpuSet.parse profile.spec.cpu.isolated = .ok isolated := by
  change ((CpuSet.parse profile.spec.cpu.reserved).mapError SynthesisError.cpuList >>= fun first =>
    (CpuSet.parse profile.spec.cpu.isolated).mapError SynthesisError.cpuList >>= fun second =>
      .ok (first, second)) = _ ↔ _
  cases CpuSet.parse profile.spec.cpu.reserved with
  | error fault => simp [bind, Except.bind]
  | ok first =>
    cases CpuSet.parse profile.spec.cpu.isolated with
    | error fault => simp [bind, Except.bind]
    | ok second => simp [bind, Except.bind]

/-- What the components need of the profile, apart from someone to own them. -/
structure Derivable (profile : Profile) : Prop where
  cpus : ∃ reserved isolated, profile.cpuSets = .ok (reserved, isolated)
  sizes : profile.SizesKnown
  machineConfigLabels : ∃ labels, profile.machineConfigLabels = .ok labels
  poolLabels : ∃ labels, profile.poolLabels = .ok labels

private theorem hugePageTexts_of_sizesKnown (known : profile.SizesKnown) :
    (∃ texts, profile.hugePageArguments = .ok texts) ∧
      (∃ text, profile.hugePagePairs = .ok text) ∧
      (∃ units, profile.allocationUnits = .ok units) := by
  unfold hugePagePairs hugePageArguments allocationUnits
  cases given : profile.spec.hugepages with
  | none => simp
  | some hugepages =>
    obtain ⟨⟨default, one⟩, ⟨unpinned, two⟩, units, three⟩ :=
      (sizesKnown_iff hugepages given).1 known
    simp only [HugePages.arguments, except_bind_eq_ok_iff]
    exact ⟨⟨_, default, one, unpinned, two, rfl⟩, ⟨_, _, ⟨default, one, unpinned, two, rfl⟩, rfl⟩,
      _, units, three, rfl⟩

private theorem sizesKnown_of_hugePageTexts {texts : List String} {units : List SystemdUnit}
    (arguments : profile.hugePageArguments = .ok texts)
    (allocations : profile.allocationUnits = .ok units) : profile.SizesKnown := by
  unfold hugePageArguments at arguments
  unfold allocationUnits at allocations
  cases given : profile.spec.hugepages with
  | none => simp [SizesKnown, hugePageSizes, given]
  | some hugepages =>
    simp only [given, HugePages.arguments, except_bind_eq_ok_iff] at arguments allocations
    obtain ⟨default, one, unpinned, two, _⟩ := arguments
    obtain ⟨pinned, three, _⟩ := allocations
    exact (sizesKnown_iff hugepages given).2 ⟨⟨default, one⟩, ⟨unpinned, two⟩, pinned, three⟩

theorem ownerReference_of_identity (name : profile.metadata.name.isSome)
    (uid : profile.metadata.uid.isSome) : ∃ owner, profile.ownerReference = .ok owner := by
  obtain ⟨_, named⟩ := Option.isSome_iff_exists.1 name
  obtain ⟨_, identified⟩ := Option.isSome_iff_exists.1 uid
  exact ⟨_, by simp [ownerReference, named, identified]; rfl⟩

theorem ownerReference_eq_error {fault : SynthesisError}
    (failed : profile.ownerReference = .error fault) : fault = .missingOwner profile.name := by
  unfold ownerReference at failed
  split at failed
  · cases failed
  · cases failed
    rfl

theorem derivable_of_components {tunedNamespace : String} {components : Components}
    (ok : profile.components tunedNamespace = .ok components) : profile.Derivable := by
  obtain ⟨machineConfig, kubeletConfig, -, -⟩ := components_eq_ok_iff.1 ok
  simp only [Profile.machineConfig, Profile.bootConfig, Profile.kernelArguments,
    except_bind_eq_ok_iff] at machineConfig
  simp only [Profile.kubeletConfig, except_bind_eq_ok_iff] at kubeletConfig
  obtain ⟨_, ⟨_, _, _, allocations, _⟩, _, ⟨⟨reserved, isolated⟩, cpus, _, arguments, _⟩, labels,
    labelled, _⟩ := machineConfig
  obtain ⟨poolLabels, selected, _⟩ := kubeletConfig
  exact ⟨⟨reserved, isolated, cpus⟩, sizesKnown_of_hugePageTexts arguments allocations,
    ⟨labels, labelled⟩, poolLabels, selected⟩

/-- Once the rest can be derived, the reference to the owner decides. -/
theorem components_of_derivable (derivable : profile.Derivable) (tunedNamespace : String) :
    (∀ owner, profile.ownerReference = .ok owner →
      ∃ components, profile.components tunedNamespace = .ok components) ∧
    (∀ fault, profile.ownerReference = .error fault →
      profile.components tunedNamespace = .error fault) := by
  obtain ⟨⟨reserved, isolated, cpus⟩, sizes, ⟨labels, labelled⟩, poolLabels, selected⟩ := derivable
  obtain ⟨⟨texts, arguments⟩, ⟨pairs, paired⟩, units, allocations⟩ :=
    hugePageTexts_of_sizesKnown sizes
  simp only [Profile.components, Profile.machineConfig, Profile.bootConfig, Profile.kernelArguments,
    Profile.kubeletConfig, Profile.tuned, Profile.tunedOptions, Profile.runtimeClass, cpus,
    labelled, selected, arguments, paired, allocations]
  constructor
  · intro owner owned
    rw [owned]
    exact ⟨_, rfl⟩
  · intro fault failed
    rw [failed]
    rfl

theorem checkCpus_eq_ok_iff {field list : String} {set : CpuSet} :
    checkCpus field list = .ok set ↔ CpuSet.parse list = .ok set ∧ ∃ cpu, cpu ∈ set := by
  unfold checkCpus
  cases CpuSet.parse list with
  | error fault => simp
  | ok found =>
    simp only [← CpuSet.isEmpty_eq_false_iff]
    cases empty : found.isEmpty with
    | true => simpa using fun same : found = set => same ▸ empty
    | false => simpa using fun same : found = set => same ▸ empty

theorem checkSingle_eq_ok_iff {place : SingleLabel} {labels : Labels} :
    checkSingle place labels = .ok () ↔ labels.size ≤ 1 := by
  unfold checkSingle
  split <;> simp <;> omega

theorem checkDerivable_eq_ok_iff {α : Type} {result : Except SynthesisError α} :
    checkDerivable result = .ok () ↔ ∃ value, result = .ok value := by
  cases result <;> simp [checkDerivable]

/-- Both lists of CPUs can be read, neither is empty, and no CPU is in both. -/
def CpusDivided (profile : Profile) : Prop :=
  ∃ reserved isolated, profile.cpuSets = .ok (reserved, isolated) ∧
    (∃ cpu, cpu ∈ reserved) ∧ (∃ cpu, cpu ∈ isolated) ∧ ∀ cpu, cpu ∈ reserved → ¬ cpu ∈ isolated

/-- The node selector and the labels that stand in the profile itself have one entry at most. -/
structure SingleLabelled (profile : Profile) : Prop where
  nodeSelector : profile.spec.nodeSelector.size ≤ 1
  machineConfigLabel : ∀ labels, profile.spec.machineConfigLabel = some labels → labels.size ≤ 1
  poolSelector : ∀ labels, profile.spec.machineConfigPoolSelector = some labels → labels.size ≤ 1

private theorem size_getD_le_one_iff (given : Option Labels) :
    (given.getD .empty).size ≤ 1 ↔ ∀ labels, given = some labels → labels.size ≤ 1 := by
  cases given <;> simp [SortedMap.size, SortedMap.empty]

theorem validate_eq_ok_iff : profile.validate = .ok () ↔
    profile.Derivable ∧ profile.CpusDivided ∧ profile.SingleLabelled := by
  simp only [validate, except_bind_eq_ok_iff, checkCpus_eq_ok_iff]
  constructor
  · rintro ⟨reserved, ⟨one, some⟩, isolated, ⟨two, other⟩, accepted⟩
    have cpus := cpuSets_eq_ok_iff.2 ⟨one, two⟩
    cases separate : reserved.disjoint isolated with
    | false =>
      simp only [separate, Bool.not_false, if_true, except_bind_eq_ok_iff] at accepted
      obtain ⟨_, thrown, _⟩ := accepted
      cases thrown
    | true =>
      simp only [separate, Bool.not_true, Bool.false_eq_true, if_false, except_then_eq_ok_iff,
        except_forM_eq_ok_iff, checkSingle_eq_ok_iff, checkDerivable_eq_ok_iff,
        size_getD_le_one_iff] at accepted
      obtain ⟨selector, machineConfigLabel, poolSelector, labels, poolLabels, sizes⟩ := accepted
      exact ⟨⟨⟨reserved, isolated, cpus⟩, sizes, labels, poolLabels⟩,
        ⟨reserved, isolated, cpus, some, other, CpuSet.disjoint_iff.1 separate⟩,
        selector, machineConfigLabel, poolSelector⟩
  · rintro ⟨⟨-, sizes, labels, poolLabels⟩, ⟨reserved, isolated, cpus, some, other, apart⟩, single⟩
    obtain ⟨one, two⟩ := cpuSets_eq_ok_iff.1 cpus
    have separate := CpuSet.disjoint_iff.2 apart
    refine ⟨reserved, ⟨one, some⟩, isolated, ⟨two, other⟩, ?_⟩
    simp only [separate, Bool.not_true, Bool.false_eq_true, if_false, except_then_eq_ok_iff,
      except_forM_eq_ok_iff, checkSingle_eq_ok_iff, checkDerivable_eq_ok_iff, size_getD_le_one_iff]
    exact ⟨single.nodeSelector, single.machineConfigLabel, single.poolSelector, labels, poolLabels,
      sizes⟩

/-- A profile with a name and a uid is accepted exactly if its components can be derived, its CPUs
are divided and its maps have one label at most. For any profile that is accepted, components can
fail to be derived for want of an owner only. -/
theorem validate_eq_ok_iff_components (profile : Profile) (tunedNamespace : String) :
    (profile.metadata.name.isSome → profile.metadata.uid.isSome →
      (profile.validate = .ok () ↔
        (∃ components, profile.components tunedNamespace = .ok components) ∧
          profile.CpusDivided ∧ profile.SingleLabelled)) ∧
    (profile.validate = .ok () → ∀ fault, profile.components tunedNamespace = .error fault →
      fault = .missingOwner profile.name) := by
  constructor
  · intro name uid
    obtain ⟨owner, owned⟩ := ownerReference_of_identity name uid
    have derivable : profile.Derivable ↔
        ∃ components, profile.components tunedNamespace = .ok components := by
      constructor
      · intro derivable
        exact (components_of_derivable derivable tunedNamespace).1 owner owned
      · rintro ⟨components, ok⟩
        exact derivable_of_components ok
    rw [validate_eq_ok_iff, derivable]
  · intro valid fault failed
    obtain ⟨derivable, -⟩ := validate_eq_ok_iff.1 valid
    obtain ⟨whole, blamed⟩ := components_of_derivable derivable tunedNamespace
    cases owned : profile.ownerReference with
    | ok owner =>
      obtain ⟨components, ok⟩ := whole owner owned
      rw [ok] at failed
      cases failed
    | error missing =>
      rw [blamed missing owned] at failed
      cases failed
      exact ownerReference_eq_error owned

/-- The same profile with and without a uid. -/
theorem validate_eq_ok_iff_components_small :
    let unowned := { smallProfile with metadata := { name := some "small" } }
    (∃ components, smallProfile.components "tuned" = .ok components) ∧
      smallProfile.CpusDivided ∧ smallProfile.SingleLabelled ∧
      unowned.validate = .ok () ∧
      unowned.components "tuned" = .error (.missingOwner "small") := by
  intro unowned
  obtain ⟨agrees, -⟩ := validate_eq_ok_iff_components smallProfile "tuned"
  obtain ⟨_, accepted⟩ : ∃ done, smallProfile.validate = .ok done :=
    except_isOk_iff.1 (by decide +kernel)
  obtain ⟨derived, divided, single⟩ := (agrees rfl rfl).1 accepted
  have valid : unowned.validate = .ok () := accepted
  refine ⟨derived, divided, single, valid, ?_⟩
  obtain ⟨-, blamed⟩ := validate_eq_ok_iff_components unowned "tuned"
  cases result : unowned.components "tuned" with
  | ok components =>
    obtain ⟨-, -, -, runtimeClass⟩ := components_eq_ok_iff.1 result
    cases runtimeClass
  | error fault =>
    rw [blamed valid fault result]
    rfl

end Profile
end NodeTuning
