import NodeTuning.Proofs.Component.CpuPartition

/-!
Profiles that ask for the same in other words. The lists of CPUs can be spelled in many ways, and
most of what else is stored with a profile is bookkeeping. Main statement: the components of such
profiles are the same, but for the text by which the kubelet is told of the reserved CPUs.
-/
namespace NodeTuning

def ProfileSpec.spelled (spec : ProfileSpec) (reserved isolated : String) : ProfileSpec :=
  { spec with cpu := { spec.cpu with reserved, isolated } }

def KubeletConfig.reserving (config : KubeletConfig) (cpus : String) : KubeletConfig :=
  { config with
    spec := { config.spec with
      kubeletConfig := config.spec.kubeletConfig.map fun settings =>
        { settings with reservedSystemCpus := some cpus } } }

def Components.reserving (components : Components) (cpus : String) : Components :=
  { components with kubeletConfig := components.kubeletConfig.reserving cpus }

/-- The components differ only in how the reserved CPUs are spelled for the kubelet. -/
structure Components.Respelled (first second : Components) (before after : String) : Prop where
  machineConfig : second.machineConfig = first.machineConfig
  tuned : second.tuned = first.tuned
  runtimeClass : second.runtimeClass = first.runtimeClass
  kubeletConfig : second.kubeletConfig = first.kubeletConfig.reserving after
  before : first.kubeletConfig.spec.kubeletConfig.bind (·.reservedSystemCpus) = some before
  after : second.kubeletConfig.spec.kubeletConfig.bind (·.reservedSystemCpus) = some after

/-- Both profiles have one name and one uid and ask for the same. Their lists of CPUs are read as
the same sets, or can't be read. -/
structure Profile.Respells (first second : Profile) : Prop where
  name : second.metadata.name = first.metadata.name
  uid : second.metadata.uid = first.metadata.uid
  spec : second.spec = first.spec.spelled second.spec.cpu.reserved second.spec.cpu.isolated
  reserved : ∀ cpus, CpuSet.parse first.spec.cpu.reserved = .ok cpus ↔
    CpuSet.parse second.spec.cpu.reserved = .ok cpus
  isolated : ∀ cpus, CpuSet.parse first.spec.cpu.isolated = .ok cpus ↔
    CpuSet.parse second.spec.cpu.isolated = .ok cpus

namespace Profile.Respells
variable {first second : Profile}

theorem symm (respells : first.Respells second) : second.Respells first where
  name := respells.name.symm
  uid := respells.uid.symm
  spec := by
    rw [respells.spec]
    rfl
  reserved cpus := (respells.reserved cpus).symm
  isolated cpus := (respells.isolated cpus).symm

variable (respells : first.Respells second)
include respells

theorem cpuSets {cpus : CpuSet × CpuSet} (ok : first.cpuSets = .ok cpus) :
    second.cpuSets = .ok cpus := by
  obtain ⟨reserved, isolated⟩ := cpus
  rw [cpuSets_eq_ok_iff] at ok ⊢
  exact ⟨(respells.reserved _).1 ok.1, (respells.isolated _).1 ok.2⟩

/-- Who owns the components can be told from the name and the uid. Without them there is no owner,
and the profiles may then also be shown under different names. -/
theorem ownerReference {owner : OwnerReference} (ok : first.ownerReference = .ok owner) :
    second.ownerReference = .ok owner ∧ second.name = first.name := by
  unfold Profile.ownerReference at ok ⊢
  rw [respells.name, respells.uid]
  split at ok
  · rename_i name uid named identified
    have shown : second.name = name := name_of_metadata (respells.name.trans named)
    exact ⟨ok, shown.trans (name_of_metadata named).symm⟩
  · cases ok

theorem hugePageArguments : second.hugePageArguments = first.hugePageArguments := by
  unfold Profile.hugePageArguments
  rw [respells.spec]
  rfl

theorem allocationUnits : second.allocationUnits = first.allocationUnits := by
  unfold Profile.allocationUnits
  rw [respells.spec]
  rfl

theorem roleLabels : second.roleLabels = first.roleLabels := by
  unfold Profile.roleLabels
  rw [respells.spec]
  rfl

theorem machineConfigLabels : second.machineConfigLabels = first.machineConfigLabels := by
  unfold Profile.machineConfigLabels
  rw [respells.roleLabels, respells.spec]
  rfl

theorem poolLabels : second.poolLabels = first.poolLabels := by
  unfold Profile.poolLabels
  rw [respells.roleLabels, respells.spec]
  rfl

theorem isolationArgument (isolated : CpuSet) :
    second.isolationArgument isolated = first.isolationArgument isolated := by
  unfold Profile.isolationArgument balanceIsolated
  rw [respells.spec]
  rfl

theorem kernelType : second.kernelType = first.kernelType := by
  unfold Profile.kernelType realTimeKernelEnabled
  rw [respells.spec]
  rfl

theorem bootConfig {config : BootConfig} (ok : first.bootConfig = .ok config) :
    second.bootConfig = .ok config := by
  simp only [Profile.bootConfig, except_bind_eq_ok_iff] at ok ⊢
  obtain ⟨cpus, read, allocations, allocated, done⟩ := ok
  exact ⟨cpus, respells.cpuSets read, allocations, respells.allocationUnits ▸ allocated, done⟩

theorem kernelArguments {arguments : List String} (ok : first.kernelArguments = .ok arguments) :
    second.kernelArguments = .ok arguments := by
  simp only [Profile.kernelArguments, except_bind_eq_ok_iff] at ok ⊢
  obtain ⟨cpus, read, pages, known, done⟩ := ok
  refine ⟨cpus, respells.cpuSets read, pages, respells.hugePageArguments ▸ known, ?_⟩
  rwa [respells.isolationArgument]

theorem machineConfig {config : MachineConfig} (ok : first.machineConfig = .ok config) :
    second.machineConfig = .ok config := by
  simp only [Profile.machineConfig, except_bind_eq_ok_iff] at ok ⊢
  obtain ⟨boot, booted, arguments, given, labels, labelled, owner, owned, done⟩ := ok
  obtain ⟨same, shown⟩ := respells.ownerReference owned
  refine ⟨boot, respells.bootConfig booted, arguments, respells.kernelArguments given, labels,
    respells.machineConfigLabels ▸ labelled, owner, same, ?_⟩
  rwa [shown, respells.kernelType]

theorem kubeletSettings : second.kubeletSettings =
    { first.kubeletSettings with reservedSystemCpus := some second.spec.cpu.reserved } := by
  unfold Profile.kubeletSettings topologyPolicy
  rw [respells.spec]
  rfl

theorem kubeletConfig {config : KubeletConfig} (ok : first.kubeletConfig = .ok config) :
    second.kubeletConfig = .ok (config.reserving second.spec.cpu.reserved) := by
  simp only [Profile.kubeletConfig, except_bind_eq_ok_iff] at ok ⊢
  obtain ⟨labels, labelled, owner, owned, done⟩ := ok
  obtain ⟨same, shown⟩ := respells.ownerReference owned
  cases done
  refine ⟨labels, respells.poolLabels ▸ labelled, owner, same, ?_⟩
  rw [shown, respells.kubeletSettings]
  rfl

theorem tunedOptions {options : TunedOptions} (ok : first.tunedOptions = .ok options) :
    second.tunedOptions = .ok options := by
  simp only [Profile.tunedOptions, hugePagePairs, except_bind_eq_ok_iff] at ok ⊢
  obtain ⟨cpus, read, pairs, ⟨pages, known, paired⟩, done⟩ := ok
  refine ⟨cpus, respells.cpuSets read, pairs,
    ⟨pages, respells.hugePageArguments ▸ known, paired⟩, ?_⟩
  unfold balanceIsolated at done ⊢
  rw [respells.spec]
  exact done

theorem tuned {inNamespace : String} {object : Tuned} (ok : first.tuned inNamespace = .ok object) :
    second.tuned inNamespace = .ok object := by
  simp only [Profile.tuned, except_bind_eq_ok_iff] at ok ⊢
  obtain ⟨options, given, labels, labelled, owner, owned, done⟩ := ok
  obtain ⟨same, shown⟩ := respells.ownerReference owned
  refine ⟨options, respells.tunedOptions given, labels, respells.machineConfigLabels ▸ labelled,
    owner, same, ?_⟩
  rwa [shown]

theorem runtimeClass {object : RuntimeClass} (ok : first.runtimeClass = .ok object) :
    second.runtimeClass = .ok object := by
  simp only [Profile.runtimeClass, except_bind_eq_ok_iff] at ok ⊢
  obtain ⟨owner, owned, done⟩ := ok
  obtain ⟨same, shown⟩ := respells.ownerReference owned
  refine ⟨owner, same, ?_⟩
  rw [shown, respells.spec]
  exact done

/-- What is derived from one profile is derived from the other, with the reserved CPUs in the
spelling of the other. -/
theorem components {tunedNamespace : String} {components : Components}
    (ok : first.components tunedNamespace = .ok components) :
    second.components tunedNamespace =
      .ok (components.reserving second.spec.cpu.reserved) := by
  obtain ⟨machineConfig, kubeletConfig, tuned, runtimeClass⟩ := components_eq_ok_iff.1 ok
  exact components_eq_ok_iff.2 ⟨respells.machineConfig machineConfig,
    respells.kubeletConfig kubeletConfig, respells.tuned tuned, respells.runtimeClass runtimeClass⟩

theorem name_eq {tunedNamespace : String} {components : Components}
    (ok : first.components tunedNamespace = .ok components) : second.name = first.name := by
  have runtimeClass := (components_eq_ok_iff.1 ok).2.2.2
  simp only [Profile.runtimeClass, except_bind_eq_ok_iff] at runtimeClass
  obtain ⟨owner, owned, _⟩ := runtimeClass
  exact (respells.ownerReference owned).2

theorem derivable_iff (tunedNamespace : String) :
    (∃ components, first.components tunedNamespace = .ok components) ↔
      ∃ components, second.components tunedNamespace = .ok components := by
  constructor
  · rintro ⟨_, ok⟩
    exact ⟨_, respells.components ok⟩
  · rintro ⟨_, ok⟩
    exact ⟨_, respells.symm.components ok⟩

theorem respelled {tunedNamespace : String} {one two : Components}
    (derived : first.components tunedNamespace = .ok one)
    (again : second.components tunedNamespace = .ok two) :
    one.Respelled two first.spec.cpu.reserved second.spec.cpu.reserved := by
  have whole := respells.components derived
  obtain rfl : two = one.reserving second.spec.cpu.reserved :=
    Except.ok.inj (again.symm.trans whole)
  exact {
    machineConfig := rfl
    tuned := rfl
    runtimeClass := rfl
    kubeletConfig := rfl
    before := reservedSystemCpus_of_kubeletConfig (components_eq_ok_iff.1 derived).2.1
    after := reservedSystemCpus_of_kubeletConfig (components_eq_ok_iff.1 again).2.1 }

end Profile.Respells
end NodeTuning
