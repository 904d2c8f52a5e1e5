import NodeTuning.Proofs.Component.Derivability
import NodeTuning.Proofs.Component.PageArguments
import NodeTuning.Proofs.Component.Readers

/-!
The division of the CPUs as the components have it. Six lists of CPUs are written for the parts of
a node, each in a format of its own. Main statement: what those parts read is the one division that
the profile gives.
-/
namespace NodeTuning
open Text

namespace Profile
variable {profile : Profile} {reserved isolated : CpuSet}

def Static (profile : Profile) : Prop := profile.spec.cpu.balanceIsolated = some false

theorem balanceIsolated_eq_false_iff : profile.balanceIsolated = false ↔ profile.Static := by
  rw [balanceIsolated, Static]
  cases profile.spec.cpu.balanceIsolated <;> simp

end Profile

/-- What stands behind `isolcpus=`. The CPUs are named only if they are kept out of load
balancing. -/
structure IsolationForm (fixed : Prop) (value list : String) : Prop where
  named : fixed → value = "domain,managed_irq," ++ list
  balanced : ¬ fixed → value = "managed_irq"

/-- What was found is a list of these CPUs. -/
def Lists (found : Option String) (cpus : CpuSet) : Prop :=
  ∃ list, found = some list ∧ CpuSet.parse list = .ok cpus

namespace Components

/-- Each part of a node reads the reserved CPUs or the isolated ones from the components. -/
structure Divides (components : Components) (reserved isolated : CpuSet) : Prop where
  affinity : ∃ list, components.machineConfig.argumentsAfter "systemd.cpu_affinity=" = [list] ∧
    CpuSet.parse list = .ok reserved
  boot : Lists (components.machineConfig.environment? "pre-boot-tuning.service" "RESERVED_CPUS")
    reserved
  runtimes : ∃ text, components.machineConfig.fileText? BootFiles.runtimesPath = some text ∧
    ¬ BootFiles.reservedMark.toList <:+: text.toList ∧
    Lists (quotedSetting? text "crio.runtime" "infra_ctr_cpuset") reserved
  kubelet : Lists (components.kubeletConfig.spec.kubeletConfig.bind (·.reservedSystemCpus)) reserved
  daemon : Lists (components.tuned.setting? "variables" "isolated_cores") isolated

/-- The kernel and the tuning daemon isolate the CPUs in one form. -/
structure Isolates (components : Components) (fixed : Prop) (isolated : CpuSet) : Prop where
  kernel : ∃ value list, components.machineConfig.argumentsAfter "isolcpus=" = [value] ∧
    CpuSet.parse list = .ok isolated ∧ IsolationForm fixed value list
  daemon : ∃ line value, components.tuned.setting? "bootloader" "cmdline_realtime" = some line ∧
    valuesAfter "isolcpus=" (words line) = [value] ∧
    IsolationForm fixed value "$\x7bisolated_cores\x7d"

end Components

namespace TunedOptions

theorem realTimeLine_form (options : TunedOptions) :
    ∃ value, valuesAfter "isolcpus=" (words options.realTimeLine) = [value] ∧
      IsolationForm (options.staticIsolation = true) value "$\x7bisolated_cores\x7d" := by
  unfold realTimeLine isolationArgument
  cases options.staticIsolation with
  | true =>
    refine ⟨"domain,managed_irq,$\x7bisolated_cores\x7d", by decide +kernel, fun _ => ?_, ?_⟩
    · decide +kernel
    · exact fun loose => absurd rfl loose
  | false => exact ⟨"managed_irq", by decide +kernel, nofun, fun _ => rfl⟩

end TunedOptions

namespace Profile
variable {profile : Profile} {reserved isolated : CpuSet}

theorem isolationArgument_form (profile : Profile) (isolated : CpuSet) :
    ∃ value, profile.isolationArgument isolated = "isolcpus=" ++ value ∧
      IsolationForm profile.Static value isolated.listText := by
  rw [isolationArgument]
  cases balanced : profile.balanceIsolated with
  | true =>
    have loose : ¬ profile.Static := by simp [← balanceIsolated_eq_false_iff, balanced]
    exact ⟨"managed_irq", by rw [if_pos rfl]; rfl, fun fixed => absurd fixed loose, fun _ => rfl⟩
  | false =>
    have fixed := balanceIsolated_eq_false_iff.1 balanced
    refine ⟨"domain,managed_irq," ++ isolated.listText, ?_, fun _ => rfl, fun loose => ?_⟩
    · rw [if_neg (by simp), ← String.append_assoc]
      rfl
    · exact absurd fixed loose

section MachineConfig
variable {config : MachineConfig} (cpus : profile.cpuSets = .ok (reserved, isolated))
  (ok : profile.machineConfig = .ok config)
include cpus ok

theorem kernelArguments_of_machineConfig : ∃ pages, profile.hugePageArguments = .ok pages ∧
    config.spec.kernelArguments = baseKernelArguments ++
      [profile.isolationArgument isolated, "systemd.cpu_affinity=" ++ reserved.listText] ++
        pages := by
  simp only [machineConfig, kernelArguments, cpus, except_bind_eq_ok_iff] at ok
  obtain ⟨_, _, _, ⟨_, same, pages, known, listed⟩, _, _, _, _, done⟩ := ok
  cases same
  cases listed
  cases done
  exact ⟨pages, known, rfl⟩

theorem bootConfig_of_machineConfig : ∃ allocations,
    profile.allocationUnits = .ok allocations ∧
    config.spec.config = ⟨bootConfigVersion, some (bootFiles reserved.listText),
      some (BootUnits.tuning reserved.listText reserved.invertedMaskList :: allocations)⟩ := by
  simp only [machineConfig, bootConfig, cpus, except_bind_eq_ok_iff] at ok
  obtain ⟨_, ⟨_, same, allocations, allocated, written⟩, _, _, _, _, _, _, done⟩ := ok
  cases same
  cases written
  cases done
  exact ⟨allocations, allocated, rfl⟩

theorem argumentsAfter_affinity :
    config.argumentsAfter "systemd.cpu_affinity=" = [reserved.listText] := by
  obtain ⟨pages, known, arguments⟩ := kernelArguments_of_machineConfig cpus ok
  have others := onHugePages_of_hugePageArguments known
  have stem : "systemd.cpu_affinity=".toList = 's' :: "ystemd.cpu_affinity=".toList := by decide
  have base : valuesAfter "systemd.cpu_affinity=" baseKernelArguments = [] := by decide +kernel
  have last : valuesAfter "systemd.cpu_affinity=" pages = [] :=
    valuesAfter_eq_nil stem fun text member => (others text member).head_ne (by decide) (by decide)
  have isolation : after? "systemd.cpu_affinity=" (profile.isolationArgument isolated) = none := by
    refine after?_eq_none_of_head stem ?_
    unfold isolationArgument
    split <;> simp
  rw [MachineConfig.argumentsAfter, arguments, valuesAfter_append, valuesAfter_append, base, last]
  simp [valuesAfter, isolation]

theorem argumentsAfter_isolation : ∃ value, config.argumentsAfter "isolcpus=" = [value] ∧
    IsolationForm profile.Static value isolated.listText := by
  obtain ⟨value, written, form⟩ := profile.isolationArgument_form isolated
  obtain ⟨pages, known, arguments⟩ := kernelArguments_of_machineConfig cpus ok
  have others := onHugePages_of_hugePageArguments known
  have stem : "isolcpus=".toList = 'i' :: "solcpus=".toList := by decide
  have base : valuesAfter "isolcpus=" baseKernelArguments = [] := by decide +kernel
  have last : valuesAfter "isolcpus=" pages = [] :=
    valuesAfter_eq_nil stem fun text member => (others text member).head_ne (by decide) (by decide)
  have affinity : after? "isolcpus=" ("systemd.cpu_affinity=" ++ reserved.listText) = none :=
    after?_eq_none_of_head stem (by simp)
  refine ⟨value, ?_, form⟩
  rw [MachineConfig.argumentsAfter, arguments, valuesAfter_append, valuesAfter_append, base, last]
  simp [valuesAfter, affinity, written]

theorem environment?_of_machineConfig (name : String) :
    config.environment? "pre-boot-tuning.service" name =
      SortedMap.lookup name (tuningVariables reserved) := by
  obtain ⟨allocations, -, boot⟩ := bootConfig_of_machineConfig cpus ok
  rw [MachineConfig.environment?, boot, Option.getD_some, List.find?_cons_of_pos (by rfl),
    Option.bind_some, environment?_tuning]

theorem fileText?_runtimes :
    config.fileText? BootFiles.runtimesPath = some (BootFiles.runtimes reserved.listText) := by
  obtain ⟨allocations, -, boot⟩ := bootConfig_of_machineConfig cpus ok
  have found : (bootFiles reserved.listText).find? (·.path = BootFiles.runtimesPath) =
      some (rootFile BootFiles.runtimesPath 420 (BootFiles.runtimes reserved.listText)) := rfl
  rw [MachineConfig.fileText?, boot, Option.getD_some, found, Option.bind_some, rootFile,
    dataText?_dataUrl]

end MachineConfig

theorem reservedSystemCpus_of_kubeletConfig {config : KubeletConfig}
    (ok : profile.kubeletConfig = .ok config) :
    config.spec.kubeletConfig.bind (·.reservedSystemCpus) = some profile.spec.cpu.reserved := by
  simp only [Profile.kubeletConfig, except_bind_eq_ok_iff] at ok
  obtain ⟨_, _, _, _, done⟩ := ok
  cases done
  rfl

section Tuned
variable {tunedNamespace : String} {tuned : Tuned}
  (cpus : profile.cpuSets = .ok (reserved, isolated))
  (ok : profile.tuned tunedNamespace = .ok tuned)
include cpus ok

theorem options_of_tuned : ∃ (options : TunedOptions) (title : String),
    profile.tunedOptions = .ok options ∧ tuned.spec.profiles = [⟨title, options.text⟩] ∧
      options.isolated = isolated.listText ∧ (options.staticIsolation = true ↔ profile.Static) := by
  simp only [Profile.tuned, except_bind_eq_ok_iff] at ok
  obtain ⟨options, given, _, _, _, _, done⟩ := ok
  cases done
  refine ⟨options, _, given, rfl, ?_⟩
  simp only [tunedOptions, cpus, except_bind_eq_ok_iff] at given
  obtain ⟨_, same, _, _, made⟩ := given
  cases same
  cases made
  refine ⟨rfl, ?_⟩
  rw [← balanceIsolated_eq_false_iff]
  simp

theorem isolated_of_tuned :
    tuned.setting? "variables" "isolated_cores" = some isolated.listText := by
  obtain ⟨options, title, -, profiles, list, -⟩ := options_of_tuned cpus ok
  have free : '\n' ∉ options.isolated.toList := list ▸ isolated.newline_notMem_listText
  rw [Tuned.setting?_of_profiles profiles, TunedOptions.setting?_isolated_cores free, list]

theorem isolates_of_tuned : ∃ line value,
    tuned.setting? "bootloader" "cmdline_realtime" = some line ∧
      valuesAfter "isolcpus=" (words line) = [value] ∧
      IsolationForm profile.Static value "$\x7bisolated_cores\x7d" := by
  obtain ⟨options, title, -, profiles, list, static⟩ := options_of_tuned cpus ok
  have free : '\n' ∉ options.isolated.toList := list ▸ isolated.newline_notMem_listText
  obtain ⟨value, only, form⟩ := options.realTimeLine_form
  refine ⟨options.realTimeLine, value, ?_, only, ?_⟩
  · rw [Tuned.setting?_of_profiles profiles, TunedOptions.setting?_cmdline_realtime free]
  · rwa [← static]

end Tuned

theorem components_of_validate (tunedNamespace : String) (name : profile.metadata.name.isSome)
    (uid : profile.metadata.uid.isSome) (valid : profile.validate = .ok ()) :
    (∃ components, profile.components tunedNamespace = .ok components) ∧ profile.CpusDivided := by
  obtain ⟨derivable, divided, -⟩ := validate_eq_ok_iff.1 valid
  obtain ⟨owner, owned⟩ := ownerReference_of_identity name uid
  exact ⟨(components_of_derivable derivable tunedNamespace).1 owner owned, divided⟩

/-- For a profile that is accepted and can own them, components are derived in which every list of
CPUs is one of the two lists of the profile, whatever its spelling. The isolated CPUs are taken out
of load balancing exactly if the profile says so, by the kernel and by the tuning daemon alike. -/
theorem components_divide_cpus (tunedNamespace : String) (name : profile.metadata.name.isSome)
    (uid : profile.metadata.uid.isSome) (valid : profile.validate = .ok ()) :
    ∃ components reserved isolated, profile.components tunedNamespace = .ok components ∧
      CpuSet.parse profile.spec.cpu.reserved = .ok reserved ∧
      CpuSet.parse profile.spec.cpu.isolated = .ok isolated ∧
      (∃ cpu, cpu ∈ reserved) ∧ (∃ cpu, cpu ∈ isolated) ∧ (∀ cpu, cpu ∈ reserved → cpu ∉ isolated) ∧
      components.Divides reserved isolated ∧
      components.Isolates (profile.spec.cpu.balanceIsolated = some false) isolated := by
  obtain ⟨⟨components, ok⟩, reserved, isolated, cpus, some, other, apart⟩ :=
    components_of_validate tunedNamespace name uid valid
  obtain ⟨machineConfig, kubeletConfig, tuned, -⟩ := components_eq_ok_iff.1 ok
  obtain ⟨reservedRead, isolatedRead⟩ := cpuSets_eq_ok_iff.1 cpus
  have reservedList := CpuSet.parse_listText (CpuSet.le_of_parse reservedRead)
  have isolatedList := CpuSet.parse_listText (CpuSet.le_of_parse isolatedRead)
  refine ⟨components, reserved, isolated, ok, reservedRead, isolatedRead, some, other, apart,
    ⟨?_, ?_, ?_, ?_, ?_⟩, ⟨?_, ?_⟩⟩
  · exact ⟨_, argumentsAfter_affinity cpus machineConfig, reservedList⟩
  · exact ⟨_, environment?_of_machineConfig cpus machineConfig "RESERVED_CPUS", reservedList⟩
  · have brace := reserved.notMem_listText (show Char.isDigit '\x7b' = false by decide) (by decide)
      (by decide)
    exact ⟨_, fileText?_runtimes cpus machineConfig, BootFiles.mark_not_infix_runtimes brace, _,
      quotedSetting?_runtimes reserved.newline_notMem_listText, reservedList⟩
  · exact ⟨_, reservedSystemCpus_of_kubeletConfig kubeletConfig, reservedRead⟩
  · exact ⟨_, isolated_of_tuned cpus tuned, isolatedList⟩
  · obtain ⟨value, only, form⟩ := argumentsAfter_isolation cpus machineConfig
    exact ⟨value, _, only, isolatedList, form⟩
  · exact isolates_of_tuned cpus tuned

/-- Lists in other spellings, of CPUs that are kept out of load balancing. -/
theorem components_divide_cpus_spelled :
    let profile := { smallProfile with
      spec := { smallProfile.spec with cpu := ⟨" 0 , 1", "3,+2", some false⟩ } }
    profile.validate = .ok () ∧ ∃ components,
      profile.components Config.defaultTunedNamespace = .ok components ∧
      components.Divides (.range 0 1) (.range 2 3) ∧ components.Isolates True (.range 2 3) := by
  intro profile
  have valid : profile.validate = .ok () := by decide +kernel
  obtain ⟨components, reserved, isolated, ok, reservedRead, isolatedRead, _, _, _, divides,
    isolates⟩ := components_divide_cpus Config.defaultTunedNamespace rfl rfl valid
  have first : CpuSet.parse " 0 , 1" = .ok (.range 0 1) := by decide +kernel
  have second : CpuSet.parse "3,+2" = .ok (.range 2 3) := by decide +kernel
  cases first.symm.trans reservedRead
  cases second.symm.trans isolatedRead
  refine ⟨valid, components, ok, divides, ?_⟩
  rwa [eq_self] at isolates

end Profile
end NodeTuning
