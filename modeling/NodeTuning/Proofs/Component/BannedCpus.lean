import NodeTuning.Proofs.Component.CpuPartition

/-!
The CPUs that are kept from the balancing of interrupts. The program that tunes a node at boot bans
the CPUs of the mask that its unit gives it. Main statement: those are the CPUs outside the reserved
ones, up to the width of the mask. As the width follows from the reserved CPUs alone, isolated CPUs
may be beyond it.
-/
namespace NodeTuning.Profile
open Text
variable {profile : Profile} {reserved isolated : CpuSet}

theorem bootMask_of_machineConfig {config : MachineConfig}
    (cpus : profile.cpuSets = .ok (reserved, isolated)) (ok : profile.machineConfig = .ok config) :
    ∃ mask number,
      config.environment? "pre-boot-tuning.service" "RESERVED_CPU_MASK_INVERT" = some mask ∧
      wordsNumber? mask = some number ∧
      ∀ cpu, number.testBit cpu = true ↔
        cpu ∉ reserved ∧ cpu < max 64 (32 * reserved.wordCount) := by
  obtain ⟨number, read, bits⟩ := reserved.testBit_invertedMaskList
  have width : 32 * reserved.invertedWordCount = max 64 (32 * reserved.wordCount) := by
    rw [CpuSet.invertedWordCount]
    omega
  rw [width] at bits
  exact ⟨_, number, environment?_of_machineConfig cpus ok "RESERVED_CPU_MASK_INVERT", read, bits⟩

/-- Of the CPUs that the mask can name, at least 64 and all up to the word of the highest reserved
one, exactly those outside the reserved CPUs are banned. So no reserved CPU is, and an isolated one
is exactly if the mask can name it. -/
theorem boot_bans_cpus (tunedNamespace : String) (name : profile.metadata.name.isSome)
    (uid : profile.metadata.uid.isSome) (valid : profile.validate = .ok ()) :
    ∃ components reserved isolated mask number,
      profile.components tunedNamespace = .ok components ∧
      CpuSet.parse profile.spec.cpu.reserved = .ok reserved ∧
      CpuSet.parse profile.spec.cpu.isolated = .ok isolated ∧
      components.machineConfig.environment? "pre-boot-tuning.service" "RESERVED_CPU_MASK_INVERT" =
        some mask ∧
      wordsNumber? mask = some number ∧
      (∀ cpu, number.testBit cpu = true ↔
        cpu ∉ reserved ∧ cpu < max 64 (32 * reserved.wordCount)) ∧
      (∀ cpu ∈ reserved, number.testBit cpu = false) ∧
      ∀ cpu ∈ isolated, number.testBit cpu = true ↔ cpu < max 64 (32 * reserved.wordCount) := by
  obtain ⟨⟨components, ok⟩, reserved, isolated, cpus, -, -, apart⟩ :=
    components_of_validate tunedNamespace name uid valid
  obtain ⟨reservedRead, isolatedRead⟩ := cpuSets_eq_ok_iff.1 cpus
  obtain ⟨mask, number, given, read, bits⟩ :=
    bootMask_of_machineConfig cpus (components_eq_ok_iff.1 ok).1
  refine ⟨components, reserved, isolated, mask, number, ok, reservedRead, isolatedRead, given, read,
    bits, fun cpu member => ?_, fun cpu member => ?_⟩
  · rw [← Bool.not_eq_true, bits]
    exact fun banned => banned.1 member
  · rw [bits]
    exact and_iff_right fun inside => apart cpu inside member

theorem boot_bans_cpus_small : smallProfile.validate = .ok () ∧
    ∃ components mask number,
      smallProfile.components Config.defaultTunedNamespace = .ok components ∧
      components.machineConfig.environment? "pre-boot-tuning.service" "RESERVED_CPU_MASK_INVERT" =
        some mask ∧
      wordsNumber? mask = some number ∧ ∀ cpu, number.testBit cpu = true ↔ 2 ≤ cpu ∧ cpu < 64 := by
  have valid : smallProfile.validate = .ok () := by decide +kernel
  obtain ⟨components, reserved, isolated, mask, number, ok, reservedRead, _, given, read, bits,
    _⟩ := boot_bans_cpus Config.defaultTunedNamespace rfl rfl valid
  have first : CpuSet.parse "0-1" = .ok (.range 0 1) := by decide +kernel
  cases first.symm.trans reservedRead
  refine ⟨valid, components, mask, number, ok, given, read, fun cpu => ?_⟩
  rw [bits, CpuSet.mem_range]
  have width : max 64 (32 * (CpuSet.range 0 1).wordCount) = 64 := by decide
  omega

/-- The highest of 65 CPUs is isolated and not banned, as two reserved CPUs make a mask of 64. -/
theorem boot_misses_cpu :
    let profile := { smallProfile with
      spec := { smallProfile.spec with cpu := ⟨"0-1", "2-64", none⟩ } }
    profile.metadata.name.isSome ∧ profile.metadata.uid.isSome ∧ profile.validate = .ok () ∧
      ∃ components isolated mask number,
        profile.components Config.defaultTunedNamespace = .ok components ∧
        CpuSet.parse profile.spec.cpu.isolated = .ok isolated ∧
        components.machineConfig.environment? "pre-boot-tuning.service" "RESERVED_CPU_MASK_INVERT" =
          some mask ∧
        wordsNumber? mask = some number ∧ 64 ∈ isolated ∧ number.testBit 64 = false := by
  intro profile
  have valid : profile.validate = .ok () := by decide +kernel
  obtain ⟨⟨components, ok⟩, -⟩ := components_of_validate Config.defaultTunedNamespace
    (show profile.metadata.name.isSome from rfl) rfl valid
  have cpus : profile.cpuSets = .ok (.range 0 1, .range 2 64) := by decide +kernel
  obtain ⟨mask, number, given, read, bits⟩ :=
    bootMask_of_machineConfig cpus (components_eq_ok_iff.1 ok).1
  refine ⟨rfl, rfl, valid, components, .range 2 64, mask, number, ok, (cpuSets_eq_ok_iff.1 cpus).2,
    given, read, by decide, ?_⟩
  rw [← Bool.not_eq_true, bits]
  decide

end NodeTuning.Profile
