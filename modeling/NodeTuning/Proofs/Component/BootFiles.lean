import NodeTuning.Proofs.Component.CpuPartition
import NodeTuning.Proofs.Controller.Branches

/-!
The files that nodes get at boot, which are sent as data URLs. Main statement: the URLs are proper
Base64 of the texts in UTF-8 and are read back, so nodes get the two scripts and the template of the
runtime's settings with the list of reserved CPUs filled in.
-/
namespace NodeTuning
open Text

theorem dataUrl_injective : Function.Injective dataUrl := by
  intro first second same
  have read := dataText?_dataUrl first
  rw [same, dataText?_dataUrl] at read
  exact (Option.some.inj read).symm

theorem dataText?_bootFiles (reserved : String) :
    (bootFiles reserved).map (fun file => (file.path, dataText? file.source)) = [
      (BootFiles.tuningPath, some BootFiles.tuningScript),
      (BootFiles.allocationPath, some BootFiles.allocationScript),
      (BootFiles.runtimesPath, some (BootFiles.runtimes reserved))] := by
  simp only [bootFiles, rootFile, List.map_cons, List.map_nil, dataText?_dataUrl]

theorem Profile.files_of_machineConfig {profile : Profile} {config : MachineConfig}
    (ok : profile.machineConfig = .ok config) :
    ∃ reserved isolated, profile.cpuSets = .ok (reserved, isolated) ∧
      config.spec.config.files = some (bootFiles reserved.listText) := by
  have built := ok
  simp only [machineConfig, bootConfig, except_bind_eq_ok_iff] at built
  obtain ⟨_, ⟨⟨reserved, isolated⟩, cpus, _⟩, _⟩ := built
  obtain ⟨allocations, _, written⟩ := bootConfig_of_machineConfig cpus ok
  exact ⟨reserved, isolated, cpus, by rw [written]⟩

/-- A data URL is the bytes of its text in UTF-8 as padded Base64 with the standard alphabet, and is
read back as that text. So a node gets the two scripts as they are, and the template with the list
of reserved CPUs instead of its mark, which stands in it once. -/
theorem data_urls_lossless :
    (∀ text, ∃ digits body padding,
      dataUrl text = "data:text/plain;charset=utf-8;base64," ++ String.ofList digits ∧
      Base64.Spells digits (text.toList.flatMap String.utf8EncodeChar) body padding ∧
      Base64.decode? digits = some (text.toList.flatMap String.utf8EncodeChar)) ∧
    Function.Injective dataUrl ∧
    (∃ front back, '\x7b' ∉ front ∧ '\x7b' ∉ back ∧
      BootFiles.runtimesTemplate.toList = front ++ BootFiles.reservedMark.toList ++ back ∧
      ∀ reserved, (BootFiles.runtimes reserved).toList = front ++ reserved.toList ++ back) ∧
    ∀ profile config, Profile.machineConfig profile = .ok config →
      ∃ reserved isolated files, profile.cpuSets = .ok (reserved, isolated) ∧
        config.spec.config.files = some files ∧
        files.map (fun file => (file.path, dataText? file.source)) = [
          (BootFiles.tuningPath, some BootFiles.tuningScript),
          (BootFiles.allocationPath, some BootFiles.allocationScript),
          (BootFiles.runtimesPath, some (BootFiles.runtimes reserved.listText))] := by
  refine ⟨fun text => ?_, dataUrl_injective, ?_, fun profile config ok => ?_⟩
  · obtain ⟨body, padding, spells⟩ := Base64.spells_encode (Base64.bytes text)
    have read := Base64.decode?_encode (Base64.bytes text)
    rw [← Base64.bytes_eq_flatMap]
    exact ⟨Base64.encode (Base64.bytes text), body, padding, rfl, spells, read⟩
  · exact ⟨BootFiles.runtimesFront, BootFiles.runtimesBack, BootFiles.brace_notMem_runtimesFront,
      BootFiles.brace_notMem_runtimesBack, BootFiles.toList_runtimesTemplate,
      BootFiles.toList_runtimes_eq⟩
  · obtain ⟨reserved, isolated, cpus, files⟩ := profile.files_of_machineConfig ok
    exact ⟨reserved, isolated, _, cpus, files, dataText?_bootFiles reserved.listText⟩

/-- Five bytes for two characters, and the files for the reserved CPUs 0 and 1. -/
theorem data_urls_lossless_small :
    (∃ digits body padding,
      dataUrl "é€" = "data:text/plain;charset=utf-8;base64," ++ String.ofList digits ∧
      Base64.Spells digits [0xC3, 0xA9, 0xE2, 0x82, 0xAC] body padding) ∧
    ∃ config files, smallProfile.machineConfig = .ok config ∧
      config.spec.config.files = some files ∧
      files.map (fun file => dataText? file.source) = [some BootFiles.tuningScript,
        some BootFiles.allocationScript, some (BootFiles.runtimes "0-1")] := by
  obtain ⟨urls, -, -, configs⟩ := data_urls_lossless
  constructor
  · obtain ⟨digits, body, padding, written, spells, -⟩ := urls "é€"
    exact ⟨digits, body, padding, written, spells⟩
  · have valid : smallProfile.validate = .ok () := by decide +kernel
    obtain ⟨⟨components, derived⟩, -⟩ :=
      Profile.components_of_validate Config.defaultTunedNamespace rfl rfl valid
    have ok := (Profile.components_eq_ok_iff.1 derived).1
    obtain ⟨reserved, isolated, files, cpus, stored, texts⟩ := configs smallProfile _ ok
    have first : smallProfile.cpuSets = .ok (.range 0 1, .range 2 3) := by decide +kernel
    have list : (CpuSet.range 0 1).listText = "0-1" := by decide +kernel
    cases first.symm.trans cpus
    rw [list] at texts
    have contents := congrArg (List.map Prod.snd) texts
    rw [List.map_map] at contents
    exact ⟨components.machineConfig, files, ok, stored, contents⟩

end NodeTuning
