import NodeTuning.Proofs.Component.HugePages

/-!
The names that a machine config gives to units and files on a node. What has the name of another is
written over it. Main statement: files never share a path, and units share a name exactly if pages
of one size are asked for twice on one node.
-/
namespace NodeTuning
open Text

theorem nodup_map_iff_of_paired {α β γ δ : Type} {relation : α → β → Prop} {f : α → γ} {g : β → δ}
    (agree : ∀ first one second two, relation first one → relation second two →
      (f first = f second ↔ g one = g two))
    {items : List α} {results : List β} (paired : List.Forall₂ relation items results) :
    (items.map f).Nodup ↔ (results.map g).Nodup := by
  induction paired with
  | nil => simp
  | @cons item result items results own rest ih =>
    have among : f item ∈ items.map f ↔ g result ∈ results.map g := by
      clear ih
      induction rest with
      | nil => simp
      | cons other _ ih =>
        rw [List.map_cons, List.map_cons, List.mem_cons, List.mem_cons, ih,
          agree _ _ _ _ own other]
    rw [List.map_cons, List.map_cons, List.nodup_cons, List.nodup_cons, among, ih]

namespace BootUnits
variable {firstKb secondKb : Nat} {firstCount secondCount firstNode secondNode : UInt32}

theorem name_allocation (kb : Nat) (count node : UInt32) : (allocation kb count node).name =
    "hugepages-allocation-" ++ toString kb ++ "kB-NUMA" ++ toString node.toNat ++ ".service" := rfl

theorem toList_name_allocation (kb : Nat) (count node : UInt32) :
    (allocation kb count node).name.toList = "hugepages-allocation-".toList ++ (decimal kb ++
      'k' :: ("B-NUMA".toList ++ (decimal node.toNat ++ ".service".toList))) := by
  have mark : "kB-NUMA".toList = 'k' :: "B-NUMA".toList := by decide
  simp only [name_allocation, String.toList_append, Nat.toString_eq_repr, Nat.toList_repr, mark,
    decimal, List.append_assoc, List.cons_append]

/-- The name of a unit tells for which size it is, and for which node. -/
theorem name_allocation_inj :
    (allocation firstKb firstCount firstNode).name =
      (allocation secondKb secondCount secondNode).name ↔
        firstKb = secondKb ∧ firstNode = secondNode := by
  constructor
  · intro same
    have letters := congrArg String.toList same
    rw [toList_name_allocation, toList_name_allocation] at letters
    have behind := List.append_cancel_left letters
    have unmarked : ∀ n : Nat, 'k' ∉ decimal n := notMem_decimal (by decide)
    have halves := congrArg (cut 'k') behind
    rw [cut_append (unmarked _), cut_append (unmarked _)] at halves
    obtain ⟨size, rest⟩ := Prod.mk.inj (Option.some.inj halves)
    have place := List.append_cancel_right (List.append_cancel_left rest)
    exact ⟨decimal_inj.1 size, UInt32.toNat_inj.1 (decimal_inj.1 place)⟩
  · rintro ⟨rfl, rfl⟩
    rfl

theorem name_tuning_ne_name_allocation (reserved mask : String) (kb : Nat) (count node : UInt32) :
    (tuning reserved mask).name ≠ (allocation kb count node).name := by
  intro same
  have letters := congrArg String.toList same
  rw [toList_name_allocation] at letters
  have first := congrArg List.head? letters
  simp [tuning] at first

end BootUnits

/-- The size of a page and the node it is for. -/
def HugePage.placement (page : HugePage) : String × Option UInt32 := (page.size, page.node)

theorem HugePage.BootedBy.name_eq_iff {first second : HugePage} {one two : SystemdUnit}
    (own : first.BootedBy one) (other : second.BootedBy two) :
    first.placement = second.placement ↔ one.name = two.name := by
  obtain ⟨firstNode, firstKb, firstPlaced, firstKnown, rfl⟩ := own
  obtain ⟨secondNode, secondKb, secondPlaced, secondKnown, rfl⟩ := other
  rw [placement, placement, firstPlaced, secondPlaced, Prod.mk.injEq, Option.some.injEq,
    hugePageKb_inj firstKnown secondKnown, BootUnits.name_allocation_inj]

namespace Profile
variable {profile : Profile}

theorem paths_of_bootFiles (reserved : String) :
    ((bootFiles reserved).map (·.path)).Nodup := by
  have paths : (bootFiles reserved).map (·.path) =
      [BootFiles.tuningPath, BootFiles.allocationPath, BootFiles.runtimesPath] := rfl
  rw [paths]
  decide +kernel

theorem name_tuning_notMem {pages : List HugePage} {units : List SystemdUnit}
    (reserved mask : String) (paired : List.Forall₂ HugePage.BootedBy pages units) :
    (BootUnits.tuning reserved mask).name ∉ units.map (·.name) := by
  induction paired with
  | nil => simp
  | cons own _ ih =>
    obtain ⟨node, kb, -, -, rfl⟩ := own
    rw [List.map_cons, List.mem_cons, not_or]
    exact ⟨BootUnits.name_tuning_ne_name_allocation reserved mask kb _ node, ih⟩

theorem names_of_allocationUnits {allocations : List SystemdUnit} (reserved mask : String)
    (ok : profile.allocationUnits = .ok allocations) :
    ((BootUnits.tuning reserved mask :: allocations).map (·.name)).Nodup ↔
      (profile.pinnedPages.map HugePage.placement).Nodup := by
  have paired := booted_of_allocationUnits ok
  rw [List.map_cons, List.nodup_cons, and_iff_right (name_tuning_notMem reserved mask paired)]
  refine (nodup_map_iff_of_paired ?_ paired).symm
  intro _ _ _ _ own other
  exact own.name_eq_iff other

/-- For a profile that is accepted and can own them, a machine config is derived in which no two
files have one path. No two units have one name exactly if no two pages have both their size and
their node in common, which the check of a profile does not ask for. -/
theorem boot_names_nodup_iff (tunedNamespace : String) (name : profile.metadata.name.isSome)
    (uid : profile.metadata.uid.isSome) (valid : profile.validate = .ok ()) :
    ∃ components files units, profile.components tunedNamespace = .ok components ∧
      components.machineConfig.spec.config.files = some files ∧
      components.machineConfig.spec.config.units = some units ∧
      (files.map (·.path)).Nodup ∧
      ((units.map (·.name)).Nodup ↔ (profile.pinnedPages.map HugePage.placement).Nodup) := by
  obtain ⟨⟨components, ok⟩, -⟩ := components_of_validate tunedNamespace name uid valid
  obtain ⟨reserved, isolated, cpus⟩ := (derivable_of_components ok).cpus
  obtain ⟨allocations, allocated, config⟩ :=
    bootConfig_of_machineConfig cpus (components_eq_ok_iff.1 ok).1
  refine ⟨components, _, _, ok, by rw [config], by rw [config], paths_of_bootFiles _, ?_⟩
  exact names_of_allocationUnits _ _ allocated

/-- Pages that differ in their size or in their node. -/
theorem boot_names_nodup_apart :
    let profile := { smallProfile with
      spec := { smallProfile.spec with
        hugepages := some ⟨none, [⟨"2M", 8, some 1⟩, ⟨"1G", 8, some 1⟩, ⟨"2M", 8, some 11⟩,
          ⟨"2M", 8, none⟩, ⟨"2M", 8, none⟩]⟩ } }
    profile.validate = .ok () ∧ ∃ components units,
      profile.components Config.defaultTunedNamespace = .ok components ∧
      components.machineConfig.spec.config.units = some units ∧ (units.map (·.name)).Nodup := by
  intro profile
  have valid : profile.validate = .ok () := by decide +kernel
  obtain ⟨components, _, units, ok, -, written, -, apart⟩ :=
    boot_names_nodup_iff Config.defaultTunedNamespace rfl rfl valid
  exact ⟨valid, components, units, ok, written, apart.2 (by decide +kernel)⟩

/-- Two counts of pages of one size on one node are accepted, and give two units one name. -/
theorem boot_names_not_nodup :
    let profile := { smallProfile with
      spec := { smallProfile.spec with
        hugepages := some ⟨none, [⟨"2M", 8, some 0⟩, ⟨"2M", 16, some 0⟩]⟩ } }
    profile.metadata.name.isSome ∧ profile.metadata.uid.isSome ∧ profile.validate = .ok () ∧
      ∃ components units, profile.components Config.defaultTunedNamespace = .ok components ∧
        components.machineConfig.spec.config.units = some units ∧
        units.map (·.name) = ["pre-boot-tuning.service",
          "hugepages-allocation-2048kB-NUMA0.service",
          "hugepages-allocation-2048kB-NUMA0.service"] ∧ ¬ (units.map (·.name)).Nodup := by
  intro profile
  have valid : profile.validate = .ok () := by decide +kernel
  obtain ⟨⟨components, ok⟩, -⟩ :=
    components_of_validate Config.defaultTunedNamespace rfl rfl valid
  obtain ⟨reserved, isolated, cpus⟩ := (derivable_of_components ok).cpus
  obtain ⟨allocations, allocated, config⟩ :=
    bootConfig_of_machineConfig cpus (components_eq_ok_iff.1 ok).1
  have made : profile.allocationUnits =
      .ok [BootUnits.allocation 2048 8 0, BootUnits.allocation 2048 16 0] := rfl
  cases made.symm.trans allocated
  have named : (BootUnits.allocation 2048 8 0).name =
      "hugepages-allocation-2048kB-NUMA0.service" := by decide +kernel
  have names : [BootUnits.tuning reserved.listText reserved.invertedMaskList,
      BootUnits.allocation 2048 8 0, BootUnits.allocation 2048 16 0].map (·.name) =
        ["pre-boot-tuning.service", "hugepages-allocation-2048kB-NUMA0.service",
          "hugepages-allocation-2048kB-NUMA0.service"] := by
    rw [← named]
    rfl
  refine ⟨rfl, rfl, valid, components, _, ok, by rw [config], names, ?_⟩
  rw [names]
  decide

end Profile
end NodeTuning
