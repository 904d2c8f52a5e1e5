import NodeTuning.Proofs.Component.CpuPartition

/-!
Huge pages as the components ask for them. Pages for all nodes are arguments of the kernel, pages
for one node have a unit at boot, and the tuning daemon gets the arguments in a line of its own.
Main statement: each request is made once, and the kernel and the daemon get the same arguments.
-/
namespace NodeTuning
open Text

namespace TunedOptions
variable {options : TunedOptions}

theorem valuesOf_settingIf (condition : Bool) (wanted key value : String) :
    valuesOf wanted (settingIf condition key value) =
      if condition ∧ key = wanted then [value] else [] := by
  cases condition with
  | false => rfl
  | true => by_cases same : key = wanted <;> simp [settingIf, valuesOf, same]

/-- A text that is read to its end has a line on huge pages if there is something for it. -/
theorem settingValues_hugePages (unbroken : options.Unbroken) :
    Text.settingValues options.text "cmdline_hugepages" =
      if options.hugePageParts = [] then [] else ["+ " ++ join " " options.hugePageParts] := by
  have all : options.sections = options.fixedSections ++ [options.bootloader] := rfl
  have before : valuesOf "cmdline_hugepages" ((options.fixedSections.map entriesOf).flatMap
      Prod.snd) = [] := by
    simp [fixedSections, entriesOf, valuesOf, mainSection, variablesSection, cpuSection, vmSection,
      irqbalanceSection, schedulerSection, sysctlSection]
  have first : valuesOf "cmdline_hugepages" options.fixedEntries = [] := by
    simp [fixedEntries, bootloader, valuesOf]
  have own : (entriesOf options.bootloader).2 =
      options.fixedEntries ++ options.hugePageEntries ++ options.lastEntries :=
    options.settings_bootloader
  rw [Text.settingValues, readSections_of_unbroken unbroken, all]
  simp only [List.nil_append, List.map_append, List.flatMap_append, List.map_cons, List.map_nil,
    List.flatMap_cons, List.flatMap_nil, List.append_nil, valuesOf_append, before, first, own,
    hugePageEntries, lastEntries, valuesOf_settingIf]
  simp

/-- Whatever arguments a user adds, the line on huge pages comes before them. -/
theorem setting?_hugePages (isolated : '\n' ∉ options.isolated.toList)
    (pages : options.PagesUnbroken) (filled : options.hugePageParts ≠ []) :
    setting? options.text "bootloader" "cmdline_hugepages" =
      some ("+ " ++ join " " options.hugePageParts) := by
  have legible := options.legible_fixedEntries.append (legible_hugePageEntries pages)
  have read := readSections_text isolated options.settings_bootloader legible
  have first : SortedMap.lookup "cmdline_hugepages" options.fixedEntries = none := by
    simp [fixedEntries, bootloader, SortedMap.lookup]
  have own : SortedMap.lookup "cmdline_hugepages" options.hugePageEntries =
      some ("+ " ++ join " " options.hugePageParts) := by
    rw [hugePageEntries, lookup_settingIf, if_pos (by simp [filled])]
  rw [setting?_of_read read, SortedMap.lookup_append, SortedMap.lookup_append, first,
    own]
  rfl

end TunedOptions

namespace HugePage

/-- The unit hands the count, the size in kB and the node of the page to its program. -/
def AllocatedBy (page : HugePage) (unit : SystemdUnit) : Prop :=
  ∃ node kb, page.node = some node ∧
    ((page.size = "2M" ∧ kb = 2048) ∨ (page.size = "1G" ∧ kb = 1048576)) ∧
    unit.environment = [("HUGEPAGES_COUNT", toString page.count), ("HUGEPAGES_SIZE", toString kb),
      ("NUMA_NODE", toString node)]

variable {pages : List HugePage}

/-- The unit is the one that is made for the page. -/
def BootedBy (page : HugePage) (unit : SystemdUnit) : Prop :=
  ∃ node kb, page.node = some node ∧ hugePageKb page.size = .ok kb ∧
    unit = BootUnits.allocation kb page.count node

theorem BootedBy.allocated {page : HugePage} {unit : SystemdUnit} (booted : page.BootedBy unit) :
    page.AllocatedBy unit := by
  obtain ⟨node, kb, placed, known, rfl⟩ := booted
  exact ⟨node, kb, placed, hugePageKb_eq_ok_iff.1 known, environment_allocation kb page.count node⟩

theorem booted_of_paired {units : List (Option SystemdUnit)}
    (paired : List.Forall₂ (fun page unit => page.unit? = .ok unit) pages units) :
    List.Forall₂ BootedBy (pages.filter (·.node.isSome)) (units.filterMap id) := by
  induction paired with
  | nil => exact .nil
  | @cons page unit _ _ own _ ih =>
    unfold unit? at own
    cases placed : page.node with
    | none =>
      rw [placed] at own
      cases own
      simpa [placed] using ih
    | some node =>
      simp only [placed, except_bind_eq_ok_iff] at own
      obtain ⟨kb, known, done⟩ := own
      cases done
      have first : page.BootedBy (BootUnits.allocation kb page.count node) :=
        ⟨node, kb, placed, known, rfl⟩
      simpa [placed] using List.Forall₂.cons first ih

end HugePage

namespace Profile
variable {profile : Profile}

theorem booted_of_allocationUnits {units : List SystemdUnit}
    (ok : profile.allocationUnits = .ok units) :
    List.Forall₂ HugePage.BootedBy profile.pinnedPages units := by
  unfold allocationUnits at ok
  unfold pinnedPages pages
  cases given : profile.spec.hugepages with
  | none =>
    rw [given] at ok
    cases ok
    exact .nil
  | some hugepages =>
    simp only [given, except_bind_eq_ok_iff] at ok
    obtain ⟨_, mapped, done⟩ := ok
    cases done
    exact HugePage.booted_of_paired (except_paired_of_mapM mapped)

/-- What the text for the daemon is made from. -/
structure PageOptions (profile : Profile) (options : TunedOptions) : Prop where
  defaultSize : options.defaultHugePageSize = profile.pagesDefaultSize
  arguments : options.hugePageArguments = join " " (profile.unpinnedPages.flatMap HugePage.pair)
  additional : options.additionalArguments = join " " profile.spec.additionalKernelArgs

theorem pageOptions_of_tunedOptions {options : TunedOptions}
    (ok : profile.tunedOptions = .ok options) : profile.PageOptions options := by
  simp only [tunedOptions, hugePagePairs, except_bind_eq_ok_iff] at ok
  obtain ⟨_, _, pairs, ⟨arguments, known, joined⟩, done⟩ := ok
  obtain ⟨rfl, -, -⟩ := hugePageArguments_eq_ok known
  cases joined
  cases done
  exact ⟨rfl, congrArg (join " ") profile.filter_wantedArguments, rfl⟩

namespace PageOptions
variable {options : TunedOptions} (made : profile.PageOptions options)
include made

theorem isEmpty_arguments : options.hugePageArguments.isEmpty = true ↔
    profile.unpinnedPages.flatMap HugePage.pair = [] := by
  have filled : ∀ text ∈ profile.unpinnedPages.flatMap HugePage.pair, text ≠ "" := by
    rw [HugePage.forall_mem_pairs]
    simp
  rw [String.isEmpty_iff, made.arguments, join_eq_empty_iff_nil filled]

/-- The daemon's line is made of the kernel's arguments. -/
theorem join_hugePageParts : join " " options.hugePageParts = join " " profile.wantedArguments ∧
    (options.hugePageParts = [] ↔ profile.wantedArguments = []) := by
  have empty := made.isEmpty_arguments
  rw [TunedOptions.hugePageParts, made.defaultSize, wantedArguments]
  by_cases none : profile.unpinnedPages.flatMap HugePage.pair = []
  · rw [if_pos (empty.2 none), none]
    exact ⟨rfl, Iff.rfl⟩
  · rw [if_neg (mt empty.1 none), made.arguments, join_nested none]
    simp [none]

theorem pagesUnbroken (default : ∀ size ∈ profile.pagesDefaultSize, size = "2M" ∨ size = "1G")
    (sizes : ∀ page ∈ profile.unpinnedPages, page.size = "2M" ∨ page.size = "1G") :
    options.PagesUnbroken := by
  have free : ∀ size : String, size = "2M" ∨ size = "1G" → '\n' ∉ size.toList := by
    rintro size (rfl | rfl) <;> decide
  constructor
  · intro size given
    exact free size (default size (made.defaultSize ▸ given))
  · rw [made.arguments]
    refine notMem_join (by decide) (HugePage.forall_mem_pairs.2 fun page asked => ⟨?_, ?_⟩)
    · simp [free page.size (sizes page asked)]
    · have count := newline_notMem_toString page.count.toNat
      rw [String.toList_append, List.mem_append, not_or]
      exact ⟨by decide, count⟩

end PageOptions

section Components
variable {tunedNamespace : String} {components : Components}
  (ok : profile.components tunedNamespace = .ok components)
include ok

theorem hugePageArguments_of_components :
    profile.hugePageArguments = .ok profile.wantedArguments := by
  obtain ⟨reserved, isolated, cpus⟩ := (derivable_of_components ok).cpus
  obtain ⟨_, known, -⟩ := kernelArguments_of_machineConfig cpus (components_eq_ok_iff.1 ok).1
  obtain ⟨rfl, -, -⟩ := hugePageArguments_eq_ok known
  exact known

theorem kernelArguments_of_components : ∃ front,
    components.machineConfig.spec.kernelArguments = front ++ profile.wantedArguments ∧
      ∀ stem ∈ ["default_hugepagesz=", "hugepagesz=", "hugepages="],
        valuesAfter stem front = [] := by
  obtain ⟨reserved, isolated, cpus⟩ := (derivable_of_components ok).cpus
  obtain ⟨machineConfig, -, -, -⟩ := components_eq_ok_iff.1 ok
  obtain ⟨_, known, written⟩ := kernelArguments_of_machineConfig cpus machineConfig
  obtain ⟨rfl, -, -⟩ := hugePageArguments_eq_ok known
  refine ⟨_, written, ?_⟩
  have others : ∀ c, c = 'd' ∨ c = 'h' → ∀ text ∈ baseKernelArguments ++
      [profile.isolationArgument isolated, "systemd.cpu_affinity=" ++ reserved.listText],
      text.toList.head? ≠ some c := by
    intro c first
    rw [List.forall_mem_append]
    constructor
    · rcases first with rfl | rfl <;> decide +kernel
    · simp only [List.forall_mem_cons]
      refine ⟨?_, ?_, nofun⟩
      · unfold isolationArgument
        rcases first with rfl | rfl <;> split <;> simp
      · rcases first with rfl | rfl <;> simp
  simp only [List.forall_mem_cons]
  exact ⟨valuesAfter_eq_nil (show _ = 'd' :: "efault_hugepagesz=".toList by decide)
      (others 'd' (.inl rfl)),
    valuesAfter_eq_nil (show _ = 'h' :: "ugepagesz=".toList by decide) (others 'h' (.inr rfl)),
    valuesAfter_eq_nil (show _ = 'h' :: "ugepages=".toList by decide) (others 'h' (.inr rfl)),
    nofun⟩

theorem units_of_components : ∃ first units,
    components.machineConfig.spec.config.units = some (first :: units) ∧
      first.name = "pre-boot-tuning.service" ∧
      List.Forall₂ HugePage.AllocatedBy profile.pinnedPages units := by
  obtain ⟨reserved, isolated, cpus⟩ := (derivable_of_components ok).cpus
  obtain ⟨machineConfig, -, -, -⟩ := components_eq_ok_iff.1 ok
  obtain ⟨units, allocated, written⟩ := bootConfig_of_machineConfig cpus machineConfig
  exact ⟨_, units, by rw [written], rfl,
    (booted_of_allocationUnits allocated).imp fun _ _ => HugePage.BootedBy.allocated⟩

theorem text_of_components : ∃ (options : TunedOptions) (title : String),
    components.tuned.spec.profiles = [⟨title, options.text⟩] ∧
      '\n' ∉ options.isolated.toList ∧ profile.PageOptions options ∧ options.PagesUnbroken := by
  obtain ⟨reserved, isolated, cpus⟩ := (derivable_of_components ok).cpus
  obtain ⟨-, -, tuned, -⟩ := components_eq_ok_iff.1 ok
  obtain ⟨-, default, sizes⟩ := hugePageArguments_eq_ok (hugePageArguments_of_components ok)
  obtain ⟨options, title, given, profiles, list, -⟩ := options_of_tuned cpus tuned
  have made := pageOptions_of_tunedOptions given
  exact ⟨options, title, profiles, list ▸ isolated.newline_notMem_listText, made,
    made.pagesUnbroken default sizes⟩

/-- Every huge page that is asked for is asked for once. The kernel's arguments end with those on
huge pages and have none before them; behind the first unit there is one for each page with a node;
and no page is in both. The daemon gets the kernel's arguments on huge pages, if there are any, in a
line before all that a user adds. That is the only such line, unless an added argument breaks its
own line. -/
theorem components_ask_for_pages :
    profile.hugePageArguments = .ok profile.wantedArguments ∧
    (∃ front, components.machineConfig.spec.kernelArguments = front ++ profile.wantedArguments ∧
      ∀ stem ∈ ["default_hugepagesz=", "hugepagesz=", "hugepages="], valuesAfter stem front = []) ∧
    (∃ first units, components.machineConfig.spec.config.units = some (first :: units) ∧
      first.name = "pre-boot-tuning.service" ∧
      List.Forall₂ HugePage.AllocatedBy profile.pinnedPages units ∧
      profile.unpinnedPages.length + units.length = profile.pages.length) ∧
    (∀ page ∈ profile.unpinnedPages, page ∉ profile.pinnedPages) ∧
    (profile.wantedArguments ≠ [] →
      components.tuned.setting? "bootloader" "cmdline_hugepages" =
        some ("+ " ++ join " " profile.wantedArguments)) ∧
    ((∀ argument ∈ profile.spec.additionalKernelArgs, '\n' ∉ argument.toList) →
      components.tuned.settingValues "cmdline_hugepages" =
        if profile.wantedArguments = [] then []
        else ["+ " ++ join " " profile.wantedArguments]) := by
  have kernel := kernelArguments_of_components ok
  obtain ⟨first, units, written, name, allocated⟩ := units_of_components ok
  obtain ⟨options, title, profiles, isolated, made, pages⟩ := text_of_components ok
  obtain ⟨same, none⟩ := made.join_hugePageParts
  refine ⟨hugePageArguments_of_components ok, kernel,
    ⟨first, units, written, name, allocated, ?_⟩, ?_, fun filled => ?_, fun free => ?_⟩
  · rw [← allocated.length_eq, pages_count]
  · intro page unpinned pinned
    have without := (List.mem_filter.1 unpinned).2
    have placed := (List.mem_filter.1 pinned).2
    rw [Option.isSome_iff_ne_none] at placed
    exact placed (Option.isNone_iff_eq_none.1 without)
  · rw [Tuned.setting?_of_profiles profiles, ← same]
    exact TunedOptions.setting?_hugePages isolated pages (mt none.1 filled)
  · have unbroken : options.Unbroken := {
      toPagesUnbroken := pages
      isolated := isolated
      additional := made.additional ▸ notMem_join (by decide) free }
    rw [Tuned.settingValues, profiles, List.flatMap_cons, List.flatMap_nil, List.append_nil,
      TunedOptions.settingValues_hugePages unbroken, same]
    simp only [none]

end Components

/-- Pages of both sizes, with and without a node. -/
theorem components_ask_for_pages_mixed :
    let profile := { smallProfile with
      spec := { smallProfile.spec with
        hugepages := some ⟨some "1G", [⟨"1G", 4, none⟩, ⟨"2M", 8, some 1⟩, ⟨"2M", 64, none⟩]⟩
        additionalKernelArgs := ["quiet"] } }
    ∃ components, profile.components Config.defaultTunedNamespace = .ok components ∧
      (∃ front, components.machineConfig.spec.kernelArguments = front ++
        ["default_hugepagesz=1G", "hugepagesz=1G", "hugepages=4", "hugepagesz=2M",
          "hugepages=64"]) ∧
      (∃ first unit, components.machineConfig.spec.config.units = some [first, unit] ∧
        unit.environment =
          [("HUGEPAGES_COUNT", "8"), ("HUGEPAGES_SIZE", "2048"), ("NUMA_NODE", "1")]) ∧
      components.tuned.settingValues "cmdline_hugepages" =
        ["+ default_hugepagesz=1G hugepagesz=1G hugepages=4 hugepagesz=2M hugepages=64"] := by
  intro profile
  have valid : profile.validate = .ok () := by decide +kernel
  obtain ⟨⟨components, ok⟩, -⟩ :=
    components_of_validate Config.defaultTunedNamespace rfl rfl valid
  obtain ⟨-, ⟨front, kernel, -⟩, ⟨first, units, written, -, allocated, -⟩, -, -, daemon⟩ :=
    components_ask_for_pages ok
  have wanted : profile.wantedArguments = ["default_hugepagesz=1G", "hugepagesz=1G",
      "hugepages=4", "hugepagesz=2M", "hugepages=64"] := by
    decide +kernel
  have pinned : profile.pinnedPages = [⟨"2M", 8, some 1⟩] := by decide +kernel
  rw [pinned] at allocated
  refine ⟨components, ok, ⟨front, wanted ▸ kernel⟩, ?_, ?_⟩
  · obtain _ | ⟨⟨node, kb, placed, ⟨-, rfl⟩ | ⟨other, -⟩, read⟩, last⟩ := allocated
    · cases last
      cases placed
      exact ⟨first, _, written, read⟩
    · exact absurd other (by decide)
  · rw [daemon (by decide +kernel), wanted]
    decide +kernel

/-- An added argument that breaks its line makes a line on huge pages, though none are asked for. -/
theorem line_on_pages_without_pages :
    let profile := { smallProfile with
      spec := { smallProfile.spec with
        additionalKernelArgs := ["quiet\ncmdline_hugepages=+ hugepagesz=1G hugepages=4"] } }
    ∃ components, profile.components Config.defaultTunedNamespace = .ok components ∧
      profile.hugePageArguments = .ok [] ∧
      components.tuned.setting? "bootloader" "cmdline_hugepages" =
        some "+ hugepagesz=1G hugepages=4" := by
  intro profile
  have valid : profile.validate = .ok () := by decide +kernel
  obtain ⟨⟨components, ok⟩, -⟩ :=
    components_of_validate Config.defaultTunedNamespace rfl rfl valid
  refine ⟨components, ok, rfl, ?_⟩
  obtain ⟨reserved, isolated, cpus⟩ := (derivable_of_components ok).cpus
  obtain ⟨options, title, given, profiles, list, -⟩ :=
    options_of_tuned cpus (components_eq_ok_iff.1 ok).2.2.1
  have made : profile.tunedOptions = .ok {
      isolated := "2-3"
      additionalArguments := "quiet\ncmdline_hugepages=+ hugepagesz=1G hugepages=4" } := by
    decide +kernel
  cases made.symm.trans given
  have split := TunedOptions.settings_bootloader {
      isolated := "2-3"
      additionalArguments := "quiet\ncmdline_hugepages=+ hugepagesz=1G hugepages=4" }
  rw [List.append_assoc] at split
  have read := TunedOptions.readSections_text (by decide) split
    (TunedOptions.legible_fixedEntries _)
  rw [Tuned.setting?_of_profiles profiles, TunedOptions.setting?_of_read read]
  decide +kernel

end Profile
end NodeTuning
