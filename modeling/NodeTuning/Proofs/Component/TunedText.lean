import NodeTuning.Component.TunedText
import NodeTuning.Proofs.Text.Sections

/-!
The text of a daemon profile, read back. Main statement: its sections are the ones it was made of,
up to the arguments that a user adds, which are the only text in it that may break a line.
-/
namespace NodeTuning.TunedOptions
open Text

/-- The sections before that of the kernel arguments. -/
def fixedSections (options : TunedOptions) : List TunedSection := [
  mainSection, variablesSection options.isolated, cpuSection options.highPower, vmSection,
  irqbalanceSection, schedulerSection, sysctlSection options.realTime]

def entriesOf (part : TunedSection) : String × Entries := (part.name, part.settings)

theorem TunedSection.text_eq (part : TunedSection) :
    part.text = lines (sectionLines (entriesOf part)) := rfl

theorem toList_join_sections (parts : List TunedSection) (last : TunedSection) :
    (join "\n" ((parts ++ [last]).map TunedSection.text)).toList =
      partsText (parts.map entriesOf) ++ last.text.toList := by
  have apart : "\n".toList = ['\n'] := rfl
  simp only [join, String.toList_intercalate, List.map_map, Function.comp_def, apart]
  induction parts with
  | nil => simp [partsText]
  | cons part parts ih =>
    obtain ⟨next, others, same⟩ : ∃ next others,
        (parts ++ [last]).map (fun part => part.text.toList) = next :: others := by
      cases parts with
      | nil => exact ⟨_, _, rfl⟩
      | cons next others => exact ⟨_, _, rfl⟩
    rw [same] at ih
    rw [List.cons_append, List.map_cons, same, List.intercalate_cons_cons, ih]
    simp [partsText, TunedSection.text_eq part]

theorem toList_text (options : TunedOptions) : options.text.toList =
    partsText (options.fixedSections.map entriesOf) ++ options.bootloader.text.toList :=
  toList_join_sections options.fixedSections options.bootloader

theorem legible_variablesSection {isolated : String} (free : '\n' ∉ isolated.toList) :
    Legible (entriesOf (variablesSection isolated)) := by
  constructor
  · exact show '\n' ∉ "variables".toList by decide
  · simp only [entriesOf, variablesSection, List.forall_mem_cons]
    exact ⟨show IsKey "isolated_cores" by decide, by decide, nofun⟩
  · simp only [entriesOf, variablesSection, List.forall_mem_cons]
    exact ⟨free, by decide, nofun⟩

theorem legible_fixedSections {options : TunedOptions} (free : '\n' ∉ options.isolated.toList) :
    ∀ part ∈ options.fixedSections.map entriesOf, Legible part := by
  have cpu : ∀ highPower, Legible (entriesOf (cpuSection highPower)) := by decide +kernel
  have sysctl : ∀ realTime, Legible (entriesOf (sysctlSection realTime)) := by decide +kernel
  simp only [fixedSections, List.map_cons, List.map_nil, List.forall_mem_cons]
  exact ⟨by decide +kernel, legible_variablesSection free, cpu _, by decide +kernel,
    by decide +kernel, by decide +kernel, sysctl _, nofun⟩

/-- The two kernel settings that stand in every text. -/
def fixedEntries (options : TunedOptions) : Entries := options.bootloader.settings.take 2

def hugePageEntries (options : TunedOptions) : Entries :=
  settingIf (!options.hugePageParts.isEmpty) "cmdline_hugepages"
    ("+ " ++ join " " options.hugePageParts)

/-- The kernel settings behind that on huge pages. -/
def lastEntries (options : TunedOptions) : Entries :=
  settingIf (!options.additionalArguments.isEmpty) "cmdline_additionalArg"
    ("+ " ++ options.additionalArguments) ++
  settingIf options.realTime "cmdline_realtime_hint"
    "+nohz_full=$\x7bisolated_cores\x7d rcu_nocb_poll" ++
  settingIf options.highPower "cmdline_power_performance"
    "+processor.max_cstate=1 intel_idle.max_cstate=0"

theorem settings_bootloader (options : TunedOptions) : options.bootloader.settings =
    options.fixedEntries ++ options.hugePageEntries ++ options.lastEntries := by
  have fixed : options.bootloader.settings = options.fixedEntries ++
      options.bootloader.settings.drop 2 := (List.take_append_drop 2 _).symm
  rw [fixed, List.append_assoc, List.append_cancel_left_eq]
  simp [bootloader, hugePageEntries, lastEntries]

theorem legible_fixedEntries (options : TunedOptions) :
    Legible ("bootloader", options.fixedEntries) := by
  have isolation : '\n' ∉ options.isolationArgument.toList := by
    unfold isolationArgument
    split <;> decide
  refine ⟨show '\n' ∉ "bootloader".toList by decide, ?_, ?_⟩ <;>
    simp only [fixedEntries, bootloader, List.cons_append, List.take_succ_cons, List.take_zero,
      List.forall_mem_cons, String.toList_append, List.mem_append, not_or]
  · exact ⟨show IsKey "cmdline_cpu_part" by decide, show IsKey "cmdline_realtime" by decide, nofun⟩
  · exact ⟨⟨by decide +kernel, by decide +kernel⟩,
      ⟨⟨by decide +kernel, isolation⟩, by decide +kernel⟩, nofun⟩

theorem legible_settingIf {condition : Bool} {key value : String} (plain : IsKey key)
    (free : '\n' ∉ value.toList) : Legible ("bootloader", settingIf condition key value) := by
  have name : '\n' ∉ "bootloader".toList := by decide
  cases condition with
  | false => exact ⟨name, nofun, nofun⟩
  | true => exact ⟨name, List.forall_mem_singleton.2 plain, List.forall_mem_singleton.2 free⟩

theorem notMem_append_plus {text : String} (free : '\n' ∉ text.toList) :
    '\n' ∉ ("+ " ++ text).toList := by
  simp [free]

/-- What is asked for on huge pages has no line feed. -/
structure PagesUnbroken (options : TunedOptions) : Prop where
  defaultSize : ∀ size ∈ options.defaultHugePageSize, '\n' ∉ size.toList
  arguments : '\n' ∉ options.hugePageArguments.toList

theorem legible_hugePageEntries {options : TunedOptions} (free : options.PagesUnbroken) :
    Legible ("bootloader", options.hugePageEntries) := by
  refine legible_settingIf (by decide) (notMem_append_plus (notMem_join (by decide) ?_))
  rw [hugePageParts, List.forall_mem_append]
  constructor
  · intro text member
    obtain ⟨size, given, rfl⟩ := Option.map_eq_some_iff.1 (Option.mem_toList.1 member)
    simp [free.defaultSize size given]
  · split
    · exact nofun
    · exact List.forall_mem_singleton.2 free.arguments

theorem legible_lastEntries {options : TunedOptions}
    (free : '\n' ∉ options.additionalArguments.toList) :
    Legible ("bootloader", options.lastEntries) := by
  refine .append (.append (legible_settingIf (by decide) (notMem_append_plus free)) ?_) ?_
  · exact legible_settingIf (by decide) (by decide)
  · exact legible_settingIf (by decide) (by decide)

/-- What is read of settings that may break their lines. -/
def readSettings (settings : Entries) : Entries × List (String × Entries) :=
  readSections (pieces '\n' (lines (settings.map TunedSection.lineOf)).toList)

/-- All sections are read, and of the last one the settings up to any that may break its line. -/
theorem readSections_text {options : TunedOptions} {front back : Entries}
    (free : '\n' ∉ options.isolated.toList) (split : options.bootloader.settings = front ++ back)
    (legible : Legible ("bootloader", front)) :
    readSections (pieces '\n' options.text.toList) = ([], options.fixedSections.map entriesOf ++
      ("bootloader", front ++ (readSettings back).1) :: (readSettings back).2) := by
  have whole : options.bootloader.text.toList =
      (lines (sectionLines ("bootloader", front))).toList ++
        (lines (back.map TunedSection.lineOf)).toList := by
    have lineOf : TunedSection.lineOf = fun entry => entry.1 ++ "=" ++ entry.2 := rfl
    have name : options.bootloader.name = "bootloader" := rfl
    rw [TunedSection.text, split, name]
    simp [lines, sectionLines, lineOf]
  have last := readSections_part legible (lines (back.map TunedSection.lineOf)).toList
  rw [← whole] at last
  rw [toList_text, readSections_partsText (legible_fixedSections free) (by rw [last]), last,
    readSettings]

theorem setting?_of_read {options : TunedOptions} {settings : Entries}
    {others : List (String × Entries)} (read : readSections (pieces '\n' options.text.toList) =
      ([], options.fixedSections.map entriesOf ++ ("bootloader", settings) :: others))
    (key : String) : setting? options.text "bootloader" key = SortedMap.lookup key settings := by
  rw [setting?, Text.sections, read]
  rfl

/-- Whatever arguments a user adds, all sections are read up to the two kernel settings. -/
theorem sections_text {options : TunedOptions} (free : '\n' ∉ options.isolated.toList) :
    ∃ later others, Text.sections options.text = options.fixedSections.map entriesOf ++
      ("bootloader", options.fixedEntries ++ later) :: others := by
  have split := options.settings_bootloader
  rw [List.append_assoc] at split
  exact ⟨_, _, congrArg Prod.snd (readSections_text free split options.legible_fixedEntries)⟩

theorem setting?_isolated_cores {options : TunedOptions} (free : '\n' ∉ options.isolated.toList) :
    setting? options.text "variables" "isolated_cores" = some options.isolated := by
  obtain ⟨later, others, read⟩ := sections_text free
  rw [setting?, read]
  rfl

def realTimeLine (options : TunedOptions) : String :=
  "+tsc=nowatchdog intel_iommu=on iommu=pt " ++ options.isolationArgument ++
    " systemd.cpu_affinity=$\x7bnot_isolated_cores_expanded\x7d"

theorem setting?_cmdline_realtime {options : TunedOptions} (free : '\n' ∉ options.isolated.toList) :
    setting? options.text "bootloader" "cmdline_realtime" = some options.realTimeLine := by
  obtain ⟨later, others, read⟩ := sections_text free
  rw [setting?, read]
  rfl

/-- No text that is given has a line feed. -/
structure Unbroken (options : TunedOptions) : Prop extends PagesUnbroken options where
  isolated : '\n' ∉ options.isolated.toList
  additional : '\n' ∉ options.additionalArguments.toList

theorem readSections_of_unbroken {options : TunedOptions} (unbroken : options.Unbroken) :
    readSections (pieces '\n' options.text.toList) = ([], options.sections.map entriesOf) := by
  have legible : Legible ("bootloader", options.bootloader.settings) := by
    rw [settings_bootloader]
    exact .append (.append options.legible_fixedEntries
      (legible_hugePageEntries unbroken.toPagesUnbroken)) (legible_lastEntries unbroken.additional)
  have read := readSections_text unbroken.isolated (List.append_nil _).symm legible
  have none : readSettings [] = ([], []) := rfl
  have last : entriesOf options.bootloader = ("bootloader", options.bootloader.settings) := rfl
  rw [read, none, List.append_nil, ← last]
  simp [sections, fixedSections]

def keyIf (condition : Bool) (key : String) : List String := if condition then [key] else []

/-- The names of the sections with their keys. -/
def outline (options : TunedOptions) : List (String × List String) := [
  ("main", ["summary", "include"]),
  ("variables", ["isolated_cores", "not_isolated_cores_expanded"]),
  ("cpu", ["force_latency", "governor", "energy_perf_bias", "min_perf_pct"]),
  ("vm", ["transparent_hugepages"]),
  ("irqbalance", ["banned_cpus"]),
  ("scheduler", ["runtime", "group.ksoftirqd", "group.rcuc", "sched_min_granularity_ns",
    "sched_migration_cost_ns", "numa_balancing", "default_irq_smp_affinity"]),
  ("sysctl", ["kernel.hung_task_timeout_secs", "kernel.nmi_watchdog", "kernel.sched_rt_runtime_us",
    "vm.stat_interval", "kernel.timer_migration"]),
  ("bootloader", ["cmdline_cpu_part", "cmdline_realtime"] ++
    keyIf (options.defaultHugePageSize.isSome || options.hugePageArguments ≠ "")
      "cmdline_hugepages" ++
    keyIf (options.additionalArguments ≠ "") "cmdline_additionalArg" ++
    keyIf options.realTime "cmdline_realtime_hint" ++
    keyIf options.highPower "cmdline_power_performance")]

theorem keys_settingIf (condition : Bool) (key value : String) :
    (settingIf condition key value).map Prod.fst = keyIf condition key := by
  cases condition <;> rfl

theorem not_isEmpty (text : String) : (!text.isEmpty) = decide (text ≠ "") := by
  by_cases empty : text = "" <;> simp [empty]

theorem not_isEmpty_hugePageParts (options : TunedOptions) : (!options.hugePageParts.isEmpty) =
    (options.defaultHugePageSize.isSome || options.hugePageArguments ≠ "") := by
  unfold hugePageParts
  cases options.defaultHugePageSize with
  | none => by_cases empty : options.hugePageArguments = "" <;> simp [empty]
  | some size => simp

theorem keys_sections (options : TunedOptions) :
    (options.sections.map entriesOf).map (fun part => (part.1, part.2.map Prod.fst)) =
      options.outline := by
  have last : options.bootloader.settings.map Prod.fst =
      ["cmdline_cpu_part", "cmdline_realtime"] ++
        keyIf (options.defaultHugePageSize.isSome || options.hugePageArguments ≠ "")
          "cmdline_hugepages" ++
        keyIf (options.additionalArguments ≠ "") "cmdline_additionalArg" ++
        keyIf options.realTime "cmdline_realtime_hint" ++
        keyIf options.highPower "cmdline_power_performance" := by
    simp only [bootloader, List.map_append, keys_settingIf, not_isEmpty_hugePageParts, not_isEmpty]
    rfl
  rw [outline, ← last]
  rfl

theorem nodup_outline (options : TunedOptions) : ∀ part ∈ options.outline, part.2.Nodup := by
  have last : ∀ pages given realTime highPower, (["cmdline_cpu_part", "cmdline_realtime"] ++
      keyIf pages "cmdline_hugepages" ++ keyIf given "cmdline_additionalArg" ++
      keyIf realTime "cmdline_realtime_hint" ++
      keyIf highPower "cmdline_power_performance").Nodup := by
    decide +kernel
  simp only [outline, List.forall_mem_cons]
  exact ⟨by decide +kernel, by decide +kernel, by decide +kernel, by decide +kernel,
    by decide +kernel, by decide +kernel, by decide +kernel, last _ _ _ _, nofun⟩

theorem lookup_settingIf (condition : Bool) (wanted key value : String) :
    SortedMap.lookup wanted (settingIf condition key value) =
      if condition ∧ wanted = key then some value else none := by
  cases condition <;> simp [settingIf, SortedMap.lookup]

theorem lookup_bootloader (options : TunedOptions) {key : String}
    (other : key ≠ "cmdline_cpu_part" ∧ key ≠ "cmdline_realtime") :
    SortedMap.lookup key options.bootloader.settings =
      SortedMap.lookup key (options.hugePageEntries ++ options.lastEntries) := by
  have absent : SortedMap.lookup key options.fixedEntries = none := by
    simp [fixedEntries, bootloader, SortedMap.lookup, other]
  rw [settings_bootloader, List.append_assoc, SortedMap.lookup_append, absent, Option.none_or]

theorem setting?_bootloader {options : TunedOptions} (unbroken : options.Unbroken) (key : String) :
    setting? options.text "bootloader" key = SortedMap.lookup key options.bootloader.settings := by
  rw [setting?, Text.sections, readSections_of_unbroken unbroken]
  rfl

/-- A text whose inputs have no line feed is read back as it was made: the sections in their order,
each with its keys in their order and its values. No section has a key twice. The list of CPUs and
the added arguments are as they were given, and a setting that is made on request stands there
exactly if it was requested. -/
theorem text_read_back {options : TunedOptions} (unbroken : options.Unbroken) :
    readSections (pieces '\n' options.text.toList) = ([], options.sections.map entriesOf) ∧
    (options.sections.map entriesOf).map (fun part => (part.1, part.2.map Prod.fst)) =
      options.outline ∧
    (∀ part ∈ options.outline, part.2.Nodup) ∧
    setting? options.text "variables" "isolated_cores" = some options.isolated ∧
    setting? options.text "bootloader" "cmdline_additionalArg" =
      (if options.additionalArguments = "" then none
        else some ("+ " ++ options.additionalArguments)) ∧
    ((setting? options.text "bootloader" "cmdline_hugepages").isSome ↔
      options.defaultHugePageSize.isSome ∨ options.hugePageArguments ≠ "") ∧
    ((setting? options.text "bootloader" "cmdline_realtime_hint").isSome ↔
      options.realTime = true) ∧
    ((setting? options.text "bootloader" "cmdline_power_performance").isSome ↔
      options.highPower = true) := by
  refine ⟨readSections_of_unbroken unbroken, options.keys_sections, options.nodup_outline,
    setting?_isolated_cores unbroken.isolated, ?_, ?_, ?_, ?_⟩
  all_goals
    rw [setting?_bootloader unbroken, lookup_bootloader _ (by decide)]
    simp only [hugePageEntries, lastEntries, SortedMap.lookup_append, lookup_settingIf,
      not_isEmpty_hugePageParts, not_isEmpty]
    simp

/-- Inputs that look like other lines of the text. -/
theorem text_read_back_quoted :
    let options : TunedOptions := {
      isolated := "[cpu]=2-7"
      defaultHugePageSize := some "=1G"
      additionalArguments := "[main] a=\"b = c\" [x]=" }
    Text.sections options.text = options.sections.map entriesOf ∧
      setting? options.text "variables" "isolated_cores" = some "[cpu]=2-7" ∧
      setting? options.text "bootloader" "cmdline_additionalArg" =
        some "+ [main] a=\"b = c\" [x]=" ∧
      (setting? options.text "bootloader" "cmdline_hugepages").isSome := by
  intro options
  have unbroken : options.Unbroken := {
    defaultSize := by decide
    arguments := by decide
    isolated := by decide
    additional := by decide }
  obtain ⟨read, -, -, isolated, additional, pages, -, -⟩ := text_read_back unbroken
  exact ⟨by rw [Text.sections, read], isolated, additional, pages.2 (.inl rfl)⟩

end NodeTuning.TunedOptions
