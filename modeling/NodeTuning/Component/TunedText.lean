import NodeTuning.Text.Basic

/-!
The text of a profile for the node tuning daemon: sections with settings, in a fixed order. A line
holds a section's name in square brackets or a key and its value around an equals sign, and an empty
line stands between sections.
-/
namespace NodeTuning

structure TunedSection where
  name : String
  settings : List (String × String)
  deriving DecidableEq

structure TunedOptions where
  isolated : String
  /-- Take the isolated CPUs out of load balancing. -/
  staticIsolation : Bool := false
  defaultHugePageSize : Option String := none
  /-- Kernel arguments on huge pages, with spaces between them. -/
  hugePageArguments : String := ""
  /-- Kernel arguments that the user adds, with spaces between them. -/
  additionalArguments : String := ""
  realTime : Bool := false
  highPower : Bool := false
  deriving DecidableEq

namespace TunedSection
open NodeTuning.Text

def lineOf (setting : String × String) : String := setting.1 ++ "=" ++ setting.2

def text (part : TunedSection) : String :=
  lines (("[" ++ part.name ++ "]") :: part.settings.map lineOf)

end TunedSection

namespace TunedOptions
open NodeTuning.Text

def mainSection : TunedSection := ⟨"main", [
  ("summary", "Openshift node optimized for deterministic performance at the cost of increased " ++
    "power consumption, focused on low latency network performance"),
  ("include", "openshift-node,cpu-partitioning")]⟩

def variablesSection (isolated : String) : TunedSection := ⟨"variables", [
  ("isolated_cores", isolated),
  ("not_isolated_cores_expanded",
    "$\x7bf:cpulist_invert:$\x7bisolated_cores_expanded\x7d\x7d")]⟩

def cpuSection (highPower : Bool) : TunedSection := ⟨"cpu", [
  ("force_latency", if highPower then "cstate.id:0|1" else "cstate.id:1|3"),
  ("governor", "performance"),
  ("energy_perf_bias", "performance"),
  ("min_perf_pct", "100")]⟩

def vmSection : TunedSection := ⟨"vm", [("transparent_hugepages", "never")]⟩

def irqbalanceSection : TunedSection := ⟨"irqbalance", [("banned_cpus", "\"\"")]⟩

def schedulerSection : TunedSection := ⟨"scheduler", [
  ("runtime", "0"),
  ("group.ksoftirqd", "0:f:11:*:ksoftirqd.*"),
  ("group.rcuc", "0:f:11:*:rcuc.*"),
  ("sched_min_granularity_ns", "10000000"),
  ("sched_migration_cost_ns", "5000000"),
  ("numa_balancing", "0"),
  ("default_irq_smp_affinity", "ignore")]⟩

def sysctlSection (realTime : Bool) : TunedSection := ⟨"sysctl", [
  ("kernel.hung_task_timeout_secs", "600"),
  ("kernel.nmi_watchdog", "0"),
  ("kernel.sched_rt_runtime_us", "-1"),
  ("vm.stat_interval", "10"),
  ("kernel.timer_migration", if realTime then "0" else "1")]⟩

/-- The isolation argument, in which the daemon fills in the CPUs. -/
def isolationArgument (options : TunedOptions) : String :=
  if options.staticIsolation then "isolcpus=domain,managed_irq,$\x7bisolated_cores\x7d"
  else "isolcpus=managed_irq"

/-- The arguments on huge pages: the default size and the pairs that are asked for. -/
def hugePageParts (options : TunedOptions) : List String :=
  (options.defaultHugePageSize.map ("default_hugepagesz=" ++ ·)).toList ++
    if options.hugePageArguments.isEmpty then [] else [options.hugePageArguments]

def settingIf (condition : Bool) (key value : String) : List (String × String) :=
  if condition then [(key, value)] else []

/-- The kernel arguments. Some of them stand there only on request. -/
def bootloader (options : TunedOptions) : TunedSection := ⟨"bootloader",
  [("cmdline_cpu_part",
      "+nohz=on rcu_nocbs=$\x7bisolated_cores\x7d tuned.non_isolcpus=" ++
        "$\x7bnot_isolated_cpumask\x7d intel_pstate=disable nosoftlockup"),
    ("cmdline_realtime",
      "+tsc=nowatchdog intel_iommu=on iommu=pt " ++ options.isolationArgument ++
        " systemd.cpu_affinity=$\x7bnot_isolated_cores_expanded\x7d")] ++
  settingIf (!options.hugePageParts.isEmpty) "cmdline_hugepages"
    ("+ " ++ join " " options.hugePageParts) ++
  settingIf (!options.additionalArguments.isEmpty) "cmdline_additionalArg"
    ("+ " ++ options.additionalArguments) ++
  settingIf options.realTime "cmdline_realtime_hint"
    "+nohz_full=$\x7bisolated_cores\x7d rcu_nocb_poll" ++
  settingIf options.highPower "cmdline_power_performance"
    "+processor.max_cstate=1 intel_idle.max_cstate=0"⟩

def sections (options : TunedOptions) : List TunedSection := [
  mainSection, variablesSection options.isolated, cpuSection options.highPower, vmSection,
  irqbalanceSection, schedulerSection, sysctlSection options.realTime, options.bootloader]

def text (options : TunedOptions) : String :=
  join "\n" (options.sections.map TunedSection.text)

end TunedOptions
end NodeTuning
