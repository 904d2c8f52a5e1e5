import NodeTuning.Object.Kind
import NodeTuning.Schema.Basic

/-!
The definition by which a cluster learns what performance profiles are.
-/
namespace NodeTuning.Schema

private def cpu : Schema := .record [
  described "balanceIsolated" .nullable
    "Whether the scheduler may load-balance across isolated CPUs (default true)" .flag,
  described "isolated" .required
    "CPUs handed exclusively to application workloads (CPU list)" .text,
  described "reserved" .required
    "CPUs kept for the OS and kubelet housekeeping (CPU list, e.g. \"0-1\")" .text]

private def hugePage : Schema := .record [
  described "count" .required "Number of pages" .count,
  described "node" .nullable
    "NUMA node to allocate on (boot arguments allocate across all nodes when absent)" .count,
  described "size" .required "Page size (\"2M\" or \"1G\")" .text]

private def hugepages : Schema := .record [
  described "defaultHugepagesSize" .nullable "Default huge page size (e.g. \"1G\")" .text,
  described "pages" (.defaulted (.list [])) "Huge page allocations" (.list hugePage)]

private def numa : Schema := .record [
  described "topologyPolicy" .nullable
    "Kubelet topology manager policy (e.g. \"single-numa-node\")" .text]

private def realTimeKernel : Schema := .record [
  described "enabled" .nullable "Install the real-time kernel (default true)" .flag]

private def workloadHints : Schema := .record [
  described "highPowerConsumption" .nullable "Trade power consumption for performance" .flag,
  described "realTime" .nullable "Tune for latency-sensitive real-time workloads" .flag]

def profileSpec : Schema := .record [
  described "additionalKernelArgs" .optional "Extra kernel arguments appended verbatim"
    (.list .text),
  described "cpu" .required
    "CPU partitioning between housekeeping and application workloads" cpu,
  described "hugepages" .nullable "Huge pages layout" hugepages,
  described "machineConfigLabel" .nullable
    ("Labels put on the generated MachineConfig " ++
      "(defaults to the role derived from the node selector)") .labels,
  described "machineConfigPoolSelector" .nullable
    ("Selects the MachineConfigPool the profile rolls out to " ++
      "(defaults to the role derived from the node selector)") .labels,
  described "nodeSelector" (.defaulted (.map []))
    "Selects the nodes this profile applies to (exactly one label)" .labels,
  described "numa" .nullable "NUMA alignment policy" numa,
  described "realTimeKernel" .nullable "Real-time kernel toggle" realTimeKernel,
  described "workloadHints" .nullable "Workload hints" workloadHints]

private def condition : Schema := .record [
  described "lastHeartbeatTime" .nullable "Last time the condition was computed" .instant,
  described "lastTransitionTime" .nullable "Last time the status changed" .instant,
  described "message" .nullable "Human-readable message" .text,
  described "reason" .nullable "Machine-readable reason" .text,
  described "status" .required "Condition status" (.choice ["True", "False", "Unknown"]),
  described "type" .required "Condition type"
    (.choice ["Available", "Upgradeable", "Progressing", "Degraded"])]

def profileStatus : Schema := .record [
  described "conditions" .optional
    "Available, Upgradeable, Progressing and Degraded conditions" (.list condition),
  described "runtimeClass" .nullable "Generated RuntimeClass name" .text,
  described "tuned" .nullable "Generated Tuned object reference (`<namespace>/<name>`)" .text]

private def texts (values : List String) : Yaml := .list (values.map .text)

def profile : Yaml := .map [
  ("description", .text
    "Auto-generated derived type for PerformanceProfileSpec via `CustomResource`"),
  ("properties", .map [
    ("spec", profileSpec.toYaml .required none),
    ("status", profileStatus.toYaml .nullable none)]),
  ("required", texts ["spec"]),
  ("title", .text "PerformanceProfile"),
  ("type", .text "object")]

private def kindNames (kind : Kind) : Yaml := .map [
  ("categories", .list []),
  ("kind", .text kind.name),
  ("plural", .text kind.plural),
  ("shortNames", texts ["pp"]),
  ("singular", .text "performanceprofile")]

private def profileVersion (kind : Kind) : Yaml := .map [
  ("additionalPrinterColumns", .list []),
  ("name", .text kind.version),
  ("schema", .map [("openAPIV3Schema", profile)]),
  ("served", .plain "true"),
  ("storage", .plain "true"),
  ("subresources", .map [("status", .map [])])]

def profileDefinition : Yaml :=
  let kind := Kind.performanceProfile
  .map [
    ("apiVersion", .text "apiextensions.k8s.io/v1"),
    ("kind", .text "CustomResourceDefinition"),
    ("metadata", .map [("name", .text (kind.plural ++ "." ++ kind.group))]),
    ("spec", .map [
      ("group", .text kind.group),
      ("names", kindNames kind),
      ("scope", .text "Cluster"),
      ("versions", .list [profileVersion kind])])]

end NodeTuning.Schema
