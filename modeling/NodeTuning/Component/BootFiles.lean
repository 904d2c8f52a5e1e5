import NodeTuning.Text.Basic

/-!
The files that every tuned node gets: two boot scripts and the settings of the container runtime.
The settings are a template in which the list of reserved CPUs is filled in.
-/
namespace NodeTuning.BootFiles
open NodeTuning.Text

def tuningPath : String := "/usr/local/bin/pre-boot-tuning.sh"

def allocationPath : String := "/usr/local/bin/hugepages-allocation.sh"

def runtimesPath : String := "/etc/crio/crio.conf.d/99-runtimes.conf"

/-- Sets CPU affinities before the kubelet starts. -/
def tuningScript : String := lines [
  "#!/usr/bin/env bash",
  "# Applies boot-time CPU affinity settings before kubelet starts.",
  "# Expects RESERVED_CPUS (CPU list) and RESERVED_CPU_MASK_INVERT (mask of",
  "# every CPU outside the reserved set) in the environment.",
  "",
  "set -euo pipefail",
  "",
  "SYSTEM_CONFIG_FILE=\"/etc/systemd/system.conf\"",
  "SYSTEM_CONFIG_CUSTOM_FILE=\"/etc/systemd/system.conf.d/setAffinity.conf\"",
  "",
  "if [ -z \"$\x7bRESERVED_CPUS:-\x7d\" ]; then",
  "  echo \"RESERVED_CPUS is not set, nothing to do\"",
  "  exit 0",
  "fi",
  "",
  "# Keep systemd-managed services on the reserved CPUs.",
  "if [ -f \"$\x7bSYSTEM_CONFIG_FILE\x7d\" ]; then",
  "  mkdir -p \"$(dirname \"$\x7bSYSTEM_CONFIG_CUSTOM_FILE\x7d\")\"",
  "  cat > \"$\x7bSYSTEM_CONFIG_CUSTOM_FILE\x7d\" <<CONF",
  "[Manager]",
  "CPUAffinity=$\x7bRESERVED_CPUS//,/ \x7d",
  "CONF",
  "fi",
  "",
  "# Ban isolated CPUs from irqbalance.",
  "if [ -n \"$\x7bRESERVED_CPU_MASK_INVERT:-\x7d\" ] && [ -f /etc/sysconfig/irqbalance ]; then",
  "  if grep -q \"^IRQBALANCE_BANNED_CPUS=\" /etc/sysconfig/irqbalance; then",
  "    sed -i \"s/^IRQBALANCE_BANNED_CPUS=.*/" ++
    "IRQBALANCE_BANNED_CPUS=$\x7bRESERVED_CPU_MASK_INVERT\x7d/\"" ++
    " /etc/sysconfig/irqbalance",
  "  else",
  "    echo \"IRQBALANCE_BANNED_CPUS=$\x7bRESERVED_CPU_MASK_INVERT\x7d\"" ++
    " >> /etc/sysconfig/irqbalance",
  "  fi",
  "fi",
  "",
  "systemctl daemon-reexec"]

/-- Allocates huge pages on one NUMA node. -/
def allocationScript : String := lines [
  "#!/usr/bin/env bash",
  "# Allocates huge pages on a single NUMA node.",
  "# Expects HUGEPAGES_COUNT, HUGEPAGES_SIZE (kB) and NUMA_NODE in the environment.",
  "",
  "set -euo pipefail",
  "",
  "for var in HUGEPAGES_COUNT HUGEPAGES_SIZE NUMA_NODE; do",
  "  if [ -z \"$\x7b!var:-\x7d\" ]; then",
  "    echo \"$\x7bvar\x7d is not set\"",
  "    exit 1",
  "  fi",
  "done",
  "",
  "nr_hugepages_file=\"/sys/devices/system/node/" ++
    "node$\x7bNUMA_NODE\x7d/hugepages/hugepages-$\x7bHUGEPAGES_SIZE\x7dkB" ++
    "/nr_hugepages\"",
  "",
  "if [ ! -f \"$\x7bnr_hugepages_file\x7d\" ]; then",
  "  echo \"ERROR: $\x7bnr_hugepages_file\x7d does not exist\"",
  "  exit 1",
  "fi",
  "",
  "timeout=60",
  "sample=1",
  "current_time=0",
  "while [ \"$(cat \"$\x7bnr_hugepages_file\x7d\")\" -ne \"$\x7bHUGEPAGES_COUNT\x7d\" ]; do",
  "  echo \"$\x7bHUGEPAGES_COUNT\x7d\" > \"$\x7bnr_hugepages_file\x7d\"",
  "",
  "  current_time=$((current_time + sample))",
  "  if [ \"$\x7bcurrent_time\x7d\" -gt \"$\x7btimeout\x7d\" ]; then",
  "    echo \"ERROR: $\x7bnr_hugepages_file\x7d does not have the expected number of huge pages " ++
    "$\x7bHUGEPAGES_COUNT\x7d\"",
  "    exit 1",
  "  fi",
  "",
  "  sleep \"$\x7bsample\x7d\"",
  "done"]

/-- What stands for the reserved CPUs in the template. -/
def reservedMark : String := "\x7b\x7breserved_cpus\x7d\x7d"

def runtimesTemplate : String := lines [
  "[crio.runtime]",
  "infra_ctr_cpuset = \"\x7b\x7breserved_cpus\x7d\x7d\"",
  "",
  "[crio.runtime.runtimes.high-performance]",
  "runtime_path = \"/bin/runc\"",
  "runtime_type = \"oci\"",
  "runtime_root = \"/run/runc\"",
  "allowed_annotations = [\"cpu-load-balancing.crio.io\", " ++
    "\"cpu-quota.crio.io\", \"irq-load-balancing.crio.io\"]"]

def runtimes (reserved : String) : String :=
  String.ofList (replaceAll reservedMark.toList reserved.toList runtimesTemplate.toList)

end NodeTuning.BootFiles
