import NodeTuning.Component.BootFiles
import NodeTuning.Object.MachineConfig

/-!
The units that a tuned node runs once at boot, before its kubelet starts.
-/
namespace NodeTuning.BootUnits
open NodeTuning.Text

def oneShot (description before settings : List String) (program : String) : String :=
  lines (["[Unit]"] ++ description ++ before.map ("Before=" ++ ·) ++
    ["", "[Service]"] ++ settings.map ("Environment=" ++ ·) ++
    ["Type=oneshot", "RemainAfterExit=true", "ExecStart=" ++ program,
      "", "[Install]", "WantedBy=multi-user.target"])

def tuning (reserved outsideMask : String) : SystemdUnit where
  name := "pre-boot-tuning.service"
  enabled := some true
  contents := some (oneShot ["Description=Preboot tuning patch"]
    ["kubelet.service", "reboot.service"]
    ["RESERVED_CPUS=" ++ reserved, "RESERVED_CPU_MASK_INVERT=" ++ outsideMask]
    BootFiles.tuningPath)

def allocation (kb : Nat) (count node : UInt32) : SystemdUnit where
  name := s!"hugepages-allocation-{kb}kB-NUMA{node}.service"
  enabled := some true
  contents := some (oneShot [s!"Description=Hugepages-{kb}kB allocation on the node {node}"]
    ["kubelet.service"]
    [s!"HUGEPAGES_COUNT={count}", s!"HUGEPAGES_SIZE={kb}", s!"NUMA_NODE={node}"]
    BootFiles.allocationPath)

end NodeTuning.BootUnits
