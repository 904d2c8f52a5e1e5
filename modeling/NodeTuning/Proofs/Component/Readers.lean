import NodeTuning.Component.Set
import NodeTuning.Proofs.Component.BootTexts
import NodeTuning.Proofs.Component.TunedText
import NodeTuning.Proofs.CpuSet.MaskBits
import NodeTuning.Proofs.CpuSet.Runs

/-!
How nodes read what components hold: arguments by the stems they begin with, variables of a unit,
files that are sent as data, texts in quotes, and settings of the tuning daemon. Main statements:
each reader gives back what was written for it.
-/
namespace NodeTuning
open Text

namespace Text
variable {stem text : String} {texts : List String}

/-- What stands behind a stem. -/
def after? (stem text : String) : Option String :=
  (text.toList.dropPrefix? stem.toList).map String.ofList

def valuesAfter (stem : String) (texts : List String) : List String := texts.filterMap (after? stem)

def words (text : String) : List String := (pieces ' ' text.toList).map String.ofList

/-- A text in quotes, with blanks around it. -/
def quoted? (text : String) : Option String :=
  match trim text.toList with
  | '"' :: rest => if rest.getLast? = some '"' then some (String.ofList rest.dropLast) else none
  | _ => none

@[simp] theorem after?_append (stem value : String) : after? stem (stem ++ value) = some value := by
  have found : (stem ++ value).toList.dropPrefix? stem.toList = some value.toList := by
    rw [List.dropPrefix?_eq_some_iff]
    exact ⟨stem.toList, String.toList_append, by simp⟩
  rw [after?, found, Option.map_some, String.ofList_toList]

theorem after?_eq_none (foreign : ¬ stem.toList <+: text.toList) : after? stem text = none := by
  cases found : text.toList.dropPrefix? stem.toList with
  | none => rw [after?, found, Option.map_none]
  | some rest =>
    obtain ⟨front, whole, same⟩ := List.dropPrefix?_eq_some_iff.1 found
    refine absurd ⟨rest, ?_⟩ foreign
    rw [whole, eq_of_beq same]

theorem after?_eq_none_of_head {c : Char} {more : List Char} (begins : stem.toList = c :: more)
    (other : text.toList.head? ≠ some c) : after? stem text = none := by
  refine after?_eq_none ?_
  rintro ⟨rest, whole⟩
  rw [← whole, begins] at other
  exact other rfl

theorem valuesAfter_append (stem : String) (front back : List String) :
    valuesAfter stem (front ++ back) = valuesAfter stem front ++ valuesAfter stem back :=
  List.filterMap_append

theorem valuesAfter_eq_nil {c : Char} {more : List Char} (begins : stem.toList = c :: more)
    (others : ∀ text ∈ texts, text.toList.head? ≠ some c) : valuesAfter stem texts = [] :=
  List.filterMap_eq_nil_iff.2 fun text member => after?_eq_none_of_head begins (others text member)

theorem quoted?_written (text : String) : quoted? (" \"" ++ text ++ "\"") = some text := by
  have trims : Trims (" \"" ++ text ++ "\"").toList ('"' :: (text.toList ++ ['"'])) := by
    refine ⟨⟨[' '], [], by simp, List.forall_mem_singleton.2 (by decide), nofun⟩, ?_, ?_⟩
    · rintro c rest ⟨⟩
      decide
    · intro rest c same
      rw [← List.cons_append] at same
      obtain ⟨_, last⟩ := List.append_inj' same rfl
      cases last
      decide
  rw [quoted?, trim_of_trims trims]
  simp

end Text

def dataText? (url : String) : Option String :=
  (after? "data:text/plain;charset=utf-8;base64," url).bind fun data => Base64.text? data.toList

theorem dataText?_dataUrl (text : String) : dataText? (dataUrl text) = some text := by
  have data : after? "data:text/plain;charset=utf-8;base64," (dataUrl text) =
      some (String.ofList (Base64.encode (Base64.bytes text))) := after?_append _ _
  rw [dataText?, data, Option.bind_some, String.toList_ofList, Base64.text?_encode]

/-- The value that a unit gives to a variable of its program. -/
def SystemdUnit.environment? (unit : SystemdUnit) (name : String) : Option String := do
  let contents ← unit.contents
  let entries ← SortedMap.lookup "Service" (sections contents)
  SortedMap.lookup name (entries.filterMap fun entry =>
    if entry.1 = "Environment" then some (assignment entry.2.toList) else none)

/-- All variables that a unit gives to its program, in their order. -/
def SystemdUnit.environment (unit : SystemdUnit) : Entries :=
  let entries := (unit.contents.bind fun text => SortedMap.lookup "Service" (sections text)).getD []
  entries.filterMap fun entry =>
    if entry.1 = "Environment" then some (assignment entry.2.toList) else none

theorem SystemdUnit.environment?_eq_lookup (unit : SystemdUnit) (name : String) :
    unit.environment? name = SortedMap.lookup name unit.environment := by
  unfold environment? environment
  cases unit.contents with
  | none => rfl
  | some text =>
    cases found : SortedMap.lookup "Service" (sections text) <;> simp [found, SortedMap.lookup]

namespace MachineConfig

/-- The values of the kernel arguments that begin with a stem. -/
def argumentsAfter (config : MachineConfig) (stem : String) : List String :=
  valuesAfter stem config.spec.kernelArguments

def environment? (config : MachineConfig) (unit name : String) : Option String :=
  ((config.spec.config.units.getD []).find? (·.name = unit)).bind (·.environment? name)

def fileText? (config : MachineConfig) (path : String) : Option String :=
  ((config.spec.config.files.getD []).find? (·.path = path)).bind fun file => dataText? file.source

end MachineConfig

/-- The text of a key in a section, where keys and texts have blanks around them. -/
def quotedSetting? (text part key : String) : Option String := do
  let entries ← SortedMap.lookup part (sections text)
  let entry ← entries.find? fun entry => trim entry.1.toList = key.toList
  quoted? entry.2

namespace Text

/-- The values of a key among entries. -/
def valuesOf (key : String) (entries : Entries) : List String :=
  entries.filterMap fun entry => if entry.1 = key then some entry.2 else none

theorem valuesOf_append (key : String) (front back : Entries) :
    valuesOf key (front ++ back) = valuesOf key front ++ valuesOf key back :=
  List.filterMap_append

/-- The values of a key in a text, whatever section they stand in. -/
def settingValues (text key : String) : List String :=
  let read := readSections (pieces '\n' text.toList)
  valuesOf key (read.1 ++ read.2.flatMap Prod.snd)

end Text

/-- The values of a key in all texts of a tuned object. -/
def Tuned.settingValues (tuned : Tuned) (key : String) : List String :=
  tuned.spec.profiles.flatMap fun profile => Text.settingValues profile.data key

/-- A setting in the text of the first daemon profile. -/
def Tuned.setting? (tuned : Tuned) (part key : String) : Option String :=
  tuned.spec.profiles.head?.bind fun profile => Text.setting? profile.data part key

theorem Tuned.setting?_of_profiles {tuned : Tuned} {title text : String}
    (profiles : tuned.spec.profiles = [⟨title, text⟩]) (part key : String) :
    tuned.setting? part key = Text.setting? text part key := by
  rw [Tuned.setting?, profiles, List.head?_cons, Option.bind_some]

section Written
variable {description program reserved mask : String} {before : List String} {settings : Entries}

theorem environment_oneShot {unit : SystemdUnit}
    (contents : unit.contents = some (BootUnits.oneShot ["Description=" ++ description] before
      (settings.map fun entry => entry.1 ++ "=" ++ entry.2) program))
    (described : '\n' ∉ description.toList) (runs : '\n' ∉ program.toList)
    (ordered : ∀ unit ∈ before, '\n' ∉ unit.toList) (plain : ∀ entry ∈ settings, IsKey entry.1)
    (free : ∀ entry ∈ settings, '\n' ∉ entry.2.toList) : unit.environment = settings := by
  have lines : ∀ setting ∈ settings.map fun entry => entry.1 ++ "=" ++ entry.2,
      '\n' ∉ setting.toList := by
    rw [List.forall_mem_map]
    intro entry member
    simp [(plain entry member).2.2, free entry member]
  have read := BootUnits.sections_oneShot described runs ordered lines
  have found : SortedMap.lookup "Service" (sections (BootUnits.oneShot
      ["Description=" ++ description] before
      (settings.map fun entry => entry.1 ++ "=" ++ entry.2) program)) =
      some ((settings.map fun entry => ("Environment", entry.1 ++ "=" ++ entry.2)) ++
        [("Type", "oneshot"), ("RemainAfterExit", "true"), ("ExecStart", program)]) := by
    rw [read]
    simp [BootUnits.oneShotParts, SortedMap.lookup, Function.comp_def]
  have assigned : ((settings.map fun entry => ("Environment", entry.1 ++ "=" ++ entry.2)) ++
      [("Type", "oneshot"), ("RemainAfterExit", "true"), ("ExecStart", program)]).filterMap
      (fun entry => if entry.1 = "Environment" then some (assignment entry.2.toList) else none) =
        settings := by
    rw [List.filterMap_append, List.filterMap_map]
    have kept : ∀ entry ∈ settings, (fun entry : String × String =>
        some (assignment (entry.1 ++ "=" ++ entry.2).toList)) entry = some entry :=
      fun entry member => congrArg some (assignment_written (plain entry member).2.1 entry.2)
    have same := List.filterMap_congr kept
    simpa [Function.comp_def] using same
  rw [SystemdUnit.environment, contents, Option.bind_some, found, Option.getD_some, assigned]

end Written

def tuningVariables (reserved : CpuSet) : Entries := [
  ("RESERVED_CPUS", reserved.listText), ("RESERVED_CPU_MASK_INVERT", reserved.invertedMaskList)]

theorem environment_tuning (reserved : CpuSet) :
    (BootUnits.tuning reserved.listText reserved.invertedMaskList).environment =
      tuningVariables reserved := by
  have contents : (BootUnits.tuning reserved.listText reserved.invertedMaskList).contents =
      some (BootUnits.oneShot ["Description=" ++ "Preboot tuning patch"]
        ["kubelet.service", "reboot.service"]
        ((tuningVariables reserved).map fun entry => entry.1 ++ "=" ++ entry.2)
        BootFiles.tuningPath) := rfl
  refine environment_oneShot contents (by decide) (by decide +kernel) (by decide) ?_ ?_
  · simp only [tuningVariables, List.forall_mem_cons]
    exact ⟨show IsKey "RESERVED_CPUS" by decide, show IsKey "RESERVED_CPU_MASK_INVERT" by decide,
      nofun⟩
  · simp only [tuningVariables, List.forall_mem_cons]
    exact ⟨reserved.newline_notMem_listText, reserved.newline_notMem_invertedMaskList, nofun⟩

theorem environment?_tuning (reserved : CpuSet) (name : String) :
    (BootUnits.tuning reserved.listText reserved.invertedMaskList).environment? name =
      SortedMap.lookup name (tuningVariables reserved) := by
  rw [SystemdUnit.environment?_eq_lookup, environment_tuning]

theorem newline_notMem_toString (n : Nat) : '\n' ∉ (toString n).toList := by
  rw [Nat.toString_eq_repr, Nat.toList_repr]
  exact notMem_decimal (by decide) n

def allocationVariables (kb : Nat) (count node : UInt32) : Entries := [
  ("HUGEPAGES_COUNT", toString count), ("HUGEPAGES_SIZE", toString kb),
  ("NUMA_NODE", toString node)]

theorem environment_allocation (kb : Nat) (count node : UInt32) :
    (BootUnits.allocation kb count node).environment = allocationVariables kb count node := by
  have described : s!"Description=Hugepages-{kb}kB allocation on the node {node}" =
      "Description=" ++ s!"Hugepages-{kb}kB allocation on the node {node}" := by
    simp only [← String.append_assoc]
    rfl
  have contents : (BootUnits.allocation kb count node).contents =
      some (BootUnits.oneShot
        ["Description=" ++ s!"Hugepages-{kb}kB allocation on the node {node}"] ["kubelet.service"]
        ((allocationVariables kb count node).map fun entry => entry.1 ++ "=" ++ entry.2)
        BootFiles.allocationPath) := by
    rw [← described]
    rfl
  refine environment_oneShot contents ?_ (by decide +kernel) (by decide) ?_ ?_
  · have size := newline_notMem_toString kb
    have place := newline_notMem_toString node.toNat
    simp only [String.toList_append, List.mem_append, not_or]
    exact ⟨⟨⟨by decide, size⟩, by decide⟩, place⟩
  · simp only [allocationVariables, List.forall_mem_cons]
    exact ⟨show IsKey "HUGEPAGES_COUNT" by decide, show IsKey "HUGEPAGES_SIZE" by decide,
      show IsKey "NUMA_NODE" by decide, nofun⟩
  · simp only [allocationVariables, List.forall_mem_cons]
    exact ⟨newline_notMem_toString _, newline_notMem_toString _, newline_notMem_toString _, nofun⟩

theorem quotedSetting?_runtimes {reserved : String} (free : '\n' ∉ reserved.toList) :
    quotedSetting? (BootFiles.runtimes reserved) "crio.runtime" "infra_ctr_cpuset" =
      some reserved := by
  have key : trim "infra_ctr_cpuset ".toList = "infra_ctr_cpuset".toList := by decide +kernel
  have found : SortedMap.lookup "crio.runtime"
      (BootFiles.runtimesParts reserved ++ [BootFiles.runtimesLast]) =
        some [("infra_ctr_cpuset ", " \"" ++ reserved ++ "\"")] := rfl
  rw [quotedSetting?, BootFiles.sections_runtimes free, found]
  simp only [Option.bind_eq_bind, Option.bind_some]
  rw [List.find?_cons_of_pos (by exact decide_eq_true key), Option.bind_some, quoted?_written]

end NodeTuning
