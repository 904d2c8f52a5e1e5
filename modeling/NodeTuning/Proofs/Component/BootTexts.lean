import NodeTuning.Component.MachineConfig
import NodeTuning.Proofs.Text.Base64
import NodeTuning.Proofs.Text.Sections

/-!
The units and the settings that nodes get at boot, as texts in sections. Main statements: the
sections of a unit that runs a program once, and those of the container runtime's settings, in which
the list of reserved CPUs stands once and its mark no more.
-/
namespace NodeTuning

namespace Text
variable {first : Char} {pattern replacement front back : List Char}

theorem replaceFrom_of_notMem (absent : first ∉ front) (back : List Char) :
    replaceFrom (first :: pattern) replacement 0 (front ++ back) =
      front ++ replaceFrom (first :: pattern) replacement 0 back := by
  induction front with
  | nil => rfl
  | cons c front ih =>
    obtain ⟨different, later⟩ := not_or.1 (mt List.mem_cons.2 absent)
    rw [List.cons_append, replaceFrom, if_neg (by simp [different]), ih later]
    rfl

theorem replaceFrom_skipped (skipped : List Char) :
    replaceFrom pattern replacement skipped.length (skipped ++ back) =
      replaceFrom pattern replacement 0 back := by
  induction skipped with
  | nil => rfl
  | cons c skipped ih => exact ih

/-- A pattern that occurs once is replaced there, and all else stays. -/
theorem replaceAll_once (before : first ∉ front) (after : first ∉ back) :
    replaceAll (first :: pattern) replacement (front ++ first :: pattern ++ back) =
      front ++ replacement ++ back := by
  have found : (first :: pattern).isPrefixOf (first :: (pattern ++ back)) = true :=
    List.isPrefixOf_iff_prefix.2 (List.prefix_append (first :: pattern) back)
  have rest : replaceFrom (first :: pattern) replacement 0 (back ++ []) = back ++ [] :=
    replaceFrom_of_notMem after []
  rw [List.append_nil] at rest
  rw [replaceAll, if_neg (by simp), List.append_assoc, replaceFrom_of_notMem before,
    List.cons_append, replaceFrom, if_pos found, List.length_cons, Nat.add_sub_cancel,
    replaceFrom_skipped, rest, List.append_assoc]

end Text

open Text

namespace BootUnits

/-- What the text of a unit says that runs a program once. -/
def oneShotParts (description program : String) (before settings : List String) :
    List (String × Entries) := [
  ("Unit", ("Description", description) :: before.map (Prod.mk "Before" ·)),
  ("Service", settings.map (Prod.mk "Environment" ·) ++
    [("Type", "oneshot"), ("RemainAfterExit", "true"), ("ExecStart", program)])]

theorem toList_oneShot (description program : String) (before settings : List String) :
    (oneShot ["Description=" ++ description] before settings program).toList =
      partsText (oneShotParts description program before settings) ++
        (lines (sectionLines ("Install", [("WantedBy", "multi-user.target")]))).toList := by
  simp [oneShot, oneShotParts, partsText, sectionLines, lines, Function.comp_def]

theorem sections_oneShot {description program : String} {before settings : List String}
    (described : '\n' ∉ description.toList) (runs : '\n' ∉ program.toList)
    (ordered : ∀ unit ∈ before, '\n' ∉ unit.toList)
    (set : ∀ setting ∈ settings, '\n' ∉ setting.toList) :
    sections (oneShot ["Description=" ++ description] before settings program) =
      oneShotParts description program before settings ++
        [("Install", [("WantedBy", "multi-user.target")])] := by
  have unit :
      Legible ("Unit", ("Description", description) :: before.map (Prod.mk "Before" ·)) := by
    constructor
    · exact show '\n' ∉ "Unit".toList by decide
    · rw [List.forall_mem_cons, List.forall_mem_map]
      exact ⟨show IsKey "Description" by decide, fun _ _ => show IsKey "Before" by decide⟩
    · rw [List.forall_mem_cons, List.forall_mem_map]
      exact ⟨described, ordered⟩
  have service : Legible ("Service", settings.map (Prod.mk "Environment" ·) ++
      [("Type", "oneshot"), ("RemainAfterExit", "true"), ("ExecStart", program)]) := by
    constructor
    · exact show '\n' ∉ "Service".toList by decide
    · rw [List.forall_mem_append, List.forall_mem_map]
      refine ⟨fun _ _ => show IsKey "Environment" by decide, ?_⟩
      simp only [List.forall_mem_cons]
      exact ⟨by decide, by decide, show IsKey "ExecStart" by decide, nofun⟩
    · rw [List.forall_mem_append, List.forall_mem_map]
      refine ⟨set, ?_⟩
      simp only [List.forall_mem_cons]
      exact ⟨by decide, by decide, runs, nofun⟩
  have install : Legible ("Install", [("WantedBy", "multi-user.target")]) := by
    constructor <;> decide
  have ends := readSections_part install []
  rw [List.append_nil] at ends
  have legible : ∀ part ∈ oneShotParts description program before settings, Legible part := by
    simp only [oneShotParts, List.forall_mem_cons]
    exact ⟨unit, service, nofun⟩
  rw [sections, toList_oneShot, readSections_partsText legible (by rw [ends]), ends]
  rfl

end BootUnits

namespace BootFiles

/-- What the settings of the container runtime say. -/
def runtimesParts (reserved : String) : List (String × Entries) := [
  ("crio.runtime", [("infra_ctr_cpuset ", " \"" ++ reserved ++ "\"")])]

def runtimesLast : String × Entries := ("crio.runtime.runtimes.high-performance", [
  ("runtime_path ", " \"/bin/runc\""),
  ("runtime_type ", " \"oci\""),
  ("runtime_root ", " \"/run/runc\""),
  ("allowed_annotations ", " [\"cpu-load-balancing.crio.io\", " ++
    "\"cpu-quota.crio.io\", \"irq-load-balancing.crio.io\"]")])

theorem runtimesTemplate_eq : runtimesTemplate = lines
    (["[crio.runtime]", "infra_ctr_cpuset = \"" ++ reservedMark ++ "\"", ""] ++
      sectionLines runtimesLast) := by
  refine congrArg lines ?_
  decide +kernel

/-- Of the template nothing but the mark has a brace. -/
theorem brace_notMem_runtimesLast : '\x7b' ∉ (lines (sectionLines runtimesLast)).toList :=
  notMem_lines (by decide) (by decide +kernel)

/-- What stands before the mark in the template. -/
def runtimesFront : List Char := "[crio.runtime]\ninfra_ctr_cpuset = \"".toList

/-- What stands behind the mark in the template. -/
def runtimesBack : List Char :=
  '"' :: '\n' :: '\n' :: (lines (sectionLines runtimesLast)).toList

theorem brace_notMem_runtimesFront : '\x7b' ∉ runtimesFront := by decide

theorem brace_notMem_runtimesBack : '\x7b' ∉ runtimesBack := by
  simp [runtimesBack, brace_notMem_runtimesLast]

theorem toList_runtimesTemplate :
    runtimesTemplate.toList = runtimesFront ++ reservedMark.toList ++ runtimesBack := by
  unfold runtimesFront runtimesBack
  rw [runtimesTemplate_eq]
  simp [lines]

/-- The mark stands once in the template, so the list takes its place there. -/
theorem toList_runtimes_eq (reserved : String) :
    (runtimes reserved).toList = runtimesFront ++ reserved.toList ++ runtimesBack := by
  have mark : reservedMark.toList = '\x7b' :: "\x7breserved_cpus\x7d\x7d".toList := by decide
  rw [runtimes, String.toList_ofList, toList_runtimesTemplate, mark,
    replaceAll_once brace_notMem_runtimesFront brace_notMem_runtimesBack]

theorem toList_runtimes (reserved : String) : (runtimes reserved).toList =
    partsText (runtimesParts reserved) ++ (lines (sectionLines runtimesLast)).toList := by
  rw [toList_runtimes_eq]
  unfold runtimesFront runtimesBack
  simp [partsText, runtimesParts, sectionLines, lines]

theorem mark_not_infix_runtimes {reserved : String} (free : '\x7b' ∉ reserved.toList) :
    ¬ reservedMark.toList <:+: (runtimes reserved).toList := by
  have absent : '\x7b' ∉ (runtimes reserved).toList := by
    rw [toList_runtimes, List.mem_append, not_or]
    refine ⟨?_, brace_notMem_runtimesLast⟩
    simp [partsText, runtimesParts, sectionLines, lines, free]
  have present : '\x7b' ∈ reservedMark.toList := by decide
  exact fun inside => absent (inside.subset present)

theorem sections_runtimes {reserved : String} (free : '\n' ∉ reserved.toList) :
    sections (runtimes reserved) = runtimesParts reserved ++ [runtimesLast] := by
  have first : ∀ part ∈ runtimesParts reserved, Legible part := by
    simp only [runtimesParts, List.forall_mem_cons]
    refine ⟨⟨?_, ?_, ?_⟩, nofun⟩
    · exact show '\n' ∉ "crio.runtime".toList by decide
    · simp only [List.forall_mem_cons]
      exact ⟨show IsKey "infra_ctr_cpuset " by decide, nofun⟩
    · simp only [List.forall_mem_cons]
      exact ⟨by simp [free], nofun⟩
  have last := readSections_part (show Legible runtimesLast by decide +kernel) []
  rw [List.append_nil] at last
  rw [sections, toList_runtimes, readSections_partsText first (by rw [last]), last]
  rfl

end BootFiles
end NodeTuning
