import NodeTuning.Metrics
import NodeTuning.Text.Basic

/-!
The counters as text: for each family a help line, a line with its type, and its samples. Families
and label values come in ascending order, and a family without samples is left out.
-/
namespace NodeTuning.Metrics
open NodeTuning.Text

private def escapedChar (c : Char) : List Char :=
  if c = '\\' then ['\\', '\\']
  else if c = '"' then ['\\', '"']
  else if c = '\n' then ['\\', 'n']
  else [c]

def labelValue (value : String) : String := String.ofList (value.toList.flatMap escapedChar)

private def family (name help : String) (samples : List String) : List String :=
  if samples.isEmpty then []
  else ["# HELP " ++ name ++ " " ++ help, "# TYPE " ++ name ++ " counter"] ++
    samples.map (name ++ ·)

private def appliedSample (entry : String × Nat) : String :=
  "\x7bkind=\"" ++ labelValue entry.1 ++ "\"\x7d " ++ toString entry.2

def exposition (metrics : Metrics) : String :=
  lines (
    family "performance_profile_components_applied_total"
      "Total number of generated components created or updated"
      (metrics.applied.entries.map appliedSample) ++
    family "performance_profile_reconcile_errors_total"
      "Total number of reconcile passes that returned an error"
      [" " ++ toString metrics.failedPasses] ++
    family "performance_profile_reconciles_total"
      "Total number of reconcile passes"
      [" " ++ toString metrics.passes])

end NodeTuning.Metrics
