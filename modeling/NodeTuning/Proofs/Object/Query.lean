import NodeTuning.Object.Selector
import NodeTuning.Proofs.Text.Reading

/-!
Labels written as a query and read back. Main statement: nothing is lost, provided that no key holds
a comma or an equals sign, no value holds a comma, and neither has blanks around it.
-/
namespace NodeTuning
open Text

/-- A label that a query can carry. -/
structure Queryable (label : String × String) : Prop where
  key_comma : ',' ∉ label.1.toList
  key_equals : '=' ∉ label.1.toList
  key_trimmed : trim label.1.toList = label.1.toList
  value_comma : ',' ∉ label.2.toList
  value_trimmed : trim label.2.toList = label.2.toList

namespace LabelSelector

/-- The piece of a query that is written for a label. -/
private def written (label : String × String) : List Char :=
  label.1.toList ++ '=' :: label.2.toList

private theorem toList_query (labels : Labels) : (ofLabels labels).query.toList =
    List.intercalate [','] (labels.entries.map written) := by
  have each : String.toList ∘ (fun label : String × String => label.1 ++ "=" ++ label.2) =
      written := by
    funext label
    simp [written]
  rw [query, join, String.toList_intercalate, List.map_map]
  exact congrArg (List.intercalate [','] <| List.map · labels.entries) each

theorem labelsOfQuery_query {labels : Labels}
    (queryable : ∀ label ∈ labels.entries, Queryable label) :
    labelsOfQuery (ofLabels labels).query = labels := by
  by_cases filled : labels.entries.map written = []
  · have none : labels.entries = [] := List.map_eq_nil_iff.1 filled
    have empty : labels = .empty := by
      cases labels
      cases none
      rfl
    subst empty
    rfl
  · have free : ∀ piece ∈ labels.entries.map written, ',' ∉ piece := by
      intro piece member
      obtain ⟨label, listed, rfl⟩ := List.mem_map.1 member
      have carried := queryable label listed
      simp [written, carried.key_comma, carried.value_comma]
    have read : ∀ label ∈ labels.entries, (cut '=' (written label)).map (fun halves =>
        (String.ofList (trim halves.1), String.ofList (trim halves.2))) = some (id label) := by
      intro label listed
      have carried := queryable label listed
      rw [written, cut_append carried.key_equals, Option.map_some, carried.key_trimmed,
        carried.value_trimmed, String.ofList_toList, String.ofList_toList, id]
    rw [labelsOfQuery, toList_query, pieces_intercalate filled free, List.filterMap_map]
    have entries := List.filterMap_eq_map_iff_forall_eq_some.2 read
    rw [List.map_id] at entries
    exact (congrArg SortedMap.ofList entries).trans labels.ofList_entries

theorem selects_ofLabels_iff {labels others : Labels} : (ofLabels labels).selects others = true ↔
    ∀ label ∈ labels.entries, others.find? label.1 = some label.2 := by
  simp [selects, ofLabels, SortedMap.all]

/-- A query for one label that it can carry finds what has the label. -/
theorem selects_query {label : String × String} (queryable : Queryable label) (labels : Labels) :
    (ofLabels (labelsOfQuery (ofLabels (SortedMap.empty.insert label.1 label.2)).query)).selects
      labels = true ↔ labels.find? label.1 = some label.2 := by
  have entries : (SortedMap.empty.insert label.1 label.2).entries = [label] := rfl
  have single : ∀ other ∈ (SortedMap.empty.insert label.1 label.2).entries, Queryable other := by
    rw [entries]
    exact List.forall_mem_singleton.2 queryable
  rw [labelsOfQuery_query single, selects_ofLabels_iff, entries, List.forall_mem_singleton]

end LabelSelector
end NodeTuning
