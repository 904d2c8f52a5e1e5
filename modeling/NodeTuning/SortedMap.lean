/-!
Maps with text keys, kept in ascending order of their keys. The order is part of the type, so two
maps with the same entries are equal and every listing comes in key order. Main statements: a
look-up after `insert` or `erase`, and that look-ups determine the map.
-/
namespace NodeTuning

/-- Entries with strictly ascending keys. -/
structure SortedMap (α : Type) where
  entries : List (String × α)
  sorted : entries.Pairwise (fun x y => x.1 < y.1)
  deriving DecidableEq

namespace SortedMap
variable {α β : Type}

def empty : SortedMap α := ⟨[], .nil⟩

instance : Inhabited (SortedMap α) := ⟨empty⟩

instance : EmptyCollection (SortedMap α) := ⟨empty⟩

def isEmpty (map : SortedMap α) : Bool := map.entries.isEmpty

def size (map : SortedMap α) : Nat := map.entries.length

def keys (map : SortedMap α) : List String := map.entries.map (·.1)

def values (map : SortedMap α) : List α := map.entries.map (·.2)

def lookup (key : String) : List (String × α) → Option α
  | [] => none
  | entry :: rest => if key = entry.1 then some entry.2 else lookup key rest

def find? (map : SortedMap α) (key : String) : Option α := lookup key map.entries

def contains (map : SortedMap α) (key : String) : Bool := (map.find? key).isSome

/-- Adds an entry in its place, instead of one with the same key. -/
def insertEntry (key : String) (value : α) : List (String × α) → List (String × α)
  | [] => [(key, value)]
  | entry :: rest =>
    if key < entry.1 then (key, value) :: entry :: rest
    else if key = entry.1 then (key, value) :: rest
    else entry :: insertEntry key value rest

theorem mem_insertEntry {key : String} {value : α} {entries : List (String × α)}
    {entry : String × α} (member : entry ∈ insertEntry key value entries) :
    entry = (key, value) ∨ entry ∈ entries := by
  induction entries with
  | nil => exact .inl (by simpa [insertEntry] using member)
  | cons first rest ih =>
    unfold insertEntry at member
    split at member
    · simpa using member
    · split at member
      · simp only [List.mem_cons] at member ⊢
        exact member.imp_right .inr
      · simp only [List.mem_cons] at member ⊢
        rcases member with same | later
        · exact .inr (.inl same)
        · exact (ih later).imp_right .inr

theorem sorted_insertEntry {key : String} {value : α} {entries : List (String × α)}
    (sorted : entries.Pairwise (fun x y => x.1 < y.1)) :
    (insertEntry key value entries).Pairwise (fun x y => x.1 < y.1) := by
  induction entries with
  | nil => simp [insertEntry]
  | cons first rest ih =>
    obtain ⟨below, sortedRest⟩ := List.pairwise_cons.1 sorted
    unfold insertEntry
    split
    · rename_i before
      refine List.pairwise_cons.2 ⟨?_, sorted⟩
      intro entry member
      rcases List.mem_cons.1 member with rfl | later
      · exact before
      · exact String.lt_trans before (below entry later)
    · rename_i notBefore
      split
      · rename_i same
        exact List.pairwise_cons.2 ⟨fun entry member => by rw [same]; exact below entry member,
          sortedRest⟩
      · rename_i different
        refine List.pairwise_cons.2 ⟨?_, ih sortedRest⟩
        intro entry member
        rcases mem_insertEntry member with rfl | later
        · exact Std.lt_of_le_of_ne (String.not_lt.1 notBefore) (Ne.symm different)
        · exact below entry later

def insert (map : SortedMap α) (key : String) (value : α) : SortedMap α :=
  ⟨insertEntry key value map.entries, sorted_insertEntry map.sorted⟩

def erase (map : SortedMap α) (key : String) : SortedMap α :=
  ⟨map.entries.filter (fun entry => entry.1 ≠ key), map.sorted.filter _⟩

/-- The map with the given entries, of which the last one with a key counts. -/
def ofList (entries : List (String × α)) : SortedMap α :=
  entries.foldl (fun map entry => map.insert entry.1 entry.2) empty

/-- All entries of both maps. Where both have a key, the second one's value counts. -/
def extend (map more : SortedMap α) : SortedMap α :=
  more.entries.foldl (fun result entry => result.insert entry.1 entry.2) map

def all (map : SortedMap α) (test : String → α → Bool) : Bool :=
  map.entries.all fun entry => test entry.1 entry.2

@[simp] theorem find?_empty (key : String) : (empty : SortedMap α).find? key = none := rfl

theorem lookup_append (key : String) (front back : List (String × α)) :
    lookup key (front ++ back) = (lookup key front).or (lookup key back) := by
  induction front with
  | nil => rfl
  | cons entry front ih =>
    rw [List.cons_append, lookup, lookup, ih]
    split <;> rfl

theorem lookup_insertEntry (key : String) (value : α) (entries : List (String × α))
    (other : String) : lookup other (insertEntry key value entries) =
      if other = key then some value else lookup other entries := by
  induction entries with
  | nil => rfl
  | cons first rest ih =>
    unfold insertEntry
    split
    · rfl
    · split
      · rename_i same
        by_cases here : other = key <;> simp [lookup, ← same, here]
      · rename_i different
        by_cases here : other = first.1
        · simp [lookup, here, Ne.symm different]
        · simp [lookup, here, ih]

theorem find?_insert (map : SortedMap α) (key : String) (value : α) (other : String) :
    (map.insert key value).find? other = if other = key then some value else map.find? other :=
  lookup_insertEntry key value map.entries other

@[simp] theorem find?_insert_self (map : SortedMap α) (key : String) (value : α) :
    (map.insert key value).find? key = some value := by simp [find?_insert]

theorem find?_insert_of_ne (map : SortedMap α) {key other : String} (value : α)
    (different : other ≠ key) : (map.insert key value).find? other = map.find? other := by
  simp [find?_insert, different]

theorem lookup_filter_ne (key other : String) (entries : List (String × α)) :
    lookup other (entries.filter (fun entry => entry.1 ≠ key)) =
      if other = key then none else lookup other entries := by
  induction entries with
  | nil => simp [lookup]
  | cons first rest ih =>
    by_cases dropped : first.1 = key
    · by_cases here : other = key
      · simp_all
      · have there : other ≠ first.1 := dropped ▸ here
        simp_all [lookup]
    · by_cases here : other = first.1
      · simp [here, dropped, lookup]
      · simp_all [lookup]

theorem find?_erase (map : SortedMap α) (key other : String) :
    (map.erase key).find? other = if other = key then none else map.find? other :=
  lookup_filter_ne key other map.entries

@[simp] theorem find?_erase_self (map : SortedMap α) (key : String) :
    (map.erase key).find? key = none := by simp [find?_erase]

theorem find?_erase_of_ne (map : SortedMap α) {key other : String} (different : other ≠ key) :
    (map.erase key).find? other = map.find? other := by simp [find?_erase, different]

theorem lookup_eq_some_of_mem {entries : List (String × α)}
    (sorted : entries.Pairwise (fun x y => x.1 < y.1)) {entry : String × α}
    (member : entry ∈ entries) : lookup entry.1 entries = some entry.2 := by
  induction entries with
  | nil => cases member
  | cons first rest ih =>
    obtain ⟨below, sortedRest⟩ := List.pairwise_cons.1 sorted
    rcases List.mem_cons.1 member with rfl | later
    · simp [lookup]
    · have different : entry.1 ≠ first.1 := (String.ne_of_lt (below entry later)).symm
      simp [lookup, different, ih sortedRest later]

theorem mem_of_lookup_eq_some {entries : List (String × α)} {key : String} {value : α}
    (found : lookup key entries = some value) : (key, value) ∈ entries := by
  induction entries with
  | nil => cases found
  | cons first rest ih =>
    by_cases here : key = first.1
    · simp only [lookup, here, if_true, Option.some.injEq] at found
      simp [← found, here]
    · simp only [lookup, here, if_false] at found
      exact List.mem_cons_of_mem _ (ih found)

/-- A map holds an entry exactly when a look-up of its key gives its value. -/
theorem mem_entries_iff (map : SortedMap α) (key : String) (value : α) :
    (key, value) ∈ map.entries ↔ map.find? key = some value :=
  ⟨fun member => lookup_eq_some_of_mem map.sorted member, mem_of_lookup_eq_some⟩

theorem mem_values_iff (map : SortedMap α) (value : α) :
    value ∈ map.values ↔ ∃ key, map.find? key = some value := by
  simp only [values, List.mem_map, Prod.exists, exists_eq_right, mem_entries_iff]

private theorem filter_insertEntry {test : α → Bool} {key : String} {value : α}
    {entries : List (String × α)} (new : test value = false)
    (old : ∀ other, lookup key entries = some other → test other = false) :
    ((insertEntry key value entries).map (·.2)).filter test =
      (entries.map (·.2)).filter test := by
  induction entries with
  | nil => simp [insertEntry, new]
  | cons first rest ih =>
    unfold insertEntry
    split
    · simp [new]
    · split
      · rename_i same
        simp [new, old first.2 (by simp [lookup, same])]
      · rename_i different
        simp only [lookup, different, if_false] at old
        simp only [List.map_cons, List.filter_cons, ih old]

/-- A test that neither the old value of a key nor the new one passes does not see the change. -/
theorem filter_values_insert {test : α → Bool} {map : SortedMap α} {key : String} {value : α}
    (new : test value = false) (old : ∀ other, map.find? key = some other → test other = false) :
    (map.insert key value).values.filter test = map.values.filter test :=
  filter_insertEntry new old

private theorem find?_insertAll {entries : List (String × α)}
    (sorted : entries.Pairwise (fun x y => x.1 < y.1)) (map : SortedMap α) (key : String) :
    (entries.foldl (fun result entry => result.insert entry.1 entry.2) map).find? key =
      (lookup key entries).or (map.find? key) := by
  induction entries generalizing map with
  | nil => rfl
  | cons first rest ih =>
    obtain ⟨below, sortedRest⟩ := List.pairwise_cons.1 sorted
    rw [List.foldl_cons, ih sortedRest]
    by_cases here : key = first.1
    · have absent : lookup key rest = none := by
        cases later : lookup key rest with
        | none => rfl
        | some value =>
          have after := below _ (mem_of_lookup_eq_some later)
          exact absurd after (here ▸ String.lt_irrefl _)
      simp [lookup, here ▸ absent, here]
    · simp [lookup, here, find?_insert_of_ne]

theorem find?_extend (map more : SortedMap α) (key : String) :
    (map.extend more).find? key = (more.find? key).or (map.find? key) :=
  find?_insertAll more.sorted map key

private theorem entries_eq {first second : List (String × α)}
    (sortedFirst : first.Pairwise (fun x y => x.1 < y.1))
    (sortedSecond : second.Pairwise (fun x y => x.1 < y.1))
    (same : ∀ entry, entry ∈ first ↔ entry ∈ second) : first = second := by
  induction first generalizing second with
  | nil =>
    cases second with
    | nil => rfl
    | cons entry rest => exact absurd ((same entry).2 (by simp)) (by simp)
  | cons x xs ih =>
    cases second with
    | nil => exact absurd ((same x).1 (by simp)) (by simp)
    | cons y ys =>
      obtain ⟨belowX, sortedX⟩ := List.pairwise_cons.1 sortedFirst
      obtain ⟨belowY, sortedY⟩ := List.pairwise_cons.1 sortedSecond
      have heads : x = y := by
        rcases List.mem_cons.1 ((same x).1 (by simp)) with equal | later
        · exact equal
        · rcases List.mem_cons.1 ((same y).2 (by simp)) with equal | earlier
          · exact equal.symm
          · exact absurd (belowX y earlier) (String.lt_asymm (belowY x later))
      subst heads
      refine congrArg _ (ih sortedX sortedY fun entry => ?_)
      constructor
      · intro member
        rcases List.mem_cons.1 ((same entry).1 (List.mem_cons_of_mem _ member)) with equal | later
        · exact absurd (belowX entry member) (equal ▸ String.lt_irrefl _)
        · exact later
      · intro member
        rcases List.mem_cons.1 ((same entry).2 (List.mem_cons_of_mem _ member)) with equal | later
        · exact absurd (belowY entry member) (equal ▸ String.lt_irrefl _)
        · exact later

theorem ext_find? {first second : SortedMap α}
    (same : ∀ key, first.find? key = second.find? key) : first = second := by
  have entries : first.entries = second.entries :=
    entries_eq first.sorted second.sorted fun entry => by
      obtain ⟨key, value⟩ := entry
      rw [mem_entries_iff, mem_entries_iff, same]
  cases first
  cases second
  cases entries
  rfl

theorem insert_of_find? {map : SortedMap α} {key : String} {value : α}
    (found : map.find? key = some value) : map.insert key value = map := by
  apply ext_find?
  intro other
  rw [find?_insert]
  split
  · rename_i same
    rw [same, found]
  · rfl

theorem insert_comm (map : SortedMap α) {key other : String} (different : key ≠ other)
    (value more : α) :
    (map.insert key value).insert other more = (map.insert other more).insert key value := by
  apply ext_find?
  intro place
  simp only [find?_insert]
  split
  · rename_i here
    rw [here, if_neg different.symm]
  · rfl

theorem ofList_entries (map : SortedMap α) : ofList map.entries = map :=
  ext_find? fun key => by
    have found := find?_extend empty map key
    rw [find?_empty, Option.or_none] at found
    exact found

private theorem mem_of_find?_insertAll {entries : List (String × α)} {map : SortedMap α}
    {key : String} {value : α}
    (found : (entries.foldl (fun result entry => result.insert entry.1 entry.2) map).find? key =
      some value) : (key, value) ∈ entries ∨ map.find? key = some value := by
  induction entries generalizing map with
  | nil => exact .inr found
  | cons first rest ih =>
    rcases ih found with later | inserted
    · exact .inl (List.mem_cons_of_mem _ later)
    · rw [find?_insert] at inserted
      split at inserted
      · rename_i here
        cases inserted
        exact .inl (by simp [here])
      · exact .inr inserted

private theorem isSome_find?_insertAll {entries : List (String × α)} {map : SortedMap α}
    {key : String} (there : (∃ value, (key, value) ∈ entries) ∨ (map.find? key).isSome) :
    ((entries.foldl (fun result entry => result.insert entry.1 entry.2) map).find? key).isSome := by
  induction entries generalizing map with
  | nil => simpa using there
  | cons first rest ih =>
    apply ih
    rcases there with ⟨value, member⟩ | before
    · rcases List.mem_cons.1 member with rfl | later
      · simp
      · exact .inl ⟨value, later⟩
    · right
      rw [find?_insert]
      split
      · rfl
      · exact before

theorem mem_of_mem_ofList {entries : List (String × α)} {entry : String × α}
    (member : entry ∈ (ofList entries).entries) : entry ∈ entries := by
  have found := (mem_entries_iff _ entry.1 entry.2).1 member
  exact (mem_of_find?_insertAll found).resolve_right (by simp)

/-- Where no key has two values, the list and the map made of it have the same entries. -/
theorem mem_entries_ofList {entries : List (String × α)}
    (functional : ∀ key first second, (key, first) ∈ entries → (key, second) ∈ entries →
      first = second) (key : String) (value : α) :
    (key, value) ∈ (ofList entries).entries ↔ (key, value) ∈ entries := by
  refine ⟨mem_of_mem_ofList, fun member => ?_⟩
  have filled : ((ofList entries).find? key).isSome :=
    isSome_find?_insertAll (.inl ⟨value, member⟩)
  obtain ⟨other, found⟩ := Option.isSome_iff_exists.1 filled
  have there := mem_of_mem_ofList ((mem_entries_iff _ key other).2 found)
  rwa [functional key value other member there, mem_entries_iff]

/-- A map of values under their names lists them in the order of their names. -/
theorem pairwise_values_ofList (name : α → String) (values : List α) :
    (ofList (values.map fun value => (name value, value))).values.Pairwise
      fun one two => name one < name two := by
  have keyed : ∀ entry ∈ (ofList (values.map fun value => (name value, value))).entries,
      entry.1 = name entry.2 := by
    intro entry member
    obtain ⟨value, _, rfl⟩ := List.mem_map.1 (mem_of_mem_ofList member)
    rfl
  rw [SortedMap.values, List.pairwise_map]
  apply (ofList _).sorted.imp_of_mem
  intro one two first second below
  rwa [keyed one first, keyed two second] at below

end SortedMap

/-- Labels and annotations. -/
abbrev Labels := SortedMap String

end NodeTuning
