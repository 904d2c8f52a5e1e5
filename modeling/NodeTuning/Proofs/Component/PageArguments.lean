import NodeTuning.Component.HugePages
import NodeTuning.Proofs.Steps
import NodeTuning.Proofs.Text.Reading
import Mathlib.Data.List.Forall2

/-!
The kernel's arguments on huge pages. Main statement: they are the default size, if there is one,
and a size with a count for each page without a node, in the order of the pages.
-/
namespace NodeTuning
open Text

theorem except_paired_of_mapM {ε α β : Type} {f : α → Except ε β} {items : List α}
    {results : List β} (ok : items.mapM f = .ok results) :
    List.Forall₂ (fun item result => f item = .ok result) items results := by
  induction items generalizing results with
  | nil =>
    cases ok
    exact .nil
  | cons item rest ih =>
    simp only [List.mapM_cons, except_bind_eq_ok_iff] at ok
    obtain ⟨first, own, others, mapped, done⟩ := ok
    cases done
    exact .cons own (ih mapped)

theorem hugePageKb_eq_ok_iff {size : String} {kb : Nat} : hugePageKb size = .ok kb ↔
    (size = "2M" ∧ kb = 2048) ∨ (size = "1G" ∧ kb = 1048576) := by
  unfold hugePageKb
  split
  · simp [eq_comm]
  · simp [eq_comm]
  · simp_all

theorem hugePageKb_inj {first second : String} {firstKb secondKb : Nat}
    (one : hugePageKb first = .ok firstKb) (two : hugePageKb second = .ok secondKb) :
    first = second ↔ firstKb = secondKb := by
  rw [hugePageKb_eq_ok_iff] at one two
  rcases one with ⟨rfl, rfl⟩ | ⟨rfl, rfl⟩ <;> rcases two with ⟨rfl, rfl⟩ | ⟨rfl, rfl⟩ <;> decide

namespace HugePage

def pair (page : HugePage) : List String :=
  ["hugepagesz=" ++ page.size, "hugepages=" ++ toString page.count]

variable {pages : List HugePage}

theorem forall_mem_pairs {holds : String → Prop} : (∀ text ∈ pages.flatMap pair, holds text) ↔
    ∀ page ∈ pages, holds ("hugepagesz=" ++ page.size) ∧
      holds ("hugepages=" ++ toString page.count) := by
  simp only [List.forall_mem_flatMap, pair, List.forall_mem_cons]
  simp

theorem flatten_of_paired {lists : List (List String)}
    (paired : List.Forall₂ (fun page list => HugePages.pageArguments page = .ok list) pages lists) :
    lists.flatten = pages.flatMap pair := by
  induction paired with
  | nil => rfl
  | cons own _ ih =>
    simp only [HugePages.pageArguments, except_bind_eq_ok_iff] at own
    obtain ⟨_, _, done⟩ := own
    cases done
    rw [List.flatten_cons, List.flatMap_cons, ih, pair]

theorem sizes_of_paired {lists : List (List String)}
    (paired : List.Forall₂ (fun page list => HugePages.pageArguments page = .ok list) pages lists) :
    ∀ page ∈ pages, page.size = "2M" ∨ page.size = "1G" := by
  induction paired with
  | nil => exact nofun
  | cons own _ ih =>
    simp only [HugePages.pageArguments, except_bind_eq_ok_iff] at own
    obtain ⟨_, known, _⟩ := own
    exact List.forall_mem_cons.2 ⟨(hugePageKb_eq_ok_iff.1 known).imp And.left And.left, ih⟩

end HugePage

theorem HugePages.defaultArgument_eq_ok {hugepages : HugePages} {texts : List String}
    (ok : hugepages.defaultArgument = .ok texts) :
    texts = (hugepages.defaultSize.map ("default_hugepagesz=" ++ ·)).toList ∧
      ∀ size ∈ hugepages.defaultSize, size = "2M" ∨ size = "1G" := by
  unfold defaultArgument at ok
  cases given : hugepages.defaultSize with
  | none =>
    rw [given] at ok
    cases ok
    exact ⟨rfl, nofun⟩
  | some size =>
    simp only [given, except_bind_eq_ok_iff] at ok
    obtain ⟨kb, known, done⟩ := ok
    cases done
    refine ⟨rfl, ?_⟩
    rintro _ ⟨⟩
    exact (hugePageKb_eq_ok_iff.1 known).imp And.left And.left

/-- No argument on huge pages begins like one on CPUs. -/
def OnHugePages (argument : String) : Prop :=
  argument.toList.head? = some 'd' ∨ argument.toList.head? = some 'h'

theorem OnHugePages.head_ne {argument : String} {c : Char} (pages : OnHugePages argument)
    (default : c ≠ 'd') (size : c ≠ 'h') : argument.toList.head? ≠ some c := by
  rcases pages with first | first <;> rw [first]
  · exact fun same => default (Option.some.inj same).symm
  · exact fun same => size (Option.some.inj same).symm

namespace Profile
variable {profile : Profile} {arguments : List String}

/-- The huge pages that the profile asks for. -/
def pages (profile : Profile) : List HugePage :=
  (profile.spec.hugepages.map (·.pages)).getD []

def pagesDefaultSize (profile : Profile) : Option String :=
  profile.spec.hugepages.bind (·.defaultSize)

/-- The pages for all nodes. -/
def unpinnedPages (profile : Profile) : List HugePage := profile.pages.filter (·.node.isNone)

/-- The pages for one node each. -/
def pinnedPages (profile : Profile) : List HugePage := profile.pages.filter (·.node.isSome)

/-- The default size, and a size with a count for each page without a node. -/
def wantedArguments (profile : Profile) : List String :=
  (profile.pagesDefaultSize.map ("default_hugepagesz=" ++ ·)).toList ++
    profile.unpinnedPages.flatMap HugePage.pair

theorem forall_mem_wantedArguments {holds : String → Prop} :
    (∀ text ∈ profile.wantedArguments, holds text) ↔
      (∀ size ∈ profile.pagesDefaultSize, holds ("default_hugepagesz=" ++ size)) ∧
      ∀ page ∈ profile.unpinnedPages, holds ("hugepagesz=" ++ page.size) ∧
        holds ("hugepages=" ++ toString page.count) := by
  rw [wantedArguments, List.forall_mem_append, HugePage.forall_mem_pairs]
  simp

theorem pages_count (profile : Profile) :
    profile.unpinnedPages.length + profile.pinnedPages.length = profile.pages.length := by
  unfold unpinnedPages pinnedPages
  induction profile.pages with
  | nil => rfl
  | cons page pages ih =>
    cases placed : page.node <;> simp [placed] <;> omega

theorem hugePageArguments_eq_ok (ok : profile.hugePageArguments = .ok arguments) :
    arguments = profile.wantedArguments ∧
      (∀ size ∈ profile.pagesDefaultSize, size = "2M" ∨ size = "1G") ∧
      (∀ page ∈ profile.unpinnedPages, page.size = "2M" ∨ page.size = "1G") := by
  unfold hugePageArguments at ok
  unfold wantedArguments pagesDefaultSize unpinnedPages pages
  cases given : profile.spec.hugepages with
  | none =>
    rw [given] at ok
    cases ok
    simp
  | some hugepages =>
    simp only [given, HugePages.arguments, HugePages.unpinnedArguments,
      except_bind_eq_ok_iff] at ok
    obtain ⟨first, default, rest, ⟨lists, mapped, joined⟩, done⟩ := ok
    obtain ⟨rfl, size⟩ := HugePages.defaultArgument_eq_ok default
    have paired := except_paired_of_mapM mapped
    cases joined
    cases done
    rw [HugePage.flatten_of_paired paired]
    exact ⟨rfl, size, HugePage.sizes_of_paired paired⟩

theorem onHugePages_of_hugePageArguments (ok : profile.hugePageArguments = .ok arguments) :
    ∀ text ∈ arguments, OnHugePages text := by
  obtain ⟨rfl, -, -⟩ := hugePageArguments_eq_ok ok
  simp [forall_mem_wantedArguments, OnHugePages]

/-- Taking out the argument on the default size by its stem leaves the pairs. -/
theorem filter_wantedArguments (profile : Profile) :
    profile.wantedArguments.filter
        (fun argument => !"default_hugepagesz=".toList.isPrefixOf argument.toList) =
      profile.unpinnedPages.flatMap HugePage.pair := by
  have default : ∀ argument ∈ (profile.pagesDefaultSize.map ("default_hugepagesz=" ++ ·)).toList,
      ¬ (!"default_hugepagesz=".toList.isPrefixOf argument.toList) = true := by
    intro argument member
    obtain ⟨size, _, rfl⟩ := Option.map_eq_some_iff.1 (Option.mem_toList.1 member)
    simp [List.isPrefixOf]
  have pairs : ∀ argument ∈ profile.unpinnedPages.flatMap HugePage.pair,
      (!"default_hugepagesz=".toList.isPrefixOf argument.toList) = true := by
    rw [HugePage.forall_mem_pairs]
    simp [List.isPrefixOf]
  rw [wantedArguments, List.filter_append, List.filter_eq_nil_iff.2 default,
    List.filter_eq_self.2 pairs, List.nil_append]

end Profile
end NodeTuning
