import NodeTuning.Component.Error
import NodeTuning.Object.Profile

/-!
Huge pages. Pages for all nodes are asked for on the kernel's command line. Pages for one node are
allocated by a unit at boot.
-/
namespace NodeTuning

def hugePageKb (size : String) : Except SynthesisError Nat :=
  match size with
  | "2M" => .ok 2048
  | "1G" => .ok 1048576
  | _ => .error (.hugePageSize size)

namespace HugePages

def unpinned (hugepages : HugePages) : List HugePage :=
  hugepages.pages.filter fun page => page.node.isNone

def defaultArgument (hugepages : HugePages) : Except SynthesisError (List String) :=
  match hugepages.defaultSize with
  | none => .ok []
  | some size => do
    let _ ← hugePageKb size
    return ["default_hugepagesz=" ++ size]

def pageArguments (page : HugePage) : Except SynthesisError (List String) := do
  let _ ← hugePageKb page.size
  return ["hugepagesz=" ++ page.size, "hugepages=" ++ toString page.count]

def unpinnedArguments (hugepages : HugePages) : Except SynthesisError (List String) := do
  let arguments ← hugepages.unpinned.mapM pageArguments
  return arguments.flatten

def arguments (hugepages : HugePages) : Except SynthesisError (List String) := do
  let first ← hugepages.defaultArgument
  let rest ← hugepages.unpinnedArguments
  return first ++ rest

end HugePages

def Profile.hugePageArguments (profile : Profile) : Except SynthesisError (List String) :=
  match profile.spec.hugepages with
  | none => .ok []
  | some hugepages => hugepages.arguments

end NodeTuning
