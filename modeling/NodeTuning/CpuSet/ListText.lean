import NodeTuning.CpuSet.Basic
import NodeTuning.CpuSet.Error
import NodeTuning.Text.Basic

/-!
CPU lists such as `0-3,8,10-11`. The reader takes pieces in any order, overlapping or not, with
blanks around every part. The writer gives the ascending runs, each as long as it can be.
-/
namespace NodeTuning.CpuSet
open NodeTuning.Text

/-- The largest id that a list may name. -/
def maxId : Nat := 8191

/-- A CPU id as text: a 32-bit number. -/
def id? (text : List Char) : Option Nat := unsigned? UInt32.size text

private def checked (start stop : Nat) : Except CpuError CpuSet :=
  if maxId < stop then .error (.cpuOutOfRange stop maxId) else .ok (range start stop)

def parsePiece (input : String) (piece : List Char) : Except CpuError CpuSet :=
  let token := trim piece
  let invalid := CpuError.invalidToken (String.ofList token) input
  match cut '-' token with
  | some (first, last) =>
    match id? (trim first), id? (trim last) with
    | some start, some stop =>
      if stop < start then .error (.reversedRange start stop) else checked start stop
    | _, _ => .error invalid
  | none =>
    match id? token with
    | some cpu => checked cpu cpu
    | none => .error invalid

/-- Reads pieces from left to right up to the first fault. -/
def parsePieces (input : String) : List (List Char) → CpuSet → Except CpuError CpuSet
  | [], set => .ok set
  | piece :: rest, set =>
    match parsePiece input piece with
    | .ok more => parsePieces input rest (set.union more)
    | .error fault => .error fault

/-- Reads a CPU list. A blank text is the empty set. -/
def parse (input : String) : Except CpuError CpuSet :=
  if (trim input.toList).isEmpty then .ok empty
  else parsePieces input (pieces ',' input.toList) empty

/-- The maximal runs of an ascending list, each with its first and last id. -/
def runsOf : List Nat → List (Nat × Nat)
  | [] => []
  | cpu :: rest =>
    match runsOf rest with
    | [] => [(cpu, cpu)]
    | (start, stop) :: more =>
      if cpu + 1 = start then (cpu, stop) :: more else (cpu, cpu) :: (start, stop) :: more

def runs (set : CpuSet) : List (Nat × Nat) := runsOf set.ids

def runText (run : Nat × Nat) : String :=
  if run.1 = run.2 then toString run.1 else s!"{run.1}-{run.2}"

def listText (set : CpuSet) : String := join "," (set.runs.map runText)

end NodeTuning.CpuSet
