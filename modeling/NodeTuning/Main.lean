import NodeTuning.Schema.Profile

/-!
The command line program prints the definition of performance profiles.
-/

def main : IO Unit :=
  IO.print NodeTuning.Schema.profileDefinition.render
