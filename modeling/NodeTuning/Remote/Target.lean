import NodeTuning.Object.Kind
import NodeTuning.Text.FormEncoded

/-!
Targets of requests: the path of a collection, an object or a part of one, and a query. Names go
into the path as they are, so that not every name makes a target.
-/
namespace NodeTuning.Target

def collection (kind : Kind) (inNamespace : String) : String :=
  let root := "/apis/" ++ kind.apiVersion
  (if kind.isNamespaced then root ++ "/namespaces/" ++ inNamespace else root) ++ "/" ++ kind.plural

def events (inNamespace : String) : String :=
  "/apis/events.k8s.io/v1/namespaces/" ++ inNamespace ++ "/events"

def labelQuery (labels : String) : String := "&labelSelector=" ++ Text.FormEncoded.encode labels

/-- Targets have at most this many bytes. -/
def maxSize : Nat := 65534

private def within (n low high : Nat) : Bool := low ≤ n && n ≤ high

private def inPath (c : Char) : Bool :=
  let n := c.toNat
  n = 0x21 || n = 0x22 || within n 0x24 0x3B || n = 0x3D || within n 0x40 0x5F ||
    within n 0x61 0x7E || 0x80 ≤ n

private def inQuery (c : Char) : Bool :=
  let n := c.toNat
  n = 0x21 || within n 0x24 0x3B || n = 0x3D || within n 0x3F 0x7E || 0x80 ≤ n

/-- The target that a text stands for. A fragment is dropped, and so is an empty query. -/
def read? (text : String) : Option String :=
  let sent := text.toList.takeWhile (· ≠ '#')
  let path := sent.takeWhile (· ≠ '?')
  let query := (sent.dropWhile (· ≠ '?')).drop 1
  if maxSize < text.utf8ByteSize || !path.all inPath || !query.all inQuery then none
  else if query.isEmpty then some (String.ofList path)
  else some (String.ofList (path ++ '?' :: query))

end NodeTuning.Target
