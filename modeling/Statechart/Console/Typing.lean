import Statechart.Console.Tools
import Statechart.Text.Cluster

/-! Lines of input as they are typed: a backspace takes back what stands before it on its line. -/
namespace Statechart.Console

/-- A line so far, its last character first, and what each backspace would take back. -/
structure Typed where
  text : List Char := []
  sizes : List Nat := []

namespace Typed

def backspace : Char := '\x08'

def byteCount : List Char → Nat
  | [] => 0
  | c :: cs => c.utf8Size + byteCount cs

def dropBytes? : Nat → List Char → Option (List Char)
  | 0, cs => some cs
  | _ + 1, [] => none
  | n + 1, c :: cs => if c.utf8Size ≤ n + 1 then dropBytes? (n + 1 - c.utf8Size) cs else none

/-- A cluster is added as a whole. Its size in bytes is noted in one byte, and a backspace takes
back the size noted last, which of a long cluster may be a part of a character: the line breaks. -/
def enter? (t : Typed) (cluster : List Char) : Option Typed :=
  if cluster = [backspace] then
    match t.sizes with
    | [] => some t
    | n :: sizes => (dropBytes? n t.text).map fun text => { text, sizes }
  else some { text := cluster.reverse ++ t.text, sizes := byteCount cluster % 256 :: t.sizes }

def line? (cs : List Char) : Option (List Char) :=
  if cs.contains backspace then ((Text.clusters cs).foldlM enter? {}).map (·.text.reverse)
  else some cs

def chomped (cs : List Char) : List Char :=
  if cs.getLast? = some '\r' then cs.dropLast else cs

def read (ended : Bool) (bytes : List UInt8) : Except Ending String :=
  match Text.ofBytes? bytes with
  | none => .error .garbled
  | some text =>
    match line? (if ended then chomped text.toList else text.toList) with
    | none => .error .broken
    | some cs => .ok (String.ofList cs)

/-- Nothing is handed out after a line that cannot be read. -/
def script : List (Except Ending String) → Script
  | [] => { lines := [], ending := .ended }
  | .error ending :: _ => { lines := [], ending }
  | .ok line :: rest =>
    let s := script rest
    { s with lines := line :: s.lines }

def editor : Editor := fun bytes =>
  let segments := bytes.splitOn Text.newline
  let last := segments.getLastD []
  script <| segments.dropLast.map (read true) ++ if last = [] then [] else [read false last]

end Typed
end Statechart.Console
