import Statechart.Yaml.Token

/-! A YAML document as a value. -/
namespace Statechart.Yaml

inductive Node where
  | scalar (quoted : Bool) (text : String)
  | list (items : List Node)
  | record (entries : List (Node × Node))

namespace Node

def empty : Node := scalar false ""

def entryEnds : List Token := [.key, .value, .blockEnd]

def flowEnds (b : Bracket) : List Token := [.comma, .closing b]

def afterComma? (first : Bool) : List Token → Option (List Token)
  | ts@(t :: rest) => if first then some ts else if t = .comma then some rest else none
  | [] => none

mutual

/-- One value from the front of a row of tokens, and the tokens after it. A list in a record need
not be a block of its own if it is allowed to be compact. The number bounds the nesting. -/
def ofFront (compact : Bool) : Nat → List Token → Option (Node × List Token)
  | n + 1, t :: ts =>
    match t with
    | .scalar quoted text => some (scalar quoted text, ts)
    | .opening .list => flowList n #[] ts
    | .opening .record => flowRecord n #[] ts
    | .blockList => blockList n #[] ts
    | .blockRecord => blockRecord n #[] ts
    | .dash => if compact then compactList n #[] (t :: ts) else none
    | _ => none
  | _, _ => none

def before (ends : List Token) (compact : Bool) : Nat → List Token → Option (Node × List Token)
  | n + 1, ts => if ts.head?.any ends.contains then some (empty, ts) else ofFront compact n ts
  | 0, _ => none

def marked (ends : List Token) (compact : Bool) : Nat → List Token → Option (Node × List Token)
  | n + 1, .value :: ts => before ends compact n ts
  | _ + 1, ts => some (empty, ts)
  | 0, _ => none

def blockList : Nat → Array Node → List Token → Option (Node × List Token)
  | n + 1, items, .dash :: ts => do
    let (item, rest) ← before [.dash, .blockEnd] false n ts
    blockList n (items.push item) rest
  | _ + 1, items, .blockEnd :: ts => some (list items.toList, ts)
  | _, _, _ => none

def compactList : Nat → Array Node → List Token → Option (Node × List Token)
  | n + 1, items, .dash :: ts => do
    let (item, rest) ← before (.dash :: entryEnds) false n ts
    compactList n (items.push item) rest
  | _ + 1, items, ts => some (list items.toList, ts)
  | 0, _, _ => none

def blockRecord : Nat → Array (Node × Node) → List Token → Option (Node × List Token)
  | n + 1, entries, .key :: ts => do
    let (key, rest) ← before entryEnds true n ts
    let (value, rest) ← marked entryEnds true n rest
    blockRecord n (entries.push (key, value)) rest
  | _ + 1, entries, .blockEnd :: ts => some (record entries.toList, ts)
  | _, _, _ => none

/-- An item may be a key and its value, a record of one entry. A key mark without a key uses up the
token that stands in the key's place. -/
def flowList : Nat → Array Node → List Token → Option (Node × List Token)
  | _ + 1, items, .closing .list :: ts => some (list items.toList, ts)
  | n + 1, items, ts => do
    match ← afterComma? items.isEmpty ts with
    | .closing .list :: ts => some (list items.toList, ts)
    | .key :: ts =>
      let (key, rest) ←
        if ts.head?.any (.value :: flowEnds .list).contains then some (empty, ts.tail)
        else ofFront false n ts
      let (value, rest) ← marked (flowEnds .list) false n rest
      flowList n (items.push (record [(key, value)])) rest
    | ts =>
      let (item, rest) ← ofFront false n ts
      flowList n (items.push item) rest
  | 0, _, _ => none

def flowRecord : Nat → Array (Node × Node) → List Token → Option (Node × List Token)
  | _ + 1, entries, .closing .record :: ts => some (record entries.toList, ts)
  | n + 1, entries, ts => do
    match ← afterComma? entries.isEmpty ts with
    | .closing .record :: ts => some (record entries.toList, ts)
    | .key :: ts =>
      let (key, rest) ← before (.value :: flowEnds .record) false n ts
      let (value, rest) ← marked (flowEnds .record) false n rest
      flowRecord n (entries.push (key, value)) rest
    | ts =>
      let (key, rest) ← ofFront false n ts
      flowRecord n (entries.push (key, empty)) rest
  | 0, _, _ => none

end

/-- The value of a document, which may be marked at its beginning and at its end. Within four steps
of reading a token is used up. -/
def ofTokens? (tokens : List Token) : Option Node := do
  let (ends, body) : List Token × List Token := match tokens with
    | .documentStart :: ts => ([.documentStart, .documentEnd], ts)
    | ts => ([], ts)
  if body = [] then return empty
  let (node, rest) ← before ends false (4 * body.length + 4) body
  if rest.all (· == .documentEnd) then some node else none

def ofText? (text : String) : Option Node := tokens? text >>= ofTokens?

/-! Reading parts of a value. Each answers `none` if the value has not the form asked for. -/

def items? : Node → Option (List Node)
  | list items => some items
  | scalar false "" => some []
  | _ => none

def text? : Node → Option String
  | scalar _ text => some text
  | _ => none

def entries? : Node → Option (List (String × Node))
  | record entries => entries.mapM fun (key, value) => key.text?.map (·, value)
  | scalar false "" => some []
  | _ => none

def truth? : Node → Option Bool
  | scalar false text =>
    if ["true", "True", "TRUE"].contains text then some true
    else if ["false", "False", "FALSE"].contains text then some false
    else none
  | _ => none

def optionalText? : Node → Option (Option String)
  | scalar false text =>
    some (if ["", "~", "null", "Null", "NULL"].contains text then none else some text)
  | scalar true text => some (some text)
  | _ => none

/-- One entry of a record, read in a given form; an entry given twice has no form. -/
def field? {α : Type} (entries : List (String × Node)) (name : String) (read : Node → Option α)
    (default : Option α) : Option α :=
  match entries.filter (·.1 == name) with
  | [] => default
  | [(_, value)] => read value
  | _ => none

end Node
end Statechart.Yaml
