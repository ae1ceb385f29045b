/-! JSON values and their text over several lines, indented by two spaces. -/
namespace Statechart.Console

inductive Json where
  | number (n : Nat)
  | text (s : String)
  | list (items : List Json)
  | record (fields : List (String × Json))

namespace Json

def hexDigit (n : Nat) : Char := (Nat.toDigits 16 n).headD '0'

def escapeChar (c : Char) : List Char :=
  match c with
  | '"' => ['\\', '"']
  | '\\' => ['\\', '\\']
  | '\x08' => ['\\', 'b']
  | '\t' => ['\\', 't']
  | '\n' => ['\\', 'n']
  | '\x0c' => ['\\', 'f']
  | '\r' => ['\\', 'r']
  | c =>
    if c.toNat < 0x20 then
      ['\\', 'u', '0', '0', hexDigit (c.toNat / 16), hexDigit (c.toNat % 16)]
    else [c]

def quote (s : String) : String := String.ofList ('"' :: s.toList.flatMap escapeChar ++ ['"'])

def bracket (opening closing indent : String) (parts : List String) : String :=
  if parts = [] then opening ++ closing
  else
    let lines := parts.map fun part => s!"{indent}  {part}"
    s!"{opening}\n" ++ ",\n".intercalate lines ++ s!"\n{indent}{closing}"

mutual

def pretty (indent : String) : Json → String
  | number n => toString n
  | text s => quote s
  | list items => bracket "[" "]" indent (prettyItems (indent ++ "  ") items)
  | record fields => bracket "\x7b" "\x7d" indent (prettyFields (indent ++ "  ") fields)

def prettyItems (indent : String) : List Json → List String
  | [] => []
  | v :: vs => pretty indent v :: prettyItems indent vs

def prettyFields (indent : String) : List (String × Json) → List String
  | [] => []
  | (name, v) :: fields => s!"{quote name}: {pretty indent v}" :: prettyFields indent fields

end

end Json
end Statechart.Console
