import Statechart.Text.CharClass

/-! A definition is text: statements that end with `;`, and comments that run from `#` to the end of
the line, where a `#` after a backslash stands for itself. -/
namespace Statechart.Definition

def uncomment (inComment : Bool) : List Char → List Char
  | [] => []
  | c :: cs =>
    if inComment then
      if c = '\n' then c :: uncomment false cs else uncomment true cs
    else if c = '#' then uncomment true cs
    else match c, cs with
      | '\\', '#' :: cs => '#' :: uncomment false cs
      | c, cs => c :: uncomment false cs

/-- Line breaks stay, also the one that ends a comment. -/
def withoutComments (source : String) : String := String.ofList (uncomment false source.toList)

def statements (source : String) : List String :=
  let parts := (uncomment false source.toList).splitOn ';'
  (parts.map (Text.trimChars Text.isBlank)).filterMap fun cs =>
    if cs = [] then none else some (String.ofList cs)

end Statechart.Definition
