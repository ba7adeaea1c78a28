/-!
# Template literals

Text of an element is written as a template literal between braces. A backslash, a backtick and a
line feed are escaped, and so is a dollar that would open a substitution.
-/

namespace Viewsmith.Text.TemplateLiteral

/-- Escape a text. -/
def encode : List Char → List Char
  | [] => []
  | c :: cs =>
    if c = '\\' then '\\' :: '\\' :: encode cs
    else if c = '`' then '\\' :: '`' :: encode cs
    else if c = '\n' then '\\' :: 'n' :: encode cs
    else if c = '$' && cs.head? = some '{' then '\\' :: '$' :: encode cs
    else c :: encode cs

/-- The literal of a text, in braces. -/
def render (text : String) : String :=
  String.ofList ('{' :: '`' :: (encode text.toList ++ ['`', '}']))

end Viewsmith.Text.TemplateLiteral
