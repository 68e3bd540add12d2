/-!
# Lines

However a file ends its lines, they are read as ending with a line feed.
-/

namespace OrgService.Text

/-- Replaces a carriage return, with a line feed after it or not, by a line feed. -/
def unifyBreaks : List Char → List Char
  | [] => []
  | '\r' :: '\n' :: cs => '\n' :: unifyBreaks cs
  | '\r' :: cs => '\n' :: unifyBreaks cs
  | c :: cs => c :: unifyBreaks cs

/-- The lines of a text; `line` holds the current one in reverse. A line feed at the end opens no
new line. -/
def splitLines (line : List Char) : List Char → List String
  | [] => if line.isEmpty then [] else [String.ofList line.reverse]
  | c :: cs =>
    if c == '\n' then String.ofList line.reverse :: splitLines [] cs
    else splitLines (c :: line) cs

def lines (s : String) : List String := splitLines [] (unifyBreaks s.toList)

end OrgService.Text
