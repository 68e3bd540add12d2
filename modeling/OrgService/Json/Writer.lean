import OrgService.Json

/-!
# Writing documents

Documents are written in ASCII: every other character is escaped as its UTF-16 units.
-/

namespace OrgService.Json

def escapeUnit (n : Nat) : List Char := '\\' :: 'u' :: Text.hexDigits 4 n

def writeChar (c : Char) : List Char :=
  if c == '"' then ['\\', '"']
  else if c == '\\' then ['\\', '\\']
  else if c == '\n' then ['\\', 'n']
  else if c == '\r' then ['\\', 'r']
  else if c == '\t' then ['\\', 't']
  else if c == '\x08' then ['\\', 'b']
  else if c == '\x0c' then ['\\', 'f']
  else if 0x20 ≤ c.toNat && c.toNat < 0x7F then [c]
  else if c.toNat < 0x10000 then escapeUnit c.toNat
  else
    let n := c.toNat - 0x10000
    escapeUnit (0xD800 + n / 0x400) ++ escapeUnit (0xDC00 + n % 0x400)

def writeText (s : String) : String :=
  String.ofList ('"' :: s.toList.flatMap writeChar ++ ['"'])

mutual

def compact : Json → String
  | .null => "null"
  | .bool b => if b then "true" else "false"
  | .int n => toString n
  | .double x => x.render Double.documentStyle
  | .str s => writeText s
  | .arr xs => "[" ++ ", ".intercalate (compactItems xs) ++ "]"
  | .obj xs => "\x7b" ++ ", ".intercalate (compactMembers xs) ++ "\x7d"

def compactItems : List Json → List String
  | [] => []
  | x :: xs => compact x :: compactItems xs

def compactMembers : List (String × Json) → List String
  | [] => []
  | (k, x) :: xs => (writeText k ++ ": " ++ compact x) :: compactMembers xs

end

def lineBreak (level : Nat) : String :=
  String.ofList ('\n' :: List.replicate (2 * level) ' ')

def bracketed (level : Nat) (opening closing : String) (parts : List String) : String :=
  if parts.isEmpty then opening ++ closing
  else opening ++ lineBreak (level + 1) ++ ("," ++ lineBreak (level + 1)).intercalate parts ++
    lineBreak level ++ closing

mutual

/-- A document with one item or member a line, two blanks of indentation a level. -/
def pretty (level : Nat) : Json → String
  | .arr xs => bracketed level "[" "]" (prettyItems (level + 1) xs)
  | .obj xs => bracketed level "\x7b" "\x7d" (prettyMembers (level + 1) xs)
  | x => compact x

def prettyItems (level : Nat) : List Json → List String
  | [] => []
  | x :: xs => pretty level x :: prettyItems level xs

def prettyMembers (level : Nat) : List (String × Json) → List String
  | [] => []
  | (k, x) :: xs => (writeText k ++ ": " ++ pretty level x) :: prettyMembers level xs

end

end OrgService.Json
