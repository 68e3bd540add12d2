/-!
# Notices

A notice is a line for the person at the terminal, led by a symbol that tells its kind. On a
terminal whose encoding lacks the symbol a mark in brackets stands for it.
-/

namespace OrgService

/-- The kinds of notices. -/
inductive Notice where
  | warning
  | success
  deriving DecidableEq, Repr

namespace Notice

def symbol : Notice → String
  | .warning => "\u26a0\ufe0f"
  | .success => "\u2705"

def plainMark : Notice → String
  | .warning => "[!]"
  | .success => "[OK]"

def bareName (encoding : String) : List Char :=
  (encoding.toList.filter Char.isAlphanum).map Char.toLower

def coversUnicode (encoding : String) : Bool :=
  let name := bareName encoding
  "utf".toList.isPrefixOf name || name == "u8".toList || name == "gb18030".toList ||
    name == "cp65001".toList

def text (n : Notice) (unicode : Bool) (message : String) : String :=
  (if unicode then n.symbol else n.plainMark) ++ "  " ++ message ++ "\n"

end Notice

end OrgService
