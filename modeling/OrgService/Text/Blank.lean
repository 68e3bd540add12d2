/-!
# Blank characters

The characters that trimming removes and that separate the items of a list: Unicode white space
together with the four information separators of ASCII.
-/

namespace OrgService.Text

/-- White space, U+001C to U+001F included. -/
def isBlank (c : Char) : Bool :=
  let n := c.toNat
  (0x09 ≤ n && n ≤ 0x0D) || (0x1C ≤ n && n ≤ 0x20) || n == 0x85 || n == 0xA0 || n == 0x1680 ||
    (0x2000 ≤ n && n ≤ 0x200A) || n == 0x2028 || n == 0x2029 || n == 0x202F || n == 0x205F ||
    n == 0x3000

def trimBoth (p : Char → Bool) (cs : List Char) : List Char :=
  ((cs.dropWhile p).reverse.dropWhile p).reverse

def trimBlank (s : String) : String :=
  String.ofList (trimBoth isBlank s.toList)

end OrgService.Text
