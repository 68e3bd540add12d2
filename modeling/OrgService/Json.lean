import OrgService.Number.Exact
import OrgService.Number.Shortest
import OrgService.Text.Quoted

/-!
# Documents

Seeds, queries and results are JSON documents. Integers and doubles are kept apart, and the
members of an object keep their order. Documents are equal up to the order of members; numbers
and truth values are equal if they denote the same number.
-/

namespace OrgService

/-- A JSON document. -/
inductive Json where
  | null
  | bool (b : Bool)
  | int (n : Int)
  | double (x : Double)
  | str (s : String)
  | arr (items : List Json)
  | obj (members : List (String × Json))
  deriving Repr, Inhabited

namespace Json

/-- The number a document stands for, if it is one. -/
def number? : Json → Option Number
  | .bool b => some (.boolean b)
  | .int n => some (.integer n)
  | .double x => some (.double x)
  | _ => none

def sameNumber (a b : Json) : Bool :=
  match a.number?, b.number? with
  | some m, some n => m.exact.compare? n.exact == some .eq
  | _, _ => false

mutual

def same : Json → Json → Bool
  | .null, .null => true
  | .str s, .str t => s == t
  | .arr xs, .arr ys => sameItems xs ys
  | .obj xs, .obj ys => xs.length == ys.length && sameMembers xs ys
  | a, b => sameNumber a b

def sameItems : List Json → List Json → Bool
  | [], [] => true
  | x :: xs, y :: ys => same x y && sameItems xs ys
  | _, _ => false

def sameMembers : List (String × Json) → List (String × Json) → Bool
  | [], _ => true
  | (k, x) :: xs, ys =>
    (match ys.lookup k with
      | some y => same x y
      | none => false) && sameMembers xs ys

end

/-- Whether a document is the number that equals nothing. -/
def isNaN : Json → Bool
  | .double .nan => true
  | _ => false

def kind : Json → String
  | .null => "NoneType"
  | .bool _ => "bool"
  | .int _ => "int"
  | .double _ => "float"
  | .str _ => "str"
  | .arr _ => "list"
  | .obj _ => "dict"

/-- Texts and numbers can serve as names; lists and objects cannot. -/
def isNameable : Json → Bool
  | .arr _ => false
  | .obj _ => false
  | _ => true

mutual

def shown : Json → String
  | .null => "None"
  | .bool b => if b then "True" else "False"
  | .int n => toString n
  | .double x => x.render Double.messageStyle
  | .str s => Text.quoted s
  | .arr xs => "[" ++ ", ".intercalate (shownItems xs) ++ "]"
  | .obj xs => "\x7b" ++ ", ".intercalate (shownMembers xs) ++ "\x7d"

def shownItems : List Json → List String
  | [] => []
  | x :: xs => shown x :: shownItems xs

def shownMembers : List (String × Json) → List String
  | [] => []
  | (k, x) :: xs => (Text.quoted k ++ ": " ++ shown x) :: shownMembers xs

end

/-- A text bare, every other document as messages show it. -/
def plain : Json → String
  | .str s => s
  | x => x.shown

/-- Whether a document counts as given: null, false, zero and everything empty do not. -/
def isGiven : Json → Bool
  | .null => false
  | .bool b => b
  | .int n => n != 0
  | .double (.finite _ significand _) => significand != 0
  | .double _ => true
  | .str s => s != ""
  | .arr xs => !xs.isEmpty
  | .obj xs => !xs.isEmpty

def member? (name : String) : Json → Option Json
  | .obj xs => xs.lookup name
  | _ => none

end Json

end OrgService
