import OrgService.ColumnSet
import OrgService.Value

/-!
# Queries

A query names a base entity type, the columns to return, criteria, links to other entity types,
an ordering and an optional limit. Links and criteria are trees. Names of entity types and
attributes and aliases are documents, since a query may be read from one; only texts name
anything.
-/

namespace OrgService

/-- What becomes of rows without a linked record: an inner join drops them. -/
inductive JoinKind where
  | inner
  | outer
  deriving DecidableEq, Repr

/-- How the parts of a filter combine. -/
inductive Connective where
  | and
  | or
  deriving DecidableEq, Repr

/-- The test that a condition makes. -/
inductive Operator where
  | equal
  | notEqual
  | null
  | notNull
  | within
  | notWithin
  | greaterThan
  | greaterEqual
  | lessThan
  | lessEqual
  | like
  | notLike
  | beginsWith
  | endsWith
  deriving DecidableEq, Repr

inductive Direction where
  | ascending
  | descending
  deriving DecidableEq, Repr

/-- A test of one attribute. -/
structure Condition where
  attr : Json
  operator : Operator
  values : List Value
  deriving Repr

/-- Conditions and nested filters under one connective. -/
structure Filter where
  connective : Connective
  conditions : List Condition
  filters : List Filter
  deriving Repr

namespace Filter

def empty : Filter := ⟨.and, [], []⟩

instance : Inhabited Filter := ⟨empty⟩

mutual

/-- Whether a filter has no condition at any depth. -/
def isEmpty : Filter → Bool
  | ⟨_, conditions, filters⟩ => conditions.isEmpty && allEmpty filters

def allEmpty : List Filter → Bool
  | [] => true
  | f :: fs => f.isEmpty && allEmpty fs

end

def addCondition (f : Filter) (c : Condition) : Filter :=
  { f with conditions := f.conditions ++ [c] }

def addFilter (f g : Filter) : Filter := { f with filters := f.filters ++ [g] }

end Filter

/-- A join from a record already in the row to the records of another entity type, with joins
that start from there. -/
structure Link where
  fromEntity : Json
  toEntity : Json
  fromAttr : Json
  toAttr : Json
  join : JoinKind
  aliasName : Json
  columns : ColumnSet
  criteria : Filter
  links : List Link
  deriving Repr

namespace Link

/-- A plain link with no alias, columns, criteria or further links. -/
def simple (fromEntity toEntity fromAttr toAttr : Json) (join : JoinKind) : Link :=
  ⟨fromEntity, toEntity, fromAttr, toAttr, join, .null, ColumnSet.none, Filter.empty, []⟩

instance : Inhabited Link := ⟨simple .null .null .null .null .inner⟩

end Link

/-- A sort key on an attribute of the base record. -/
structure Order where
  attr : Json
  direction : Direction
  deriving Repr

/-- A query over one base entity type. -/
structure Query where
  entityName : Json
  columns : ColumnSet
  criteria : Filter
  links : List Link
  orders : List Order
  topCount : Option Int
  deriving Repr

namespace Operator

def all : List Operator :=
  [.equal, .notEqual, .null, .notNull, .within, .notWithin, .greaterThan, .greaterEqual,
    .lessThan, .lessEqual, .like, .notLike, .beginsWith, .endsWith]

def text : Operator → String
  | .equal => "eq"
  | .notEqual => "ne"
  | .null => "null"
  | .notNull => "not-null"
  | .within => "in"
  | .notWithin => "not-in"
  | .greaterThan => "gt"
  | .greaterEqual => "ge"
  | .lessThan => "lt"
  | .lessEqual => "le"
  | .like => "like"
  | .notLike => "not-like"
  | .beginsWith => "begins-with"
  | .endsWith => "ends-with"

end Operator

namespace JoinKind

def all : List JoinKind := [.inner, .outer]

def text : JoinKind → String
  | .inner => "inner"
  | .outer => "outer"

end JoinKind

namespace Connective

def all : List Connective := [.and, .or]

def text : Connective → String
  | .and => "and"
  | .or => "or"

end Connective

namespace Direction

def all : List Direction := [.ascending, .descending]

def text : Direction → String
  | .ascending => "asc"
  | .descending => "desc"

end Direction

end OrgService
