import OrgService.Query.Join

/-!
# Ordering rows

Rows are sorted by one key after the other, the last one first, and every sort is stable. Rows
without a value come before all others in ascending order. Values of different ordering kinds
cannot be sorted. A NaN has no place in any order: with one among the values, the outcome is that
of an insertion sort whose comparisons are made one by one.
-/

namespace OrgService

/-- The families of values that have an order. -/
inductive OrderingKind where
  | number
  | text
  | guid
  | date
  | naiveTimestamp
  | awareTimestamp
  | null
  | absent
  deriving DecidableEq, Repr

namespace Comparable

def orderingKind : Comparable → OrderingKind
  | .number _ => .number
  | .text _ => .text
  | .guid _ => .guid
  | .date _ => .date
  | .timestamp t => if t.isAware then .awareTimestamp else .naiveTimestamp
  | .null => .null
  | .absent => .absent

/-- The order of two values of one kind without NaN; all else counts as equal. -/
def order (a b : Comparable) : Ordering :=
  match a.compare? b with
  | some (.ok (some o)) => o
  | _ => .eq

end Comparable

/-- What a row is sorted by: the value of an attribute, if it has one, and the identity of the
record it was read from. -/
structure SortKey where
  value : Option Comparable
  record : String × Option Guid
  deriving DecidableEq, Repr

namespace SortKey

/-- Missing values first, then by value. -/
def order (a b : SortKey) : Ordering :=
  match a.value, b.value with
  | none, none => .eq
  | none, some _ => .lt
  | some _, none => .gt
  | some v, some w => v.order w

/-- Why two keys have no order. -/
inductive Failure where
  | incomparable
  | breakdown (cause : Breakdown)
  deriving Repr

/-- Whether one value comes before another, both of them present. Values read from one record are
the same and need no comparison. -/
def valueLess (sameRecord : Bool) (v w : Comparable) : Except Failure Bool :=
  if sameRecord then .ok false
  else match v.equal w with
    | .error cause => .error (.breakdown cause)
    | .ok true => .ok false
    | .ok false =>
      match v.compare? w with
      | none => .error .incomparable
      | some (.error cause) => .error (.breakdown cause)
      | some (.ok o) => .ok (o == some .lt)

/-- Whether one key comes before another, as a single comparison finds out. -/
def less (a b : SortKey) : Except Failure Bool :=
  match a.value, b.value with
  | none, none => .ok false
  | none, some _ => .ok true
  | some _, none => .ok false
  | some v, some w => valueLess (a.record == b.record) v w

end SortKey

/-! ## Sorting with comparisons that can fail -/

namespace InsertionSort

variable {α ε : Type}

/-- Splits off the longest run in front that ascends, or descends strictly. `taken` holds the
run, last element first. -/
def splitRun (less : α → α → Except ε Bool) (descending : Bool) (last : α) (taken : List α) :
    List α → Except ε (List α × List α)
  | [] => .ok (taken, [])
  | x :: xs => do
    if (← less x last) == descending then splitRun less descending x (x :: taken) xs
    else .ok (taken, x :: xs)

/-- The place of an element in a sorted list, found by halving the range from `low` to `high`. -/
def place (less : α → α → Except ε Bool) (sorted : Array α) (x : α) (low high : Nat) :
    Except ε Nat :=
  if _h : low < high then
    let middle := low + (high - low) / 2
    match sorted[middle]? with
    | none => .ok low
    | some y =>
      match less x y with
      | .error e => .error e
      | .ok true => place less sorted x low middle
      | .ok false => place less sorted x (middle + 1) high
  else .ok low
  termination_by high - low

def insertAll (less : α → α → Except ε Bool) (sorted : List α) : List α → Except ε (List α)
  | [] => .ok sorted
  | x :: xs => do
    let i ← place less sorted.toArray x 0 sorted.length
    insertAll less (sorted.take i ++ x :: sorted.drop i) xs

/-- Sorts a list: a first run is taken as it is, turned round if it descends. -/
def sort (less : α → α → Except ε Bool) : List α → Except ε (List α)
  | x :: y :: rest => do
    let descending ← less y x
    let (run, rest) ← splitRun less descending y [y, x] rest
    insertAll less (if descending then run else run.reverse) rest
  | xs => .ok xs

end InsertionSort

namespace JoinedRow

def sortKey (attr : Json) (row : JoinedRow) : SortKey :=
  let value := match Condition.lookup row.base attr with
    | .ok v => if v.isConcrete then some v.comparable else none
    | .error _ => none
  ⟨value, (row.base.logicalName, row.base.id)⟩

def uniform : List Comparable → Bool
  | [] => true
  | v :: vs => vs.all (·.orderingKind == v.orderingKind)

def sortCarefully (order : Order) (rows : List JoinedRow) : Except Fault (List JoinedRow) :=
  let less (a b : JoinedRow) := (a.sortKey order.attr).less (b.sortKey order.attr)
  let sorted := match order.direction with
    | .ascending => InsertionSort.sort less rows
    | .descending => (InsertionSort.sort less rows.reverse).map List.reverse
  sorted.mapError fun
    | .incomparable => .query (.incomparableOrder order.attr)
    | .breakdown cause => .breakdown cause

def mayPrecede (order : Order) (a b : JoinedRow) : Bool :=
  match order.direction with
  | .ascending => (a.sortKey order.attr).order (b.sortKey order.attr) != .gt
  | .descending => (b.sortKey order.attr).order (a.sortKey order.attr) != .gt

def sortBy (order : Order) (rows : List JoinedRow) : Except Fault (List JoinedRow) :=
  let values := rows.filterMap fun r ↦ (r.sortKey order.attr).value
  if values.any Comparable.isNaN then sortCarefully order rows
  else if uniform values then .ok (rows.mergeSort (mayPrecede order))
  else .error (.query (.incomparableOrder order.attr))

/-- Sorts by a list of orders, the first of which counts most. -/
def sortAll (orders : List Order) (rows : List JoinedRow) : Except Fault (List JoinedRow) :=
  orders.reverse.foldlM (fun rows order ↦ sortBy order rows) rows

end JoinedRow

end OrgService
