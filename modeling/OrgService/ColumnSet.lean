import OrgService.Text.Quoted

/-!
# Column sets

A column set names the attributes that a caller wants back: an explicit list without repetitions,
or all of them. The order in which names first came is kept for output and does not count for
equality.
-/

namespace OrgService

/-- The elements of a list in the order in which they first occur. -/
def firstOccurrences {α : Type} [DecidableEq α] : List α → List α
  | [] => []
  | x :: xs => x :: (firstOccurrences xs).filter (· ≠ x)

theorem mem_firstOccurrences {α : Type} [DecidableEq α] {x : α} {xs : List α} :
    x ∈ firstOccurrences xs ↔ x ∈ xs := by
  induction xs with
  | nil => simp [firstOccurrences]
  | cons y ys ih =>
    by_cases h : x = y
    · simp [firstOccurrences, h]
    · simp [firstOccurrences, ih, h]

theorem nodup_firstOccurrences {α : Type} [DecidableEq α] (xs : List α) :
    (firstOccurrences xs).Nodup := by
  induction xs with
  | nil => simp [firstOccurrences]
  | cons y ys ih =>
    simp only [firstOccurrences, List.nodup_cons]
    exact ⟨by simp, ih.sublist List.filter_sublist⟩

/-- The attributes that a caller wants back. -/
structure ColumnSet where
  names : List String
  all : Bool
  nodup : names.Nodup
  deriving Repr

namespace ColumnSet

def ofList (names : List String) (all : Bool) : ColumnSet :=
  ⟨firstOccurrences names, all, nodup_firstOccurrences names⟩

def none : ColumnSet := ofList [] false

def every : ColumnSet := ofList [] true

instance : Inhabited ColumnSet := ⟨none⟩

/-- Requests more names; names already requested are ignored. -/
def add (c : ColumnSet) (names : List String) : ColumnSet :=
  ofList (c.names ++ names) c.all

def contains (c : ColumnSet) (name : String) : Bool := c.all || c.names.contains name

/-- What two equal column sets have in common: the flag and the names in alphabetical order. -/
def key (c : ColumnSet) : Bool × List String := (c.all, c.names.mergeSort (· ≤ ·))

/-- Column sets are equal if they have the same flag and the same names in any order. -/
def equal (c d : ColumnSet) : Bool :=
  c.all == d.all && c.names.all d.names.contains && d.names.all c.names.contains

def shown (c : ColumnSet) : String :=
  if c.all then "ColumnSet(all_columns=True)"
  else "ColumnSet(" ++ ", ".intercalate (c.names.map Text.quoted) ++ ")"

end ColumnSet

end OrgService
