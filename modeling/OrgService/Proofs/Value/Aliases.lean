import OrgService.Query.Join

/-!
# Values behind aliases

What was read from a linked record stands behind an alias that tells where it came from, and it may
be read through a link again. Aliases do not count for what a value compares by; but a value behind
an alias is neither absent nor null, whatever it wraps.
-/

namespace OrgService.Value

/-- The value behind all aliases. -/
def bare : Value → Value
  | .aliased _ _ v => v.bare
  | v => v

/-- A value behind aliases, each of which names a type and an attribute, the outermost first. -/
def behind (v : Value) (aliases : List (String × String)) : Value :=
  aliases.foldr (fun a w ↦ .aliased a.1 a.2 w) v

variable {v : Value}

@[simp] theorem behind_nil (v : Value) : v.behind [] = v := rfl

@[simp] theorem behind_cons (v : Value) (a : String × String) (aliases : List (String × String)) :
    v.behind (a :: aliases) = .aliased a.1 a.2 (v.behind aliases) := rfl

@[simp] theorem comparable_bare (v : Value) : v.bare.comparable = v.comparable := by
  induction v with
  | aliased _ _ v ih => exact ih
  | _ => rfl

@[simp] theorem comparable_behind (v : Value) (aliases : List (String × String)) :
    (v.behind aliases).comparable = v.comparable := by
  induction aliases with
  | nil => rfl
  | cons a aliases ih => exact ih

theorem comparable_eq_null_iff : v.comparable = .null ↔ v.bare = .null := by
  induction v with
  | aliased _ _ v ih => exact ih
  | _ => simp [comparable, bare]

theorem isConcrete_of_bare (h : v.bare.isConcrete = true) : v.isConcrete = true := by
  cases v with
  | aliased _ _ v => rfl
  | _ => exact h

theorem isConcrete_behind (v : Value) (aliases : List (String × String)) :
    (v.behind aliases).isConcrete = (v.isConcrete || !aliases.isEmpty) := by
  cases aliases with
  | nil => simp
  | cons a aliases => simp [isConcrete]

theorem comparable_of_bare_eq_text {s : String} (h : v.bare = .text s) :
    v.comparable = .text (Text.caseFold s) := by
  rw [← comparable_bare, h, comparable]

end OrgService.Value

namespace OrgService

/-! ## Join keys -/

/-- A text that spells an identifier, as that identifier; any other value as it is. -/
def Comparable.asKey : Comparable → Comparable
  | .text s => ((Guid.parse? s).map .guid).getD (.text s)
  | c => c

namespace Value

variable {v : Value}

/-- Only an absent value and a null, behind aliases or not, have no join key. -/
theorem joinKey_eq (hv : v ≠ .absent) :
    v.joinKey = if v.comparable = .null then none else some v.comparable.asKey := by
  unfold joinKey
  split
  · exact absurd rfl hv
  · rfl
  · cases v.comparable <;> rfl

theorem joinKey_of_bare (h : v.bare.isConcrete = true) :
    v.joinKey = some v.comparable.asKey := by
  have habsent : v ≠ .absent := by
    rintro rfl
    contradiction
  have hnull : v.comparable ≠ .null := by
    intro hnull
    rw [comparable_eq_null_iff.mp hnull] at h
    contradiction
  rw [joinKey_eq habsent, if_neg hnull]

/-- Aliases do not count for what a value is joined by. -/
theorem joinKey_behind (hv : v ≠ .absent) (aliases : List (String × String)) :
    (v.behind aliases).joinKey = v.joinKey := by
  have hbehind : v.behind aliases ≠ .absent := by
    cases aliases with
    | nil => exact hv
    | cons a aliases => simp
  rw [joinKey_eq hv, joinKey_eq hbehind, comparable_behind]

end Value

end OrgService
