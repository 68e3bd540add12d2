import OrgService.Proofs.Text.Wildcard

/-!
# Patterns as regular expressions

A pattern can be carried out as a regular expression: a percent sign becomes a dot that is repeated,
an underscore a dot, and every other character stays, behind a backslash if expressions could give
it a meaning. What is written in this way can always be read as an expression, and the expression
matches the texts that the pattern does.
-/

namespace OrgService.Text

/-- The characters that are written behind a backslash. -/
def escapedChars : List Char := "()[]?*+-|^$\\.&~# \t\n\r\x0b\x0c\x7b\x7d".toList

def escape (c : Char) : List Char := if c ∈ escapedChars then ['\\', c] else [c]

/-- The expression that a pattern is written as. -/
def expression (pattern : List Char) : List Char :=
  pattern.flatMap fun c ↦ if c = '%' then ['.', '*'] else if c = '_' then ['.'] else escape c

/-- The characters that do not stand for themselves in an expression. -/
def syntaxChars : List Char := ".^$*+?\\|()[]\x7b\x7d".toList

/-- A part of an expression without groups, choices or classes. -/
inductive Item where
  | anyText
  | anyChar
  | literal (c : Char)
  deriving DecidableEq, Repr

/-- Reads an expression of dots, dots with a star and characters that stand for themselves. Behind a
backslash stands anything but a letter or a digit, which would make it a class, a reference or an
error. -/
def readItems? : List Char → Option (List Item)
  | [] => some []
  | '.' :: '*' :: rest => (readItems? rest).map (.anyText :: ·)
  | '.' :: rest => (readItems? rest).map (.anyChar :: ·)
  | '\\' :: c :: rest =>
    if c.isAlphanum then none else (readItems? rest).map (.literal c :: ·)
  | c :: rest => if c ∈ syntaxChars then none else (readItems? rest).map (.literal c :: ·)

/-- What a part of an expression takes off a text, line ends included. -/
inductive Item.Takes : Item → List Char → Prop
  | anyText (piece : List Char) : Takes .anyText piece
  | anyChar (c : Char) : Takes .anyChar [c]
  | literal (c : Char) : Takes (.literal c) [c]

/-- An expression matches a text as a whole. -/
def FullyMatches (items : List Item) (text : List Char) : Prop :=
  ∃ pieces : List (List Char), pieces.flatten = text ∧ List.Forall₂ Item.Takes items pieces

/-- What a character of a pattern becomes in the expression. -/
def itemOf (c : Char) : Item :=
  if c = '%' then .anyText else if c = '_' then .anyChar else .literal c

variable {c : Char} {ps text rest : List Char}

/-! ## Reading what was written -/

theorem readItems?_cons (hc : c ∉ syntaxChars) (rest : List Char) :
    readItems? (c :: rest) = (readItems? rest).map (.literal c :: ·) := by
  have hdot : c ≠ '.' := by
    rintro rfl
    exact hc (by decide)
  have hbackslash : c ≠ '\\' := by
    rintro rfl
    exact hc (by decide)
  rw [readItems?.eq_def]
  split <;> simp_all

theorem readItems?_escape (rest : List Char) :
    readItems? (escape c ++ rest) = (readItems? rest).map (.literal c :: ·) := by
  have hsigns : ∀ c ∈ escapedChars, c.isAlphanum = false :=
    forall_mem_of_all (by decide)
  have hmeaning : ∀ c ∈ syntaxChars, c ∈ escapedChars := forall_mem_of_all (by decide)
  unfold escape
  split
  · rename_i hescaped
    simp [readItems?, hsigns c hescaped]
  · rename_i hplain
    exact readItems?_cons (fun hc ↦ hplain (hmeaning c hc)) rest

/-- An expression never starts with a star, which would repeat the dot before it. -/
theorem head?_expression : (expression ps).head? ≠ some '*' := by
  cases ps with
  | nil => nofun
  | cons p ps =>
      rw [expression, List.flatMap_cons]
      split
      · simp
      · split
        · simp
        · unfold escape
          split
          · simp
          · rename_i hplain
            simp only [List.singleton_append, List.head?_cons, ne_eq, Option.some.injEq]
            rintro rfl
            exact hplain (by decide)

theorem readItems?_dot (h : rest.head? ≠ some '*') :
    readItems? ('.' :: rest) = (readItems? rest).map (.anyChar :: ·) := by
  rw [readItems?]
  rintro rest' rfl
  exact h rfl

/-- The expression of a pattern can be read, and has one part for each character. -/
theorem readItems?_expression (ps : List Char) :
    readItems? (expression ps) = some (ps.map itemOf) := by
  induction ps with
  | nil => rfl
  | cons p ps ih =>
      have hcons : expression (p :: ps) = (if p = '%' then ['.', '*'] else if p = '_' then ['.']
          else escape p) ++ expression ps := List.flatMap_cons
      rw [hcons, List.map_cons, itemOf]
      split
      · simp [readItems?, ih]
      · split
        · rw [List.singleton_append, readItems?_dot head?_expression, ih]
          rfl
        · rw [readItems?_escape, ih]
          rfl

/-! ## Matching -/

theorem takes_itemOf {piece : List Char} : (itemOf c).Takes piece ↔ StandsFor c piece := by
  unfold itemOf
  constructor
  · intro h
    split at h
    · rename_i hc
      exact hc ▸ .anyText piece
    · split at h
      · rename_i hc
        cases h with
        | anyChar d => exact hc ▸ .anyChar d
      · cases h with
        | literal => exact .itself ‹_› ‹_›
  · rintro (_ | d | ⟨hpercent, hunderscore⟩)
    · exact .anyText piece
    · exact .anyChar d
    · rw [if_neg hpercent, if_neg hunderscore]
      exact .literal c

/-- The expression of a pattern matches exactly the texts that the pattern does. -/
theorem likePattern_iff_fullyMatches :
    likePattern ps text = true ↔ FullyMatches (ps.map itemOf) text := by
  simp only [likePattern_iff_cuts, Cuts, FullyMatches, List.forall₂_map_left_iff, takes_itemOf]

end OrgService.Text
