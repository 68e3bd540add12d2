/-!
# Similar words

Two words are as similar as the share of their characters that match: the longest run that both
have in common, and in turn the matches on its left and on its right. Among longest runs the one
that starts first in the first word counts, and then first in the second.
-/

namespace OrgService.Text

def commonStart : List Char → List Char → Nat
  | a :: as, b :: bs => if a == b then commonStart as bs + 1 else 0
  | _, _ => 0

/-- A common run: where it starts in either word and how long it is. -/
structure CommonRun where
  first : Nat
  second : Nat
  length : Nat
  deriving DecidableEq, Repr

namespace CommonRun

/-- The longer of two runs, the earlier one if they are equally long. -/
def longer (r s : CommonRun) : CommonRun := if r.length < s.length then s else r

def longest (as bs : List Char) : CommonRun :=
  (List.range as.length).foldl
    (fun best i ↦ (List.range bs.length).foldl
      (fun best j ↦ best.longer ⟨i, j, commonStart (as.drop i) (bs.drop j)⟩) best)
    ⟨0, 0, 0⟩

end CommonRun

/-- The number of characters that match; `depth` bounds how often words are divided. -/
def matchingUpTo : (depth : Nat) → List Char → List Char → Nat
  | 0, _, _ => 0
  | depth + 1, as, bs =>
    let run := CommonRun.longest as bs
    if run.length = 0 then 0
    else run.length + matchingUpTo depth (as.take run.first) (bs.take run.second) +
      matchingUpTo depth (as.drop (run.first + run.length)) (bs.drop (run.second + run.length))

/-- The number of characters of two words that match. Every division leaves a shorter first word
on either side. -/
def matching (as bs : List Char) : Nat := matchingUpTo as.length as bs

/-- The similarity of two words: matching characters and characters in all, a fraction that is to
be doubled. -/
structure Similarity where
  hits : Nat
  total : Nat
  deriving DecidableEq, Repr

namespace Similarity

def of (a b : String) : Similarity := ⟨matching a.toList b.toList, a.length + b.length⟩

/-- At least three fifths of the characters match. -/
def isClose (s : Similarity) : Bool := 3 * s.total ≤ 10 * s.hits

def le (s t : Similarity) : Bool := s.hits * t.total ≤ t.hits * s.total

end Similarity

/-- Whether a candidate comes before another: the more similar one, and of equally similar ones
the later in the order of their characters. -/
def betterMatch (a b : Similarity × String) : Bool :=
  !a.1.le b.1 || (b.1.le a.1 && b.2 ≤ a.2)

/-- The candidates that are close to a word, at most three, the most similar first. -/
def closeMatches (word : String) (candidates : List String) : List String :=
  let scored := (candidates.map fun c ↦ (Similarity.of c word, c)).filter fun c ↦ c.1.isClose
  ((scored.mergeSort betterMatch).take 3).map Prod.snd

end OrgService.Text
