/-!
# Wildcard patterns

In a pattern a percent sign stands for any text and an underscore for any single character; every
other character stands for itself.
-/

namespace OrgService.Text

/-- All that can be left of a text when a piece is cut off in front, longest first. -/
def suffixes : List Char → List (List Char)
  | [] => [[]]
  | c :: cs => (c :: cs) :: suffixes cs

/-- Whether a text can be cut into pieces, one for each character of a pattern. -/
def likePattern : List Char → List Char → Bool
  | [], cs => cs.isEmpty
  | p :: ps, cs =>
    if p = '%' then (suffixes cs).any (likePattern ps)
    else match cs with
      | [] => false
      | c :: rest => (p = '_' || p = c) && likePattern ps rest

end OrgService.Text
