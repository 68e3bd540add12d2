import OrgService.Proofs.Query.Operators
import OrgService.Proofs.Text.Expression
import OrgService.Proofs.Value.Aliases

/-!
# Tests of texts

On an attribute that holds a text every test of texts has an answer. A pattern with wildcards asks
whether the text can be cut into the pieces that its characters stand for, all of it after case
folding, or in other words whether the expression that is written for the pattern matches the text.
Tests for the start or the end of a text and for equality come to patterns as well.
-/

namespace OrgService.Condition

open Text (caseFold)

variable {r : Record} {name t p : String}

section

variable (ht : (r.lookup name).bare = .text t)

include ht

theorem isConcrete_of_text : (r.lookup name).isConcrete = true :=
  Value.isConcrete_of_bare (by rw [ht]; rfl)

theorem test_of_text {op : Operator} (hop : op.arity = .oneText) (p : String) :
    test r name op [.text p] =
      (textTest op (.text (caseFold t)) [.text (caseFold p)]).mapError .breakdown := by
  rw [test_of_isConcrete (isConcrete_of_text ht), holdsOn, Value.comparable_of_bare_eq_text ht]
  cases op with
  | like | notLike | beginsWith | endsWith => rfl
  | _ => contradiction

theorem test_equal_of_text (p : String) :
    test r name .equal [.text p] = .ok (decide (caseFold t = caseFold p)) := by
  rw [test_of_isConcrete (isConcrete_of_text ht), holdsOn, Value.comparable_of_bare_eq_text ht]
  refine congrArg Except.ok (Bool.eq_iff_iff.mpr ?_)
  simp [Value.comparable, coerce]

theorem test_like_of_text (p : String) :
    test r name .like [.text p] =
      .ok (Text.likePattern (caseFold p).toList (caseFold t).toList) :=
  test_of_text ht rfl p

/-- On a text, a condition is a pattern if it holds where the text can be cut by the pattern. -/
theorem eq_test_like_of_text {p' : String} {b : Bool}
    (h : b = true ↔ Text.Cuts (caseFold p').toList (caseFold t).toList) :
    .ok b = test r name .like [.text p'] := by
  rw [test_like_of_text ht]
  refine congrArg Except.ok (Bool.eq_iff_iff.mpr ?_)
  rw [h, Text.likePattern_iff_cuts]

theorem test_beginsWith_of_text (hp : Text.IsPlain p.toList) :
    test r name .beginsWith [.text p] = test r name .like [.text (p ++ "%")] := by
  rw [test_of_text ht rfl]
  apply eq_test_like_of_text ht
  have hpattern : (caseFold (p ++ "%")).toList = (caseFold p).toList ++ ['%'] := by
    rw [Text.caseFold_append, String.toList_append]
    rfl
  rw [if_neg Bool.false_ne_true, List.isPrefixOf_iff_prefix, hpattern,
    hp.caseFold.cuts_append_percent_iff]

theorem test_endsWith_of_text (hp : Text.IsPlain p.toList) :
    test r name .endsWith [.text p] = test r name .like [.text ("%" ++ p)] := by
  rw [test_of_text ht rfl]
  apply eq_test_like_of_text ht
  have hpattern : (caseFold ("%" ++ p)).toList = '%' :: (caseFold p).toList := by
    rw [Text.caseFold_append, String.toList_append]
    rfl
  rw [if_pos rfl, List.isSuffixOf_iff_suffix, hpattern, hp.caseFold.cuts_percent_cons_iff]

theorem test_equal_eq_like_of_text (hp : Text.IsPlain p.toList) :
    test r name .equal [.text p] = test r name .like [.text p] := by
  rw [test_equal_of_text ht]
  apply eq_test_like_of_text ht
  rw [decide_eq_true_iff, hp.caseFold.cuts_iff, String.toList_inj]

/-- A text is like a pattern if and only if it can be cut into the pieces that the characters of
the pattern stand for, which is when the expression of the pattern matches it; the tests for its
start, its end and the whole of it are the patterns with a percent sign behind, before or not at
all. -/
theorem like_iff_cuts :
    (∀ p, ∃ b items, test r name .like [.text p] = .ok b ∧
      test r name .notLike [.text p] = .ok (!b) ∧
      (b = true ↔ Text.Cuts (caseFold p).toList (caseFold t).toList) ∧
      Text.readItems? (Text.expression (caseFold p).toList) = some items ∧
      (b = true ↔ Text.FullyMatches items (caseFold t).toList)) ∧
    ∀ p : String, '%' ∉ p.toList → '_' ∉ p.toList →
      test r name .beginsWith [.text p] = test r name .like [.text (p ++ "%")] ∧
      test r name .endsWith [.text p] = test r name .like [.text ("%" ++ p)] ∧
      test r name .equal [.text p] = test r name .like [.text p] := by
  constructor
  · intro p
    exact ⟨_, _, test_like_of_text ht p, test_of_text ht rfl p, Text.likePattern_iff_cuts,
      Text.readItems?_expression _, Text.likePattern_iff_fullyMatches⟩
  · intro p hpercent hunderscore
    have hp : Text.IsPlain p.toList := ⟨hpercent, hunderscore⟩
    exact ⟨test_beginsWith_of_text ht hp, test_endsWith_of_text ht hp,
      test_equal_eq_like_of_text ht hp⟩

end

/-- A text over two lines with a point and a letter that folds to two, behind an alias. -/
theorem like_iff_cuts_example :
    let street : Record :=
      ⟨"street", none, .ofList [("name", .aliased "place" "name" (.text "A.\nẞ"))]⟩
    (street.lookup "name").bare = .text "A.\nẞ" ∧
      test street "name" .like [.text "a.%S_"] = .ok true ∧
      Text.Cuts (caseFold "a.%S_").toList (caseFold "A.\nẞ").toList ∧
      Text.expression (caseFold "a.%S_").toList = "a\\..*s.".toList ∧
      Text.FullyMatches [.literal 'a', .literal '.', .anyText, .literal 's', .anyChar]
        (caseFold "A.\nẞ").toList ∧
      test street "name" .like [.text "a_.%"] = .ok false ∧
      test street "name" .endsWith [.text "ß"] = test street "name" .like [.text "%ß"] := by
  intro street
  have ht : (street.lookup "name").bare = .text "A.\nẞ" := rfl
  have hmatches : test street "name" .like [.text "a.%S_"] = .ok true := by decide +kernel
  have hdiffers : test street "name" .like [.text "a_.%"] = .ok false := by decide +kernel
  obtain ⟨hlike, hplain⟩ := like_iff_cuts ht
  obtain ⟨b, items, hb, -, hcuts, hread, hfull⟩ := hlike "a.%S_"
  obtain rfl := Except.ok.inj (hmatches.symm.trans hb)
  have hwritten : Text.expression (caseFold "a.%S_").toList = "a\\..*s.".toList := by
    decide +kernel
  have hitems : Text.readItems? "a\\..*s.".toList =
      some [.literal 'a', .literal '.', .anyText, .literal 's', .anyChar] := rfl
  rw [hwritten, hitems] at hread
  obtain rfl := Option.some.inj hread
  exact ⟨ht, hmatches, hcuts.mp rfl, hwritten, hfull.mp rfl, hdiffers,
    (hplain "ß" (by simp) (by simp)).2.1⟩

end OrgService.Condition
