import OrgService.Proofs.Query.Formula
import OrgService.Proofs.Text.Expression

/-!
# Checked filters evaluate safely

What the check of a filter has established about the values of its conditions still holds when they
are used: after they have been unwrapped, folded and read as identifiers, an operator that needs a
value has one, an operator for texts has a text, and a pattern can be carried out as an expression.
So a checked filter has an answer on every record, unless values cannot be compared.
-/

namespace OrgService

namespace Condition

open Text (caseFold)

/-- The ways in which the test of a checked condition may fail: it tells of values that cannot be
compared, or breaks down over a clash of NaN. -/
inductive FailsSafely (r : Record) (c : Condition) : Fault → Prop
  | incomparable (left right : String) : FailsSafely r c
    (.query (.invalidCondition c.attr c.operator.text (.incomparable left right)))
  | clash (h : c.Clashes r) : FailsSafely r c (.breakdown .nanComparison)

/-- The values of a condition are fit for what its operator does with them. -/
structure IsUsable (c : Condition) : Prop where
  hasValue : c.operator.arity = .oneValue ∨ c.operator.arity = .oneText →
    ∀ actual, ∃ w, firstValue (c.expected actual) = .ok w
  hasText : c.operator.arity = .oneText →
    ∀ s, ∃ p, firstValue (c.expected (.text s)) = .ok (.text p)
  hasExpression : c.operator = .like ∨ c.operator = .notLike →
    ∀ v s, v.comparable = .text s → ∃ p items b,
      firstValue (c.expected v.comparable) = .ok (.text p) ∧
      Text.readItems? (Text.expression p.toList) = some items ∧ c.holdsOn v = .ok b ∧
      (b = true ↔ (Text.FullyMatches items s.toList ↔ c.operator = .like))

variable {c : Condition} {r : Record} {fault : Fault}

theorem lookup_of_isNameable {name : Json} (h : name.isNameable = true) (r : Record) :
    ∃ v, lookup r name = .ok v := by
  unfold lookup
  split
  · exact ⟨_, rfl⟩
  · exact ⟨.absent, if_pos h⟩

theorem mapError_breakdown_ne_query {α : Type} (x : Except Breakdown α) (f : QueryFault) :
    x.mapError Fault.breakdown ≠ .error (.query f) := by
  cases x <;> nofun

theorem exists_incomparable_of_compareWith {actual expected : Comparable} {f : QueryFault}
    (h : c.compareWith actual expected = .error (.query f)) :
    ∃ left right, f = .invalidCondition c.attr c.operator.text (.incomparable left right) := by
  unfold compareWith at h
  split at h
  · exact ⟨_, _, (Fault.query.inj (Except.error.inj h)).symm⟩
  · exact absurd h (mapError_breakdown_ne_query _ f)

theorem exists_incomparable_of_holdsOn {v : Value} {f : QueryFault}
    (h : c.holdsOn v = .error (.query f)) :
    ∃ left right, f = .invalidCondition c.attr c.operator.text (.incomparable left right) := by
  obtain ⟨attr, operator, values⟩ := c
  cases operator with
  | null | notNull => contradiction
  | greaterThan | greaterEqual | lessThan | lessEqual =>
      simp only [holdsOn] at h
      split at h
      · cases Except.error.inj h
      · exact exists_incomparable_of_compareWith h
  | _ => exact absurd h (mapError_breakdown_ne_query _ f)

theorem WellFormed.failsSafely (hc : c.WellFormed) (hname : c.attr.isNameable = true)
    (h : c.holds r = .error fault) : c.FailsSafely r fault := by
  obtain ⟨v, hv⟩ := lookup_of_isNameable hname r
  simp only [holds, hv] at h
  split at h
  · rename_i hconcrete
    rcases (holdsOn_clashesIff hc v).failsOnlyBy fault h with ⟨f, rfl⟩ | ⟨_, ⟨rfl, hclash⟩, rfl⟩
    · obtain ⟨left, right, rfl⟩ := exists_incomparable_of_holdsOn h
      exact .incomparable left right
    · have hpresent : r.present? c.attr = some v.comparable := by
        simp [Record.present?, hv, hconcrete]
      exact .clash ⟨v.comparable, hpresent, hclash⟩
  · contradiction

/-- A text stays one: only beside an identifier is it read as one. -/
theorem firstValue_expected_text {p : String} (hvalues : c.values = [.text p]) (s : String) :
    firstValue (c.expected (.text s)) = .ok (.text (caseFold p)) := by
  rw [expected, hvalues]
  rfl

theorem exists_values_of_oneValue (hc : c.WellFormed)
    (h : c.operator.arity = .oneValue ∨ c.operator.arity = .oneText) : ∃ v, c.values = [v] := by
  obtain ⟨attr, operator, values⟩ := c
  cases operator with
  | like | notLike | beginsWith | endsWith =>
      obtain ⟨t, ht⟩ := hc
      exact ⟨.text t, ht⟩
  | null | notNull | within | notWithin => simp [Operator.arity] at h
  | _ => exact hc

theorem exists_values_of_oneText (hc : c.WellFormed) (h : c.operator.arity = .oneText) :
    ∃ p, c.values = [.text p] := by
  obtain ⟨attr, operator, values⟩ := c
  cases operator <;> simp_all [WellFormed, Operator.arity]

/-- The test of a text for a pattern asks whether the expression of the pattern matches it. -/
theorem holdsOn_of_text {v : Value} {s p : String} (hv : v.comparable = .text s)
    (hvalues : c.values = [.text p]) (h : c.operator = .like ∨ c.operator = .notLike) :
    ∃ b, c.holdsOn v = .ok b ∧ (b = true ↔
      (Text.likePattern (caseFold p).toList s.toList = true ↔ c.operator = .like)) := by
  obtain ⟨attr, operator, values⟩ := c
  obtain rfl : values = [.text p] := hvalues
  rw [holdsOn, hv]
  rcases h with rfl | rfl
  · exact ⟨_, rfl, by simp⟩
  · exact ⟨!_, rfl, by simp⟩

theorem WellFormed.isUsable (hc : c.WellFormed) : c.IsUsable where
  hasValue h actual := by
    obtain ⟨v, hv⟩ := exists_values_of_oneValue hc h
    exact ⟨coerce actual v.comparable, by rw [expected, hv]; rfl⟩
  hasText h s := by
    obtain ⟨p, hp⟩ := exists_values_of_oneText hc h
    exact ⟨caseFold p, firstValue_expected_text hp s⟩
  hasExpression h v s hs := by
    have harity : c.operator.arity = .oneText := by rcases h with h | h <;> rw [h] <;> rfl
    obtain ⟨p, hp⟩ := exists_values_of_oneText hc harity
    obtain ⟨b, hb, hmatches⟩ := holdsOn_of_text hs hp h
    have hvalue : firstValue (c.expected v.comparable) = .ok (.text (caseFold p)) := by
      rw [hs]
      exact firstValue_expected_text hp s
    refine ⟨caseFold p, _, b, hvalue, Text.readItems?_expression _, hb, ?_⟩
    rw [hmatches, Text.likePattern_iff_fullyMatches]

end Condition

namespace Filter

variable {f : Filter}

theorem wellFormed_of_check (h : f.check = .ok ()) : f.WellFormed :=
  f.check_decides.ok_iff.mp (by rw [h]; rfl)

/-- A filter that passed the check, and whose attributes have names that can be looked up, has an
answer on every record, or one of its conditions fails safely. At every depth its operators find the
values that they need. -/
theorem evaluates_safely (hcheck : f.check = .ok ())
    (hnames : ∀ c ∈ f.allConditions, c.attr.isNameable = true) :
    (∀ r, (∃ b, f.holds r = .ok b) ∨
      ∃ c ∈ f.allConditions, ∃ fault, f.holds r = .error fault ∧ c.FailsSafely r fault) ∧
    ∀ c ∈ f.allConditions, c.IsUsable := by
  have hwell := wellFormed_of_check hcheck
  refine ⟨fun r ↦ ?_, fun c hc ↦ (hwell c hc).isUsable⟩
  cases hholds : f.holds r with
  | ok b => exact .inl ⟨b, rfl⟩
  | error fault =>
      obtain ⟨c, hc, hfault⟩ := exists_condition_of_holds_eq_error hholds
      have hsafe := (hwell c hc).failsSafely (hnames c hc) hfault
      exact .inr ⟨c, hc, fault, rfl, hsafe⟩

/-- A name that begins with an `a` and a point, and a size that is large. -/
def largeFilter : Filter :=
  ⟨.and, [⟨.str "name", .like, [.text "A.%"]⟩],
    [⟨.or, [⟨.str "size", .greaterThan, [.number (.integer 5)]⟩], []⟩]⟩

theorem evaluates_safely_largeFilter :
    largeFilter.check = .ok () ∧ (∀ c ∈ largeFilter.allConditions, c.attr.isNameable = true) ∧
    (∀ r, (∃ b, largeFilter.holds r = .ok b) ∨ ∃ c ∈ largeFilter.allConditions,
      ∃ fault, largeFilter.holds r = .error fault ∧ c.FailsSafely r fault) ∧
    ∀ c ∈ largeFilter.allConditions, c.IsUsable := by
  have hcheck : largeFilter.check = .ok () := rfl
  have hnames : ∀ c ∈ largeFilter.allConditions, c.attr.isNameable = true := by
    simp [largeFilter, allConditions, allConditionsEach, Json.isNameable]
  exact ⟨hcheck, hnames, evaluates_safely hcheck hnames⟩

/-- A condition on an attribute that is named by a list. -/
def listNamedFilter : Filter := ⟨.and, [⟨.arr [.str "x"], .null, []⟩], []⟩

def aboveOneFilter : Filter :=
  ⟨.and, [⟨.str "x", .greaterThan, [.number (.decimal (.finite false 1 0))]⟩], []⟩

/-- A list cannot be looked up, and a NaN that is no decimal breaks down beside a decimal as
well. -/
theorem not_evaluates_safely_listNamed :
    let r : Record := ⟨"task", none, .ofList [("x", .number (.double .nan))]⟩
    listNamedFilter.check = .ok () ∧
    ¬((∃ b, listNamedFilter.holds r = .ok b) ∨
      (∃ attr operator problem,
        listNamedFilter.holds r = .error (.query (.invalidCondition attr operator problem))) ∨
      listNamedFilter.holds r = .error (.breakdown .nanComparison)) ∧
    aboveOneFilter.check = .ok () ∧
    aboveOneFilter.holds r = .error (.breakdown .nanComparison) := by
  intro r
  have hlist : listNamedFilter.holds r = .error (.breakdown (.notNameable "list")) := rfl
  refine ⟨rfl, ?_, rfl, rfl⟩
  rw [hlist]
  rintro (⟨b, h⟩ | ⟨attr, operator, problem, h⟩ | h) <;> cases h

end Filter

end OrgService
