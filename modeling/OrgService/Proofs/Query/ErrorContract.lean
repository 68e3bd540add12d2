import OrgService.Proofs.Query.JoinFailure
import OrgService.Proofs.Query.OrderFailure

/-!
# The error contract of queries

A query whose names are texts has an answer or a fault of queries, whatever kinds of values meet
in its conditions, joins and orders. The one exception is NaN: where a clash of NaN is met the
query breaks down.
-/

namespace OrgService.Query

/-- What a query may meet that has no answer and no fault of its own: a test or a source of a link
with an unusable NaN, or two base records that no order of the query can compare. -/
inductive Clashes (q : Query) (s : Snapshot) : Breakdown → Prop
  | test {cause : Breakdown} (h : q.TestClashes s cause) : Clashes q s cause
  | source (h : q.SourceClash s) : Clashes q s .nanKey
  | order {o : Order} {r r' : Record} (ho : o ∈ q.orders) (hr : q.Finds s r) (hr' : q.Finds s r')
    (h : r.OrderClash o.attr r') : Clashes q s .nanComparison

variable {q : Query} {s : Snapshot}

theorem sortAll_failsOnlyBy_clashes {rows : List JoinedRow}
    (hrows : ∀ row ∈ rows, q.Finds s row.base) :
    FailsOnlyBy (q.Clashes s) (JoinedRow.sortAll q.orders rows) := by
  refine JoinedRow.sortAll_failsOnlyBy.mono ?_
  rintro cause ⟨rfl, o, ho, a, ha, b, hb, hclash⟩
  exact .order ho (hrows a ha) (hrows b hb) hclash

theorem orderedRows_failsOnlyBy (hq : q.NamedByTexts) (hvalid : q.IsValid s) :
    FailsOnlyBy (q.Clashes s) (q.orderedRows s q.plans).result := by
  simp only [orderedRows, Traced.result_bind, Traced.result_silent]
  refine FailsOnlyBy.bind ?_ fun rows hrows ↦ ?_
  · refine (rows_failsOnlyBy hq hvalid).mono ?_
    rintro cause (htest | ⟨rfl, hsource⟩)
    · exact .test htest
    · exact .source hsource
  · exact (sortAll_failsOnlyBy_clashes (finds_of_mem_rows hrows)).bind fun _ _ ↦ .ok _

theorem validate_decides_of_planLinks (hq : q.NamedByTexts) {plans : List PlannedLink}
    (hplans : q.planLinks = .ok plans) :
    plans = q.plans ∧ Decides (q.validate s plans) (q.IsValid s) := by
  obtain ⟨rfl, hdistinct⟩ := planLinks_eq_ok_iff.mp hplans
  exact ⟨rfl, validate_decides hq ((aliasesDistinct_iff_nodup hq).mp hdistinct)⟩

/-- A query has an answer, a fault of queries, or it breaks down over a clash of NaN. If it has an
answer, then none of its tests clashes. -/
theorem evaluate_failsOnlyBy_clashes (hq : q.NamedByTexts) (s : Snapshot) (policy : NullPolicy) :
    FailsOnlyBy (q.Clashes s) (q.evaluate s policy).result ∧
      ∀ c, (q.evaluate s policy).result = .ok c → ∀ cause, ¬q.TestClashes s cause := by
  simp only [evaluate, Traced.result_bind, Traced.result_silent]
  constructor
  · refine (FailsOnlyBy.mapError_query _).bind fun plans hplans ↦ ?_
    obtain ⟨rfl, hvalidate⟩ := validate_decides_of_planLinks (s := s) hq
      (mapError_eq_ok_iff.mp hplans)
    refine hvalidate.failsOnlyBy.bind fun _ hvalidated ↦ ?_
    have hvalid := hvalidate.ok_iff.mp hvalidated
    exact (orderedRows_failsOnlyBy hq hvalid).bind fun _ _ ↦ .ok _
  · intro c hc
    obtain ⟨plans, hplans, hc⟩ := bind_eq_ok_iff.mp hc
    obtain ⟨rfl, hvalidate⟩ := validate_decides_of_planLinks (s := s) hq
      (mapError_eq_ok_iff.mp hplans)
    obtain ⟨_, hvalidated, hc⟩ := bind_eq_ok_iff.mp hc
    obtain ⟨limited, hlimited, -⟩ := bind_eq_ok_iff.mp hc
    simp only [orderedRows, Traced.result_bind] at hlimited
    obtain ⟨rows, hrows, -⟩ := bind_eq_ok_iff.mp hlimited
    exact not_testClashes_of_rows hq (hvalidate.ok_iff.mp hvalidated) hrows

/-! ## Examples -/

/-- A decimal NaN and a one under the same attribute. -/
def nanContents : Snapshot :=
  let unknown : Record := ⟨"a", some (Guid.ofNat 1),
    OrderedMap.ofList [("x", .number (.decimal (.nan false false 0)))]⟩
  let one : Record := ⟨"a", some (Guid.ofNat 2), OrderedMap.ofList [("x", .number (.integer 1))]⟩
  (Snapshot.empty.put (Guid.ofNat 1) unknown).put (Guid.ofNat 2) one

def nanOrderQuery : Query :=
  ⟨.str "a", .every, .empty, [], [⟨.str "x", .ascending⟩], none⟩

theorem nanOrderQuery_namedByTexts : nanOrderQuery.NamedByTexts where
  entityName := ⟨_, rfl⟩
  criteria := by simp [nanOrderQuery, Filter.empty, Filter.allConditions, Filter.allConditionsEach]
  orders := by simp [nanOrderQuery, Json.IsText]
  links := by simp [nanOrderQuery]
  aliases := by simp [nanOrderQuery]

theorem evaluate_nanOrderQuery :
    (nanOrderQuery.evaluate nanContents .omit).result = .error (.breakdown .nanComparison) := by
  cbv

theorem evaluate_exampleQuery :
    ∃ c, (exampleQuery.evaluate exampleContents .retain).result = .ok c := by
  have hvalidated : exampleQuery.validate exampleContents exampleQuery.plans = .ok () := by cbv
  have hordered : (exampleQuery.orderedRows exampleContents exampleQuery.plans).result.map
      (fun _ ↦ ()) = .ok () := by decide +kernel
  obtain ⟨rows, hrows, -⟩ := map_eq_ok_iff.mp hordered
  simp only [evaluate, Traced.result_bind, Traced.result_silent, bind_eq_ok_iff]
  exact ⟨_, exampleQuery.plans, rfl, (), hvalidated, rows, hrows, (), rfl, rfl⟩

/-- The order breaks down over a clash; where accounts are joined with contacts there is none. -/
theorem evaluate_failsOnlyBy_clashes_example :
    nanOrderQuery.NamedByTexts ∧ nanOrderQuery.Clashes nanContents .nanComparison ∧
      exampleQuery.NamedByTexts ∧
      (∃ c, (exampleQuery.evaluate exampleContents .retain).result = .ok c) ∧
      ∀ cause, ¬exampleQuery.TestClashes exampleContents cause := by
  have horder := evaluate_failsOnlyBy_clashes nanOrderQuery_namedByTexts nanContents .omit
  have hclash : nanOrderQuery.Clashes nanContents .nanComparison := by
    rcases horder.1 _ evaluate_nanOrderQuery with ⟨f, hf⟩ | ⟨cause, hcause, heq⟩
    · contradiction
    · obtain rfl := Fault.breakdown.inj heq
      exact hcause
  obtain ⟨c, hc⟩ := evaluate_exampleQuery
  have hjoin := evaluate_failsOnlyBy_clashes exampleQuery_namedByTexts exampleContents .retain
  exact ⟨nanOrderQuery_namedByTexts, hclash, exampleQuery_namedByTexts, ⟨c, hc⟩, hjoin.2 c hc⟩

/-- Ordering by an attribute with a NaN has neither an answer nor a fault of queries. -/
theorem not_failsOnlyBy_nanOrder :
    nanOrderQuery.NamedByTexts ∧
      ¬FailsOnlyBy (fun _ ↦ False) (nanOrderQuery.evaluate nanContents .omit).result := by
  refine ⟨nanOrderQuery_namedByTexts, fun h ↦ ?_⟩
  rcases h _ evaluate_nanOrderQuery with ⟨f, hf⟩ | ⟨cause, hcause, -⟩
  · contradiction
  · exact hcause

end OrgService.Query
