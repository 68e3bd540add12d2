import OrgService.Proofs.Query.Columns

/-!
# Null policies and result records

Rows are found, ordered and cut to the limit without regard to the policy, which takes part in
their projection only. So both policies fail alike or answer with records of the same rows, and
what a record lacks where nulls are omitted are the columns whose sources hold a null.
-/

namespace OrgService

theorem Value.isPresent_omit_iff {v : Value} :
    v.isPresent NullPolicy.omit.keepsNull = true ↔
      v.isPresent NullPolicy.retain.keepsNull = true ∧ v ≠ .null := by
  cases v <;> simp [isPresent, NullPolicy.keepsNull]

/-! ## Sources of a key -/

namespace JoinedRow

/-- An attribute that a source of the row is asked for and that would be written under the key. -/
structure Makes (q : Query) (row : JoinedRow) (k : String) (source : ColumnSource)
    (attr : String) : Prop where
  mem : source ∈ row.sources q
  isFound : source.IsFound
  requested : source.columns.Requests source.record attr
  key : k = source.key attr

/-- No two requested attributes of the sources would be written under the key. -/
def AtMostOneMakes (q : Query) (row : JoinedRow) (k : String) : Prop :=
  ∀ source attr source' attr', row.Makes q k source attr → row.Makes q k source' attr' →
    source = source' ∧ attr = attr'

variable {q : Query} {s : Snapshot} {plans : List PlannedLink} {row : JoinedRow}
  {policy : NullPolicy} {k : String} {v : Value}

theorem exists_supplies_iff :
    (∃ x ∈ row.sources q, x.IsFound ∧ x.Supplies policy k v) ↔
      ∃ source attr, row.Makes q k source attr ∧
        (source.record.lookup attr).isPresent policy.keepsNull = true ∧
        v = source.shown attr (source.record.lookup attr) := by
  constructor
  · rintro ⟨source, hmem, hfound, attr, w, ⟨hrequested, rfl, hpresent⟩, hkey, rfl⟩
    exact ⟨source, attr, ⟨hmem, hfound, hrequested, hkey⟩, hpresent, rfl⟩
  · rintro ⟨source, attr, hmakes, hpresent, rfl⟩
    have hreports : source.record.Reports source.columns policy attr (source.record.lookup attr) :=
      ⟨hmakes.requested, rfl, hpresent⟩
    exact ⟨source, hmakes.mem, hmakes.isFound, attr, _, hreports, hmakes.key, rfl⟩

/-- Where at most one attribute makes a key, the record holds its value if it is present. -/
theorem get?_toRecord_iff (hplans : q.planLinks = .ok plans)
    (hvalidated : q.validate s plans = .ok ())
    (haliases : row.links.map Prod.fst = plans.map PlannedLink.aliasName)
    (honce : row.AtMostOneMakes q k) :
    (row.toRecord q.columns plans policy).attributes.get? k = some v ↔
      ∃ source attr, row.Makes q k source attr ∧
        (source.record.lookup attr).isPresent policy.keepsNull = true ∧
        v = source.shown attr (source.record.lookup attr) := by
  have hwritten : ∀ {v}, (k, v) ∈ row.written q.columns plans policy ↔
      ∃ source attr, row.Makes q k source attr ∧
        (source.record.lookup attr).isPresent policy.keepsNull = true ∧
        v = source.shown attr (source.record.lookup attr) := by
    intro v
    rw [mem_written hplans hvalidated haliases, exists_supplies_iff]
  rw [attributes_toRecord]
  constructor
  · intro hget
    exact hwritten.mp (OrderedMap.mem_of_get?_ofList hget)
  · rintro ⟨source, attr, hmakes, hpresent, rfl⟩
    have hmem := hwritten.mpr ⟨source, attr, hmakes, hpresent, rfl⟩
    obtain ⟨w, hw⟩ := OrderedMap.exists_get?_ofList hmem
    -- Whichever write to the key is the last, it is of the one attribute that makes the key.
    obtain ⟨source', attr', hmakes', -, rfl⟩ := hwritten.mp (OrderedMap.mem_of_get?_ofList hw)
    obtain ⟨rfl, rfl⟩ := honce _ _ _ _ hmakes hmakes'
    exact hw

/-- Omitting nulls takes away the columns whose source value is null, and no others. -/
theorem get?_omit_iff (hplans : q.planLinks = .ok plans)
    (hvalidated : q.validate s plans = .ok ())
    (haliases : row.links.map Prod.fst = plans.map PlannedLink.aliasName)
    (honce : row.AtMostOneMakes q k) :
    (row.toRecord q.columns plans .omit).attributes.get? k = some v ↔
      (row.toRecord q.columns plans .retain).attributes.get? k = some v ∧
        ∃ source attr, row.Makes q k source attr ∧ source.record.lookup attr ≠ .null := by
  rw [get?_toRecord_iff hplans hvalidated haliases honce,
    get?_toRecord_iff hplans hvalidated haliases honce]
  constructor
  · rintro ⟨source, attr, hmakes, hpresent, rfl⟩
    obtain ⟨hretained, hnull⟩ := Value.isPresent_omit_iff.mp hpresent
    exact ⟨⟨source, attr, hmakes, hretained, rfl⟩, source, attr, hmakes, hnull⟩
  · rintro ⟨⟨source, attr, hmakes, hretained, rfl⟩, source', attr', hmakes', hnull⟩
    obtain ⟨rfl, rfl⟩ := honce _ _ _ _ hmakes hmakes'
    have hpresent := Value.isPresent_omit_iff.mpr ⟨hretained, hnull⟩
    exact ⟨source, attr, hmakes, hpresent, rfl⟩

end JoinedRow

/-! ## Identities -/

namespace Record

theorem identity_setAll (r : Record) (columns : List (String × Value)) :
    (r.setAll columns).logicalName = r.logicalName ∧ (r.setAll columns).id = r.id := by
  rw [setAll_eq]
  exact ⟨rfl, rfl⟩

theorem identity_foldl_setAll {α : Type} (f : α → List (String × Value)) (r : Record)
    (xs : List α) :
    (xs.foldl (fun r x ↦ r.setAll (f x)) r).logicalName = r.logicalName ∧
      (xs.foldl (fun r x ↦ r.setAll (f x)) r).id = r.id := by
  induction xs generalizing r with
  | nil => exact ⟨rfl, rfl⟩
  | cons x xs ih =>
      obtain ⟨hname, hid⟩ := identity_setAll r (f x)
      rw [List.foldl_cons, ← hname, ← hid]
      exact ih (r.setAll (f x))

end Record

/-- A result record has the identity of the base record. -/
theorem JoinedRow.identity_toRecord (row : JoinedRow) (columns : ColumnSet)
    (plans : List PlannedLink) (policy : NullPolicy) :
    (row.toRecord columns plans policy).logicalName = row.base.logicalName ∧
      (row.toRecord columns plans policy).id = row.base.id :=
  Record.identity_foldl_setAll (row.linkedColumns policy) (row.base.project columns policy) plans

/-! ## Results under both policies -/

namespace Query

/-- The planned links and the rows of a query, which no policy changes. -/
def found (q : Query) (s : Snapshot) : Except Fault (List PlannedLink × List JoinedRow) := do
  let plans ← q.planLinks.mapError .query
  q.validate s plans
  let rows ← (q.orderedRows s plans).result
  .ok (plans, rows)

theorem result_evaluate (q : Query) (s : Snapshot) (policy : NullPolicy) :
    (q.evaluate s policy).result = (q.found s).map fun found ↦
      ⟨q.entityName, found.2.map fun row ↦ row.toRecord q.columns found.1 policy⟩ := by
  simp only [evaluate, found, Traced.result_bind, Traced.result_silent, map_bind_eq]
  rfl

/-- Two results of a row with the identity of its base record, where the first lacks just those
columns of the second whose source value is null. Keys that several attributes make are left
open. -/
structure HidesNulls (q : Query) (row : JoinedRow) (omitted retained : Record) : Prop where
  logicalName : omitted.logicalName = row.base.logicalName ∧
    retained.logicalName = row.base.logicalName
  id : omitted.id = row.base.id ∧ retained.id = row.base.id
  columns : ∀ k, row.AtMostOneMakes q k → ∀ v, omitted.attributes.get? k = some v ↔
    retained.attributes.get? k = some v ∧
      ∃ source attr, row.Makes q k source attr ∧ source.record.lookup attr ≠ .null

/-- Under both policies a query has the same fault, or records of the same rows in the same order,
of which those that omit nulls lack nothing else. -/
theorem evaluate_omit_retain (q : Query) (s : Snapshot) :
    (∃ fault, (q.evaluate s .omit).result = .error fault ∧
      (q.evaluate s .retain).result = .error fault) ∨
    ∃ plans rows, q.planLinks = .ok plans ∧ (q.orderedRows s plans).result = .ok rows ∧
      (q.evaluate s .omit).result =
        .ok ⟨q.entityName, rows.map fun row ↦ row.toRecord q.columns plans .omit⟩ ∧
      (q.evaluate s .retain).result =
        .ok ⟨q.entityName, rows.map fun row ↦ row.toRecord q.columns plans .retain⟩ ∧
      ∀ row ∈ rows, HidesNulls q row (row.toRecord q.columns plans .omit)
        (row.toRecord q.columns plans .retain) := by
  rw [result_evaluate, result_evaluate]
  cases hfound : q.found s with
  | error fault => exact .inl ⟨fault, rfl, rfl⟩
  | ok found =>
      simp only [Query.found, bind_eq_ok_iff, mapError_eq_ok_iff] at hfound
      obtain ⟨plans, hplans, _, hvalidated, rows, hrows, heq⟩ := hfound
      obtain rfl := Except.ok.inj heq
      refine .inr ⟨plans, rows, hplans, hrows, rfl, rfl, fun row hrow ↦ ?_⟩
      obtain ⟨homitted, homittedId⟩ := row.identity_toRecord q.columns plans .omit
      obtain ⟨hretained, hretainedId⟩ := row.identity_toRecord q.columns plans .retain
      refine ⟨⟨homitted, hretained⟩, ⟨homittedId, hretainedId⟩, fun k honce v ↦ ?_⟩
      obtain ⟨unsorted, hunsorted, hsorted⟩ := mem_rows_of_orderedRows hrows
      have haliases := aliases_of_rows hunsorted row (hsorted row hrow)
      exact JoinedRow.get?_omit_iff hplans hvalidated haliases honce

example : [NullPolicy.omit, NullPolicy.retain].map (fun policy ↦
    (Query.evaluate ⟨.str "a", .every, .empty, [], [], none⟩
      (Snapshot.empty.put (Guid.ofNat 1) ⟨"a", some (Guid.ofNat 1), .ofList [("x", .null)]⟩)
      policy).result.toOption.map fun c ↦ c.records.map (·.attributes.keys)) =
    [some [["aid"]], some [["aid", "x"]]] := by
  cbv

end Query

end OrgService
