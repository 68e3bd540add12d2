import Mathlib.Data.List.Forall2
import OrgService.Proofs.OrderedMap
import OrgService.Proofs.Query.Alias
import OrgService.Proofs.Query.Expansion
import OrgService.Proofs.Query.RowOrder
import OrgService.Query.Evaluation

/-!
# Columns of result records

A row takes columns from its base record and from every record that a link binds. All columns are
written into one map, those of a link under its alias, a dot and the attribute, so that a later
source can overwrite what an earlier one has written.
-/

namespace OrgService

/-- A column set requests an attribute of a record: by its name, or along with all that the record
holds and the primary one. -/
def ColumnSet.Requests (columns : ColumnSet) (r : Record) (attr : String) : Prop :=
  if columns.all then attr = r.primaryAttribute ∨ attr ∈ r.attributes.keys
  else attr ∈ columns.names

namespace Record

/-- A record reports the value of a requested attribute that is present under the policy. -/
def Reports (r : Record) (columns : ColumnSet) (policy : NullPolicy) (attr : String)
    (v : Value) : Prop :=
  columns.Requests r attr ∧ r.lookup attr = v ∧ v.isPresent policy.keepsNull = true

variable {r : Record} {columns : ColumnSet} {policy : NullPolicy} {attr : String} {v : Value}

theorem mem_selected : attr ∈ r.selected columns ↔ columns.Requests r attr := by
  unfold selected ColumnSet.Requests
  split
  · rw [mem_firstOccurrences, List.mem_cons]
  · rfl

theorem mem_reportable :
    (attr, v) ∈ r.reportable columns policy ↔ r.Reports columns policy attr v := by
  simp only [reportable, List.mem_filterMap, mem_selected, Reports]
  constructor
  · rintro ⟨attr', hrequested, hfound⟩
    split at hfound
    · rename_i hpresent
      obtain ⟨rfl, rfl⟩ := Prod.mk.inj (Option.some.inj hfound)
      exact ⟨hrequested, rfl, hpresent⟩
    · contradiction
  · rintro ⟨hrequested, rfl, hpresent⟩
    exact ⟨attr, hrequested, if_pos hpresent⟩

end Record

/-- A record that a row takes columns from: the base record, or one bound under an alias. -/
structure ColumnSource where
  aliasName : Option Json
  record : Record
  columns : ColumnSet

namespace ColumnSource

def key (source : ColumnSource) (attr : String) : String :=
  match source.aliasName with
  | none => attr
  | some a => Record.columnName a attr

/-- A value as a column; that of a linked record tells where it came from. -/
def shown (source : ColumnSource) (attr : String) (v : Value) : Value :=
  match source.aliasName with
  | none => v
  | some _ => .aliased source.record.logicalName attr v

/-- A source supplies a column for each attribute that its record reports. -/
def Supplies (source : ColumnSource) (policy : NullPolicy) (k : String) (v : Value) : Prop :=
  ∃ attr w, source.record.Reports source.columns policy attr w ∧
    k = source.key attr ∧ v = source.shown attr w

/-- No two sources supply different columns under one key. -/
def Agree (policy : NullPolicy) (sources : List ColumnSource) : Prop :=
  ∀ x ∈ sources, ∀ y ∈ sources, ∀ k v w,
    x.Supplies policy k v → y.Supplies policy k w → v = w

/-- A source that is found under its alias, which a NaN never is. -/
def IsFound (source : ColumnSource) : Prop := ∀ a, source.aliasName = some a → a.isNaN = false

/-- What a source supplies is supplied by a source that is found. -/
def Covered (policy : NullPolicy) (sources : List ColumnSource) : Prop :=
  ∀ x ∈ sources, ∀ k v, x.Supplies policy k v →
    ∃ y ∈ sources, y.IsFound ∧ y.Supplies policy k v

end ColumnSource

/-- The sources of a row: its base record, and every record that a link of the query binds. -/
def JoinedRow.sources (q : Query) (row : JoinedRow) : List ColumnSource :=
  ⟨none, row.base, q.columns⟩ ::
    ((Link.preorderEach q.links).zip row.links).filterMap fun e ↦
      e.2.2.map fun r ↦ ⟨some e.2.1, r, e.1.columns⟩

/-- A record holds every column that the sources supply, and no other. -/
structure Record.HoldsColumns (result : Record) (policy : NullPolicy)
    (sources : List ColumnSource) : Prop where
  supplied : ∀ x ∈ sources, ∀ k v, x.Supplies policy k v → result.attributes.get? k = some v
  noOther : ∀ k ∈ result.attributes.keys, ∃ x ∈ sources, ∃ v, x.Supplies policy k v

/-! ## Columns in the order of their writing -/

namespace Record

theorem setAll_eq (r : Record) (columns : List (String × Value)) :
    r.setAll columns = { r with attributes := r.attributes.insertAll columns } := by
  unfold setAll OrderedMap.insertAll
  induction columns generalizing r with
  | nil => rfl
  | cons e columns ih => exact ih (r.set e.1 e.2)

theorem attributes_setAll (r : Record) (columns : List (String × Value)) :
    (r.setAll columns).attributes = r.attributes.insertAll columns := by
  rw [setAll_eq]

theorem attributes_foldl_setAll {α : Type} (f : α → List (String × Value)) (r : Record)
    (xs : List α) :
    (xs.foldl (fun r x ↦ r.setAll (f x)) r).attributes =
      r.attributes.insertAll (xs.flatMap f) := by
  induction xs generalizing r with
  | nil => rfl
  | cons x xs ih =>
      rw [List.foldl_cons, ih, attributes_setAll, List.flatMap_cons, OrderedMap.insertAll_append]

end Record

namespace JoinedRow

/-- The columns of a row in the order in which they are written. -/
def written (row : JoinedRow) (columns : ColumnSet) (plans : List PlannedLink)
    (policy : NullPolicy) : List (String × Value) :=
  row.base.reportable columns policy ++ plans.flatMap (row.linkedColumns policy)

theorem attributes_toRecord (row : JoinedRow) (columns : ColumnSet) (plans : List PlannedLink)
    (policy : NullPolicy) :
    (row.toRecord columns plans policy).attributes =
      OrderedMap.ofList (row.written columns plans policy) := by
  rw [toRecord, Record.attributes_foldl_setAll, written, OrderedMap.ofList,
    OrderedMap.insertAll_append]
  rfl

/-! ## Finding records by alias -/

theorem source_of_isNaN {row : JoinedRow} {a : Json} (h : a.isNaN = true) :
    row.source (some a) = none := by
  have hnone : row.links.find? (fun e ↦ e.1.same a) = none := by
    apply List.find?_eq_none.mpr
    intro e _
    simp [Json.same_of_isNaN h]
  simp [source, hnone]

theorem source_of_mem {row : JoinedRow} {a : Json} {bound : Option Record}
    (hmem : (a, bound) ∈ row.links) (hself : a.same a = true)
    (hdistinct : row.links.Pairwise fun e f ↦ e.1.same f.1 = false) :
    row.source (some a) = bound := by
  obtain ⟨base, links⟩ := row
  simp only [source]
  induction links with
  | nil => simp at hmem
  | cons e links ih =>
      rcases List.mem_cons.mp hmem with rfl | hmem
      · simp [hself]
      · obtain ⟨hfirst, hrest⟩ := List.pairwise_cons.mp hdistinct
        rw [List.find?_cons_of_neg (by simp [hfirst _ hmem])]
        exact ih hmem hrest

theorem aliases_of_expand {links : List (PlannedLink × List KeyedRecord)}
    {row : JoinedRow} {rows : List JoinedRow} (h : (expand links row).result = .ok rows) :
    ∀ x ∈ rows, x.links.map Prod.fst =
      row.links.map Prod.fst ++ links.map fun e ↦ e.1.aliasName := by
  induction links generalizing row rows with
  | nil =>
      obtain rfl := Except.ok.inj h
      simp
  | cons e links ih =>
      intro x hx
      obtain ⟨r, rows', hrows', hx⟩ := exists_of_mem_expand_cons h hx
      simp [ih hrows' x hx, JoinedRow.bind]

end JoinedRow

namespace Query

variable {q : Query} {s : Snapshot} {plans : List PlannedLink} {rows : List JoinedRow}

theorem aliases_of_rows (h : (q.rows s plans).result = .ok rows) :
    ∀ row ∈ rows, row.links.map Prod.fst = plans.map PlannedLink.aliasName := by
  intro row hrow
  obtain ⟨links, r, rows', hlinks, -, -, hrows', hrow⟩ := exists_of_mem_rows h hrow
  obtain ⟨rfl, -⟩ := PlannedLink.allCandidates_eq_ok hlinks
  rw [List.map_map]
  exact JoinedRow.aliases_of_expand hrows' row hrow

theorem mem_rows_of_orderedRows {sorted : List JoinedRow}
    (h : (q.orderedRows s plans).result = .ok sorted) :
    ∃ rows, (q.rows s plans).result = .ok rows ∧ ∀ row ∈ sorted, row ∈ rows := by
  simp only [orderedRows, Traced.result_bind, Traced.result_silent, bind_eq_ok_iff] at h
  obtain ⟨rows, hrows, ordered, hordered, h⟩ := h
  obtain rfl := Except.ok.inj h
  refine ⟨rows, hrows, fun row hrow ↦ (JoinedRow.sortAll_perm hordered).subset ?_⟩
  unfold limit at hrow
  split at hrow
  · exact hrow
  · exact List.mem_of_mem_take hrow

end Query

/-! ## Columns and their sources -/

namespace ColumnSource

theorem supplies_base {r : Record} {columns : ColumnSet} {policy : NullPolicy} {k : String}
    {v : Value} :
    Supplies ⟨none, r, columns⟩ policy k v ↔ (k, v) ∈ r.reportable columns policy := by
  rw [Record.mem_reportable]
  constructor
  · rintro ⟨attr, w, hreports, rfl, rfl⟩
    exact hreports
  · intro hreports
    exact ⟨k, v, hreports, rfl, rfl⟩

theorem supplies_linked {a : Json} {r : Record} {columns : ColumnSet} {policy : NullPolicy}
    {k : String} {v : Value} :
    Supplies ⟨some a, r, columns⟩ policy k v ↔ (k, v) ∈ r.projectAliased a columns policy := by
  rw [Record.projectAliased, List.mem_map]
  constructor
  · rintro ⟨attr, w, hreports, rfl, rfl⟩
    exact ⟨(attr, w), Record.mem_reportable.mpr hreports, rfl⟩
  · rintro ⟨⟨attr, w⟩, hreported, heq⟩
    obtain ⟨rfl, rfl⟩ := Prod.mk.inj heq
    exact ⟨attr, w, Record.mem_reportable.mp hreported, rfl, rfl⟩

end ColumnSource

namespace JoinedRow

variable {q : Query} {s : Snapshot} {plans : List PlannedLink} {row : JoinedRow}
  {policy : NullPolicy} {k : String} {v : Value}

theorem mem_linkedColumns {p : PlannedLink} :
    (k, v) ∈ row.linkedColumns policy p ↔ ∃ r, row.source (some p.aliasName) = some r ∧
      ColumnSource.Supplies ⟨some p.aliasName, r, p.link.columns⟩ policy k v := by
  unfold linkedColumns
  cases row.source (some p.aliasName) <;> simp [ColumnSource.supplies_linked]

/-- What a link binds is found under its alias, unless that is a NaN. -/
theorem source_of_mem_zip (hplans : q.planLinks = .ok plans)
    (hvalidated : q.validate s plans = .ok ())
    (haliases : row.links.map Prod.fst = plans.map PlannedLink.aliasName) {p : PlannedLink}
    {a : Json} {bound : Option Record} (hmem : (p, a, bound) ∈ plans.zip row.links) :
    p.aliasName = a ∧ row.source (some a) = if a.isNaN then none else bound := by
  obtain ⟨i, hi⟩ := List.mem_iff_getElem?.mp hmem
  obtain ⟨hp, hbound⟩ := List.getElem?_zip_eq_some.mp hi
  have ha : p.aliasName = a := by
    have hget := congrArg (·[i]?) haliases
    simp only [List.getElem?_map, hp, hbound, Option.map_some, Option.some.injEq] at hget
    exact hget.symm
  refine ⟨ha, ?_⟩
  cases hnan : a.isNaN with
  | true => exact source_of_isNaN hnan
  | false =>
      have hname :=
        ((Query.isNameable_of_validate hvalidated).2 p (List.mem_of_getElem? hp)).aliasName
      have hself : a.same a = true := Json.same_self (ha ▸ hname) hnan
      have hdistinct : (row.links.map Prod.fst).Pairwise fun a b ↦ a.same b = false := by
        rw [haliases, List.pairwise_map]
        exact (Query.planLinks_eq_ok_iff.mp hplans).2
      exact source_of_mem (List.mem_of_getElem? hbound) hself (List.pairwise_map.mp hdistinct)

theorem sources_eq (hplans : q.planLinks = .ok plans) : row.sources q =
    ⟨none, row.base, q.columns⟩ :: (plans.zip row.links).filterMap fun e ↦
      e.2.2.map fun r ↦ ⟨some e.2.1, r, e.1.link.columns⟩ := by
  rw [sources, ← Link.map_link_numberedEach none 0, ← (Query.planLinks_eq_ok_iff.mp hplans).1,
    List.zip_map_left, List.filterMap_map]
  rfl

/-- The written columns are those supplied by sources that are found. -/
theorem mem_written (hplans : q.planLinks = .ok plans) (hvalidated : q.validate s plans = .ok ())
    (haliases : row.links.map Prod.fst = plans.map PlannedLink.aliasName) :
    (k, v) ∈ row.written q.columns plans policy ↔
      ∃ x ∈ row.sources q, x.IsFound ∧ x.Supplies policy k v := by
  have hlength : plans.length = row.links.length := by
    simpa using (congrArg List.length haliases).symm
  have hlinked : (∃ p ∈ plans, (k, v) ∈ row.linkedColumns policy p) ↔
      ∃ e ∈ plans.zip row.links, ∃ r, e.2.2 = some r ∧ e.2.1.isNaN = false ∧
        ColumnSource.Supplies ⟨some e.2.1, r, e.1.link.columns⟩ policy k v := by
    have hmap : plans = (plans.zip row.links).map Prod.fst :=
      (List.map_fst_zip (Nat.le_of_eq hlength)).symm
    conv_lhs => rw [hmap]
    simp only [List.mem_map, exists_exists_and_eq_and]
    refine exists_congr fun ⟨p, a, bound⟩ ↦ and_congr_right fun hmem ↦ ?_
    obtain ⟨rfl, hsource⟩ := source_of_mem_zip hplans hvalidated haliases hmem
    rw [mem_linkedColumns, hsource]
    cases p.aliasName.isNaN <;> simp
  rw [written, List.mem_append, List.mem_flatMap, hlinked, sources_eq hplans]
  simp [ColumnSource.IsFound, ColumnSource.supplies_base]

/-- A result record holds the columns of its sources, and no other, just if all sources are found
and agree on each key. -/
theorem holdsColumns_iff (hplans : q.planLinks = .ok plans)
    (hvalidated : q.validate s plans = .ok ())
    (haliases : row.links.map Prod.fst = plans.map PlannedLink.aliasName) :
    (row.toRecord q.columns plans policy).HoldsColumns policy (row.sources q) ↔
      ColumnSource.Agree policy (row.sources q) ∧ ColumnSource.Covered policy (row.sources q) := by
  have hwritten : ∀ {k v}, (k, v) ∈ row.written q.columns plans policy ↔
      ∃ x ∈ row.sources q, x.IsFound ∧ x.Supplies policy k v :=
    mem_written hplans hvalidated haliases
  constructor
  · rintro ⟨hsupplied, -⟩
    rw [attributes_toRecord] at hsupplied
    constructor
    · intro x hx y hy k v w hv hw
      exact Option.some.inj ((hsupplied x hx k v hv).symm.trans (hsupplied y hy k w hw))
    · intro x hx k v hv
      exact hwritten.mp (OrderedMap.mem_of_get?_ofList (hsupplied x hx k v hv))
  · rintro ⟨hagree, hcovered⟩
    constructor
    · -- The column was written by some source that is found, maybe another one; they agree.
      intro x hx k v hv
      obtain ⟨y, hy, hfound, hy'⟩ := hcovered x hx k v hv
      obtain ⟨w, hw⟩ := OrderedMap.exists_get?_ofList (hwritten.mpr ⟨y, hy, hfound, hy'⟩)
      obtain ⟨z, hz, -, hz'⟩ := hwritten.mp (OrderedMap.mem_of_get?_ofList hw)
      rw [attributes_toRecord, hw, hagree x hx z hz k v w hv hz']
    · intro k hk
      rw [attributes_toRecord, ← OrderedMap.contains_eq_true_iff] at hk
      obtain ⟨v, hv⟩ := Option.isSome_iff_exists.mp hk
      obtain ⟨x, hx, -, hv⟩ := hwritten.mp (OrderedMap.mem_of_get?_ofList hv)
      exact ⟨x, hx, v, hv⟩

end JoinedRow

namespace Query

/-- The records that a query answers with hold the columns of their sources, and no other, just
where these agree on each key and are found. -/
theorem holdsColumns_iff_of_evaluate {q : Query} {s : Snapshot} {policy : NullPolicy}
    {c : Collection} (h : (q.evaluate s policy).result = .ok c) :
    ∃ plans rows, q.planLinks = .ok plans ∧ (q.orderedRows s plans).result = .ok rows ∧
      List.Forall₂ (fun row result ↦ row.links.map Prod.fst = Link.aliases 0 q.links ∧
        (Record.HoldsColumns result policy (row.sources q) ↔
          ColumnSource.Agree policy (row.sources q) ∧
            ColumnSource.Covered policy (row.sources q))) rows c.records := by
  simp only [evaluate, Traced.result_bind, Traced.result_silent, Traced.result_write,
    bind_eq_ok_iff, mapError_eq_ok_iff] at h
  obtain ⟨plans, hplans, _, hvalidated, rows, hrows, _, -, h⟩ := h
  obtain rfl := Except.ok.inj h
  refine ⟨plans, rows, hplans, hrows, List.forall₂_map_right_iff.mpr ?_⟩
  obtain ⟨unsorted, hunsorted, hsorted⟩ := mem_rows_of_orderedRows hrows
  refine List.forall₂_same.mpr fun row hrow ↦ ?_
  have haliases := aliases_of_rows hunsorted row (hsorted row hrow)
  refine ⟨?_, JoinedRow.holdsColumns_iff hplans hvalidated haliases⟩
  rw [haliases, (planLinks_eq_ok_iff.mp hplans).1, Link.map_aliasName_numberedEach]

/-- A record with an attribute that is called like a column of a linked record. -/
def dottedA : Record :=
  ⟨"a", some (Guid.ofNat 1),
    OrderedMap.ofList [("k", .number (.integer 1)), ("b.m", .number (.integer 7))]⟩

def dottedB : Record :=
  ⟨"b", some (Guid.ofNat 2),
    OrderedMap.ofList [("k", .number (.integer 1)), ("m", .number (.integer 2))]⟩

def dottedContents : Snapshot :=
  (Snapshot.empty.put (Guid.ofNat 1) dottedA).put (Guid.ofNat 2) dottedB

def dottedQuery (aliasName : String) : Query :=
  let b : Link := ⟨.str "a", .str "b", .str "k", .str "k", .inner, .str aliasName,
    ColumnSet.ofList ["m"] false, .empty, []⟩
  ⟨.str "a", ColumnSet.ofList ["b.m"] false, .empty, [b], [], none⟩

theorem holdsColumns_iff_dotted :
    ∃ c, ((dottedQuery "c").evaluate dottedContents .omit).result = .ok c ∧ c.records.length = 1 ∧
      ∃ plans rows, (dottedQuery "c").planLinks = .ok plans ∧
        ((dottedQuery "c").orderedRows dottedContents plans).result = .ok rows ∧
        List.Forall₂ (fun row result ↦
          row.links.map Prod.fst = Link.aliases 0 (dottedQuery "c").links ∧
          (Record.HoldsColumns result .omit (row.sources (dottedQuery "c")) ↔
            ColumnSource.Agree .omit (row.sources (dottedQuery "c")) ∧
              ColumnSource.Covered .omit (row.sources (dottedQuery "c")))) rows c.records := by
  have hlength : ((dottedQuery "c").evaluate dottedContents .omit).result.map
      (fun c ↦ c.records.length) = .ok 1 := by cbv
  obtain ⟨c, hc, hlength⟩ := map_eq_ok_iff.mp hlength
  exact ⟨c, hc, hlength, holdsColumns_iff_of_evaluate hc⟩

/-- The column of the linked record takes the place of that of the base record. -/
theorem not_holdsColumns_dotted : ∃ plans row result, (dottedQuery "b").planLinks = .ok plans ∧
    ((dottedQuery "b").orderedRows dottedContents plans).result = .ok [row] ∧
    ((dottedQuery "b").evaluate dottedContents .omit).result = .ok ⟨.str "a", [result]⟩ ∧
    ¬result.HoldsColumns .omit (row.sources (dottedQuery "b")) := by
  let plans := Link.numberedEach none 0 (dottedQuery "b").links
  let row : JoinedRow := ⟨dottedA, [(.str "b", some dottedB)]⟩
  refine ⟨plans, row, row.toRecord (dottedQuery "b").columns plans .omit, rfl, rfl, by cbv, ?_⟩
  rintro ⟨hsupplied, -⟩
  have hbase : ColumnSource.Supplies ⟨none, dottedA, (dottedQuery "b").columns⟩ .omit "b.m"
      (.number (.integer 7)) := by
    have hrequested : "b.m" ∈ (dottedQuery "b").columns.names := by decide
    exact ⟨"b.m", .number (.integer 7), ⟨hrequested, rfl, rfl⟩, rfl, rfl⟩
  have hheld := hsupplied _ List.mem_cons_self _ _ hbase
  have hlinked : (row.toRecord (dottedQuery "b").columns plans .omit).attributes.get? "b.m" =
      some (.aliased "b" "m" (.number (.integer 2))) := rfl
  simp [hlinked] at hheld

end Query

end OrgService
