import OrgService.Proofs.Query.Alias
import OrgService.Proofs.Query.Expansion

/-!
# Join semantics

The rows of a validated query are its bindings, in the order of their scan positions and each
once. A NaN for an alias breaks this: it passes validation, but no link finds its parent under it.
-/

namespace OrgService.Query

/-- Rows list the bindings of a query by their scan positions, each once. -/
def RowsAreBindings (q : Query) (s : Snapshot) (rows : List JoinedRow) : Prop :=
  ∃ bs : List Binding, bs.Pairwise (fun b c ↦ b.positions < c.positions) ∧
    (∀ b, b ∈ bs ↔ q.Admits s b) ∧ rows = bs.map (Binding.row (Link.aliases 0 q.links))

/-- The rows of a validated query are its bindings, unless an alias or a join key is a NaN. -/
theorem rowsAreBindings_of_rows {q : Query} {s : Snapshot} {plans : List PlannedLink}
    {rows : List JoinedRow} (hplans : q.planLinks = .ok plans)
    (hvalidated : q.validate s plans = .ok ()) (haliases : q.NoNaNAlias)
    (hkeys : ∀ l ∈ Link.preorderEach q.links, l.NoNaNKey s)
    (hrows : (q.rows s plans).result = .ok rows) : q.RowsAreBindings s rows :=
  ⟨q.bindings s, pairwise_bindings, fun _ ↦ mem_bindings,
    rows_eq_bindings hplans (same_self_of_validate hplans hvalidated haliases) hkeys hrows⟩

theorem rowsAreBindings_example :
    ∃ plans rows, exampleQuery.planLinks = .ok plans ∧
      exampleQuery.validate exampleContents plans = .ok () ∧ exampleQuery.NoNaNAlias ∧
      (∀ l ∈ Link.preorderEach exampleQuery.links, l.NoNaNKey exampleContents) ∧
      (exampleQuery.rows exampleContents plans).result = .ok rows ∧ rows.length = 2 ∧
      exampleQuery.RowsAreBindings exampleContents rows := by
  let plans := Link.numberedEach none 0 exampleQuery.links
  have hplans : exampleQuery.planLinks = .ok plans := rfl
  have hvalidated : exampleQuery.validate exampleContents plans = .ok () := by cbv
  have haliases : exampleQuery.NoNaNAlias := by
    unfold NoNaNAlias
    decide
  have hkeys : ∀ l ∈ Link.preorderEach exampleQuery.links, l.NoNaNKey exampleContents := by
    unfold Link.NoNaNKey
    decide +kernel
  have hcount : (exampleQuery.rows exampleContents plans).result.map List.length = .ok 2 := by
    decide +kernel
  obtain ⟨rows, hrows, hlength⟩ := map_eq_ok_iff.mp hcount
  exact ⟨plans, rows, hplans, hvalidated, haliases, hkeys, hrows, hlength,
    rowsAreBindings_of_rows hplans hvalidated haliases hkeys hrows⟩

/-! ## A NaN for an alias -/

def chainA : Record :=
  ⟨"a", some (Guid.ofNat 1), OrderedMap.ofList [("k", .number (.integer 1))]⟩

def chainB : Record :=
  ⟨"b", some (Guid.ofNat 2),
    OrderedMap.ofList [("k", .number (.integer 1)), ("m", .number (.integer 2))]⟩

def chainC : Record :=
  ⟨"c", some (Guid.ofNat 3),
    OrderedMap.ofList [("m", .number (.integer 2)), ("n", .number (.integer 3))]⟩

/-- Three records in a chain: each link of the query finds exactly one of them. -/
def chainContents : Snapshot :=
  ((Snapshot.empty.put (Guid.ofNat 1) chainA).put (Guid.ofNat 2) chainB).put (Guid.ofNat 3) chainC

def nanAliasQuery : Query :=
  let c : Link := ⟨.str "b", .str "c", .str "m", .str "m", .inner, .str "c",
    ColumnSet.ofList ["n"] false, .empty, []⟩
  let b : Link := ⟨.str "a", .str "b", .str "k", .str "k", .inner, .double .nan, .none, .empty, [c]⟩
  ⟨.str "a", .none, .empty, [b], [], none⟩

/-- Below a link with a NaN for an alias nothing is bound, although a record would match. -/
theorem not_rowsAreBindings_nanAlias :
    ∃ plans rows, nanAliasQuery.planLinks = .ok plans ∧
      nanAliasQuery.validate chainContents plans = .ok () ∧
      (∀ l ∈ Link.preorderEach nanAliasQuery.links, l.NoNaNKey chainContents) ∧
      (nanAliasQuery.rows chainContents plans).result = .ok rows ∧
      ¬nanAliasQuery.RowsAreBindings chainContents rows := by
  let plans := Link.numberedEach none 0 nanAliasQuery.links
  let found (row : JoinedRow) : List Bool := row.links.map (·.2.isSome)
  have hfound : (nanAliasQuery.rows chainContents plans).result.map (List.map found) =
      .ok [[true, false]] := by decide +kernel
  obtain ⟨rows, hrows, hfound⟩ := map_eq_ok_iff.mp hfound
  refine ⟨plans, rows, rfl, by cbv, ?_, hrows, ?_⟩
  · unfold Link.NoNaNKey
    decide +kernel
  · rintro ⟨bs, -, hadmitted, rfl⟩
    rw [List.map_map] at hfound
    obtain ⟨b, rfl, hb⟩ := List.map_eq_singleton_iff.mp hfound
    have hmem : b ∈ nanAliasQuery.bindings chainContents :=
      mem_bindings.mpr ((hadmitted b).mp List.mem_cons_self)
    have hboth : ∀ b ∈ nanAliasQuery.bindings chainContents,
        found (b.row (Link.aliases 0 nanAliasQuery.links)) = [true, true] := by
      decide +kernel
    have hdiffer := hb.symm.trans (hboth b hmem)
    simp at hdiffer

end OrgService.Query
