import OrgService.Context
import OrgService.Proofs.Guid.CaseFold
import OrgService.Proofs.Query.Policies
import OrgService.Proofs.Store.Identities

/-!
# Two ways to read a record

A record can be asked for by its identity, or by a query for the records of its type whose primary
attribute equals an identifier. Unless records assign that attribute themselves, both find the same.
-/

namespace OrgService

/-! ## Records by identity -/

theorem Snapshot.Reflects.identity_of_mem_table {s : Snapshot} {rs : List Record}
    (hs : s.Reflects rs) {n : String} {e : Guid × Record} (he : e ∈ (s.table n).entries) :
    e.2.identity = (n, some e.1) := by
  rw [hs.table n] at he
  obtain ⟨r, -, hentry⟩ := List.mem_filterMap.mp he
  obtain ⟨hidentity, rfl⟩ := Record.entryOf?_eq_some_iff.mp hentry
  exact hidentity

theorem Snapshot.Reflects.identity_of_mem_scan {s : Snapshot} {rs : List Record}
    (hs : s.Reflects rs) {n : String} {r : Record} (hr : r ∈ s.scan n) :
    r.logicalName = n ∧ ∃ id, r.id = some id := by
  obtain ⟨e, he, rfl⟩ := List.mem_map.mp hr
  obtain ⟨hname, hid⟩ := Prod.mk.inj (hs.identity_of_mem_table he)
  exact ⟨hname, e.1, hid⟩

/-- Among the records of a type, those with an identifier are the one that is stored under it. -/
theorem Snapshot.Reflects.filter_scan {s : Snapshot} {rs : List Record} (hs : s.Reflects rs)
    (n : String) (id : Guid) :
    (s.scan n).filter (fun r ↦ r.id = some id) = (s.get? n id).toList := by
  have hkeys : ∀ e ∈ (s.table n).entries, e.2.id = some e.1 := fun e he ↦
    congrArg Prod.snd (hs.identity_of_mem_table he)
  have hnodup := (s.table n).nodup
  simp only [Snapshot.scan, OrderedMap.values, Snapshot.get?, OrderedMap.get?]
  generalize (s.table n).entries = kvs at hkeys hnodup
  induction kvs with
  | nil => rfl
  | cons e kvs ih =>
      obtain ⟨he, hkeys⟩ := List.forall_mem_cons.mp hkeys
      obtain ⟨hnew, hnodup⟩ := List.nodup_cons.mp hnodup
      rw [List.map_cons]
      by_cases hid : e.1 = id
      · subst hid
        -- No later record has this identifier: it is a key of the table, and keys do not repeat.
        have hrest : (kvs.map Prod.snd).filter (fun r ↦ r.id = some e.1) = [] := by
          apply List.filter_eq_nil_iff.mpr
          intro r hr
          obtain ⟨e', he', rfl⟩ := List.mem_map.mp hr
          simp only [hkeys e' he', Option.some.injEq, decide_eq_true_eq]
          rintro heq
          exact hnew (List.mem_map.mpr ⟨e', he', heq⟩)
        simp [he, hrest]
      · simp [he, hid, ih hkeys hnodup]

/-! ## Conditions on the primary attribute -/

/-- An identifier, or a text that reads as it. -/
inductive Value.Spells (id : Guid) : Value → Prop
  | guid : Spells id (.guid id)
  | text {s : String} (h : Guid.parse? s = some id) : Spells id (.text s)

namespace Condition

def hasId (n : String) (given : Value) : Condition :=
  ⟨.str (n ++ "id"), .equal, [given]⟩

theorem coerce_of_spells {given : Value} {id : Guid} (h : given.Spells id) (actual : Guid) :
    coerce (.guid actual) given.comparable = .guid id := by
  cases h with
  | guid => rfl
  | text h => simp [Value.comparable, coerce, Guid.parse?_caseFold h]

/-- Where records do not assign the primary attribute, it tells their identifier. -/
theorem holds_hasId {n : String} {r : Record} {given : Value} {actual id : Guid}
    (hname : r.logicalName = n) (hid : r.id = some actual)
    (hfree : r.attributes.contains (n ++ "id") = false)
    (hgiven : given.Spells id) : (hasId n given).holds r = .ok (actual == id) := by
  have hunassigned : r.attributes.get? (n ++ "id") = none := by
    simpa [OrderedMap.contains] using hfree
  have hlookup : r.lookup (n ++ "id") = .guid actual := by
    simp [Record.lookup, hunassigned, Record.primaryAttribute, Record.primaryAttributeOf, hname,
      hid]
  -- After coercion both sides are identifiers, however the condition spells its own.
  have hequal : (Comparable.guid actual).equal (.guid id) = .ok (actual == id) := by
    by_cases h : actual = id <;> simp [Comparable.equal, h]
  have hcoerce := coerce_of_spells hgiven actual
  simp only [holds, hasId, lookup, hlookup, Value.isConcrete, if_true, holdsOn, List.map_cons,
    firstValue, Value.comparable, hcoerce]
  exact congrArg (Except.mapError Fault.breakdown) hequal

end Condition

/-! ## Queries by identifier -/

namespace Query

theorem requireType_of_seeded {s : Snapshot} {n : String} (hn : s.hasType n = true) :
    requireType s (.str n) = .ok () :=
  if_pos hn

theorem requireType_of_unknown {s : Snapshot} {n : String} (hn : s.hasType n = false) :
    requireType s (.str n) = .error (.query (.unknownEntityType (.str n))) :=
  if_neg (Bool.eq_false_iff.mp hn)

/-- The query for the records of a type whose primary attribute equals a value. -/
def byId (n : String) (columns : ColumnSet) (connective : Connective) (given : Value) : Query :=
  ⟨.str n, columns, ⟨connective, [Condition.hasId n given], []⟩, [], [], none⟩

variable {n : String} {columns : ColumnSet} {connective : Connective} {given : Value}
  {s : Snapshot} {id : Guid}

theorem validate_byId_eq (s : Snapshot) : (byId n columns connective given).validate s [] = (do
    requireType s (.str n)
    requireAttributes s (.str n) [.str (n ++ "id")]
    checkLinks s [(none, .str n)] []) := rfl

theorem found_byId_eq (s : Snapshot) : (byId n columns connective given).found s = (do
    (byId n columns connective given).validate s []
    let rows ← ((byId n columns connective given).orderedRows s []).result
    .ok ([], rows)) := rfl

theorem validate_byId (hn : s.hasType n = true) :
    (byId n columns connective given).validate s [] = .ok () := by
  have hattrs : ∀ a ∈ [Json.str (n ++ "id")], a.IsText := by
    simp [Json.IsText]
  have hknown : Known s (.str n) (.str (n ++ "id")) := by
    refine ⟨n, _, rfl, rfl, ?_⟩
    simp [Snapshot.knownAttributes, Record.primaryAttributeOf, hn]
  have hrequired : requireAttributes s (.str n) [.str (n ++ "id")] = .ok () :=
    (requireAttributes_decides hattrs).ok_iff.mpr (by simpa using hknown)
  rw [validate_byId_eq, requireType_of_seeded hn, hrequired]
  rfl

theorem holds_criteria_byId {r : Record} {passes : Bool}
    (h : (Condition.hasId n given).holds r = .ok passes) :
    (byId n columns connective given).criteria.holds r = .ok passes := by
  have hcombine : connective.combine [passes] = passes := by
    cases connective <;> simp [Connective.combine]
  simp only [byId, Filter.holds, List.isEmpty_cons, Bool.false_and, Bool.false_eq_true, if_false,
    List.mapM_cons, h, List.mapM_nil, Filter.holdsEach]
  exact congrArg Except.ok hcombine

/-- Without links, the rows of a query are the records that pass its criteria. -/
theorem rows_of_holds {q : Query} (hq : q.entityName = .str n) {passes : Record → Bool}
    (h : ∀ r ∈ s.scan n, q.criteria.holds r = .ok (passes r)) :
    (q.rows s []).result = .ok (((s.scan n).filter passes).map fun r ↦ ⟨r, []⟩) := by
  have hscan : scan s q.entityName = .ok (s.scan n) := by
    rw [hq]
    rfl
  simp only [rows, PlannedLink.allCandidates, hscan, Traced.silent_ok_bind]
  have hgrow : ∀ r ∈ s.scan n,
      (do if ← Traced.silent (q.criteria.holds r) then JoinedRow.expand [] ⟨r, []⟩ else pure []) =
        if passes r then (pure [⟨r, []⟩] : Traced (List JoinedRow)) else pure [] := by
    intro r hr
    rw [h r hr, Traced.silent_ok_bind]
    rfl
  rw [Traced.flatMap_filter hgrow]
  exact Traced.result_flatMap_pure _ _

/-- A valid query without links, orders and limit is answered with the records that pass its
criteria, projected to its columns. -/
theorem evaluate_of_holds {q : Query} (hq : q.entityName = .str n) (hlinks : q.links = [])
    (horders : q.orders = []) (htop : q.topCount = none) (hvalidated : q.validate s [] = .ok ())
    {passes : Record → Bool} (h : ∀ r ∈ s.scan n, q.criteria.holds r = .ok (passes r))
    (policy : NullPolicy) : (q.evaluate s policy).result =
      .ok ⟨.str n, ((s.scan n).filter passes).map fun r ↦ r.project q.columns policy⟩ := by
  have hplans : q.planLinks = .ok [] := by
    rw [planLinks, hlinks]
    rfl
  have hordered : (q.orderedRows s []).result =
      .ok (((s.scan n).filter passes).map fun r ↦ ⟨r, []⟩) := by
    rw [orderedRows, Traced.result_bind, rows_of_holds hq h, horders, htop]
    rfl
  have hfound : q.found s = .ok ([], ((s.scan n).filter passes).map fun r ↦ ⟨r, []⟩) := by
    simp only [found, hplans, mapError_ok, bind, Except.bind, hvalidated, hordered]
  rw [result_evaluate, hfound, hq]
  simp only [Except.map, List.map_map]
  rfl

theorem evaluate_byId {h : History} (hs : s.Reflects h.current) (hn : s.hasType n = true)
    (hfree : ∀ r ∈ s.scan n, r.attributes.contains (n ++ "id") = false)
    (hgiven : given.Spells id) (policy : NullPolicy) :
    ((byId n columns connective given).evaluate s policy).result =
      .ok ⟨.str n, (s.get? n id).toList.map fun r ↦ r.project columns policy⟩ := by
  have hpasses : ∀ r ∈ s.scan n,
      (byId n columns connective given).criteria.holds r = .ok (decide (r.id = some id)) := by
    intro r hr
    obtain ⟨hname, actual, hid⟩ := hs.identity_of_mem_scan hr
    apply holds_criteria_byId
    rw [Condition.holds_hasId hname hid (hfree r hr) hgiven, hid]
    by_cases heq : actual = id <;> simp [heq]
  rw [← hs.filter_scan n id]
  exact evaluate_of_holds rfl rfl rfl rfl (validate_byId hn) hpasses policy

theorem evaluate_byId_of_unknown (hn : s.hasType n = false) (policy : NullPolicy) :
    ((byId n columns connective given).evaluate s policy).result =
      .error (.query (.unknownEntityType (.str n))) := by
  rw [result_evaluate, found_byId_eq, validate_byId_eq, requireType_of_unknown hn]
  rfl

end Query

/-! ## Requests -/

namespace Context

variable (c : Context)

theorem result_retrieve (entityName : Json) (id : Option Guid) (columns : ColumnSet) :
    (c.retrieve entityName id columns).result =
      (Service.retrieve c.store.contents c.policy entityName id columns).result.map .record := by
  have hanswer : (c.retrieve entityName id columns).result =
      (Service.answerRetrieve c.store.contents c.policy
        (.retrieve entityName id columns)).result := rfl
  rw [hanswer, Service.answerRetrieve, Traced.result_bind]
  cases (Service.retrieve c.store.contents c.policy entityName id columns).result <;> rfl

theorem result_retrieveMultiple (query : Query) :
    (c.retrieveMultiple query).result =
      (query.evaluate c.store.contents c.policy).result.map .collection := by
  have hanswer : (c.retrieveMultiple query).result =
      (Service.answerQuery c.store.contents c.policy (.retrieveMultiple query)).result := rfl
  rw [hanswer, Service.answerQuery, Traced.result_bind]
  cases (query.evaluate c.store.contents c.policy).result <;> rfl

end Context

namespace Service

variable {s : Snapshot} {n : String} {id : Guid} {columns : ColumnSet} {policy : NullPolicy}

theorem retrieve_of_stored (hn : s.hasType n = true) {r : Record} (hr : s.get? n id = some r) :
    (retrieve s policy (.str n) (some id) columns).result = .ok (r.project columns policy) := by
  simp only [retrieve, Query.requireType_of_seeded hn, find?, hr]
  rfl

theorem retrieve_of_not_stored (hn : s.hasType n = true) (hr : s.get? n id = none) :
    (retrieve s policy (.str n) (some id) columns).result =
      .error (.recordNotFound (.str n) (some id)) := by
  simp only [retrieve, Query.requireType_of_seeded hn, find?, hr]
  rfl

theorem retrieve_of_unknown (hn : s.hasType n = false) :
    (retrieve s policy (.str n) (some id) columns).result =
      .error (.query (.unknownEntityType (.str n))) := by
  rw [retrieve, Query.requireType_of_unknown hn]
  rfl

end Service

namespace Store

/-- The types of a store are those of the records that were accepted. -/
theorem Session.Matches.hasType_iff {x : Session} {l : Ledger} (hx : x.Matches l) {n : String} :
    x.store.contents.hasType n = true ↔ ∃ r ∈ l.history, r.logicalName = n := by
  have hcurrent : n ∈ l.history.typeNames ↔
      n ∈ (firstOccurrences (l.history.map Record.identity)).map Prod.fst := by
    rw [← History.map_identity_current, List.map_map, List.mem_map]
    rfl
  rw [hx.contents.hasType_iff, hcurrent, List.mem_map]
  constructor
  · rintro ⟨i, hi, rfl⟩
    obtain ⟨r, hr, rfl⟩ := List.mem_map.mp (mem_firstOccurrences.mp hi)
    exact ⟨r, hr, rfl⟩
  · rintro ⟨r, hr, rfl⟩
    exact ⟨r.identity, mem_firstOccurrences.mpr (List.mem_map_of_mem hr), rfl⟩

/-- Asking for a record and querying for its identifier answer alike: with the record that was
last accepted under the identity, in the requested columns; with none if its type was seeded but
nothing was accepted under the identity; and with a fault if the type was never seeded. -/
theorem Session.retrieve_agrees_with_query (generator : IdGenerator) (strict : Bool)
    (actions : List Action) (policy : NullPolicy) (n : String) (id : Guid) (columns : ColumnSet)
    (connective : Connective) (given : Value) (hgiven : given.Spells id)
    (hfree : ∀ r ∈ (after step (new generator strict) actions).store.contents.scan n,
      r.attributes.contains (n ++ "id") = false) :
    let seeded := accepted (answers step (new generator strict) actions)
    let context : Context := ⟨(after step (new generator strict) actions).store, policy⟩
    let retrieved := (context.retrieve (.str n) (some id) columns).result
    let queried := (context.retrieveMultiple (Query.byId n columns connective given)).result
    (∀ r, History.latest? seeded (n, some id) = some r →
      retrieved = .ok (.record (r.project columns policy)) ∧
      queried = .ok (.collection ⟨.str n, [r.project columns policy]⟩)) ∧
    (History.latest? seeded (n, some id) = none → (∃ r ∈ seeded, r.logicalName = n) →
      retrieved = .error (.recordNotFound (.str n) (some id)) ∧
      queried = .ok (.collection ⟨.str n, []⟩)) ∧
    ((∀ r ∈ seeded, r.logicalName ≠ n) →
      retrieved = .error (.query (.unknownEntityType (.str n))) ∧
      queried = .error (.query (.unknownEntityType (.str n)))) := by
  intro seeded context retrieved queried
  have hx := (matches_new generator strict).after actions
  have hhistory : (after Ledger.step (Ledger.new generator strict) actions).history = seeded := by
    rw [Ledger.history_after, ← (matches_new generator strict).answers_eq]
    rfl
  have hstored : ∀ n id, context.store.contents.get? n id =
      History.latest? seeded (n, some id) := by
    intro n id
    rw [hx.contents.get?_eq, hhistory, History.get?_eq_latest?]
  have htype := hx.hasType_iff (n := n)
  rw [hhistory] at htype
  have hretrieved : retrieved = _ := context.result_retrieve (.str n) (some id) columns
  have hqueried : queried = _ :=
    context.result_retrieveMultiple (Query.byId n columns connective given)
  rw [hretrieved, hqueried, ← hstored]
  refine ⟨fun r hr ↦ ?_, fun hnone hseeded ↦ ?_, fun hunseeded ↦ ?_⟩
  · have hlatest := (hstored n id).symm.trans hr
    have hmem : r ∈ seeded := List.mem_reverse.mp (List.mem_of_find?_eq_some hlatest)
    have hname : r.logicalName = n := congrArg Prod.fst (History.identity_of_latest? hlatest)
    have hn := htype.mpr ⟨r, hmem, hname⟩
    rw [Service.retrieve_of_stored hn hr, Query.evaluate_byId hx.contents hn hfree hgiven, hr]
    exact ⟨rfl, rfl⟩
  · have hn := htype.mpr hseeded
    rw [Service.retrieve_of_not_stored hn hnone,
      Query.evaluate_byId hx.contents hn hfree hgiven, hnone]
    exact ⟨rfl, rfl⟩
  · have hn : context.store.contents.hasType n = false := by
      apply Bool.eq_false_iff.mpr
      intro hn
      obtain ⟨r, hr, hname⟩ := htype.mp hn
      exact hunseeded r hr hname
    rw [Service.retrieve_of_unknown hn, Query.evaluate_byId_of_unknown hn]
    exact ⟨rfl, rfl⟩

def storedAccount : Record :=
  ⟨"account", some (Guid.ofNat 10), OrderedMap.ofList [("name", .text "Acme"), ("phone", .null)]⟩

theorem Session.retrieve_agrees_with_query_example :
    let text := "urn:uuid:\x7b00000000-0000-0000-0000-00000000000A\x7d"
    let context : Context :=
      ⟨(after step (new (.sequential 0) true) [.seed [storedAccount]]).store, .omit⟩
    let query := Query.byId "account" .every .and (.text text)
    let found := storedAccount.project .every .omit
    Guid.parse? text = some (Guid.ofNat 10) ∧
      (context.retrieve (.str "account") (some (Guid.ofNat 10)) .every).result =
        .ok (.record found) ∧
      (context.retrieveMultiple query).result = .ok (.collection ⟨.str "account", [found]⟩) := by
  intro text context query found
  have htext : Guid.parse? text = some (Guid.ofNat 10) := by decide +kernel
  have hfree : ∀ r ∈ context.store.contents.scan "account",
      r.attributes.contains "accountid" = false := by decide
  have hagree := retrieve_agrees_with_query (.sequential 0) true [.seed [storedAccount]] .omit
    "account" (Guid.ofNat 10) .every .and (.text text) (.text htext) hfree
  exact ⟨htext, hagree.1 storedAccount rfl⟩

end Store

end OrgService
