import OrgService.Proofs.Document.QueryParts

/-!
# Faults of query documents

Reading a query document fails with the fault of one of its parts, and succeeds only if all of them
can be read. The faults are errors of the document but for two cases: a scalar where the format has
a list, and an infinite option as a value. A text or an object in place of a list of values is read
in its stead; in place of a list of objects it can only pass if it is empty.
-/

namespace OrgService

open Json

namespace QueryDocument

/-- What reading a part comes to, apart from what is made of it. -/
def Part.check (place : String) (parent raw : Json) : Part → Except Fault Unit
  | .query => (Query.decode raw).map fun _ ↦ ()
  | .link => (Link.decode place parent raw).map fun _ ↦ ()
  | .order => (Order.decode place raw).map fun _ ↦ ()
  | .filter => (Filter.decode place raw).map fun _ ↦ ()
  | .condition => (Condition.decode place raw).map fun _ ↦ ()
  | .value => (Value.decode place raw).map fun _ ↦ ()

def Accepted (part : Part) (raw : Json) : Prop :=
  ∃ place parent, part.check place parent raw = .ok ()

def Rejected (part : Part) (raw : Json) (fault : Fault) : Prop :=
  ∃ place parent, part.check place parent raw = .error fault

section ReadBy

variable {α : Type} {part : Part} {decode : String → Json → Except Fault α} {place : String}
  {raw : Json}

/-- The reader of a part, given what it hangs from. -/
def Part.ReadBy (part : Part) (decode : String → Json → Except Fault α) : Prop :=
  ∀ place raw, ∃ parent, part.check place parent raw = (decode place raw).map fun _ ↦ ()

theorem Part.ReadBy.accepted (hread : part.ReadBy decode) {a : α}
    (h : decode place raw = .ok a) : Accepted part raw := by
  obtain ⟨parent, hcheck⟩ := hread place raw
  exact ⟨place, parent, hcheck.trans (map_eq_ok_iff.mpr ⟨a, h, rfl⟩)⟩

theorem Part.ReadBy.rejected (hread : part.ReadBy decode) {fault : Fault}
    (h : decode place raw = .error fault) : Rejected part raw fault := by
  obtain ⟨parent, hcheck⟩ := hread place raw
  exact ⟨place, parent, hcheck.trans (map_eq_error_iff.mpr h)⟩

theorem link_readBy (parent : Json) : Part.link.ReadBy (Link.decode · parent) :=
  fun _ _ ↦ ⟨parent, rfl⟩

theorem order_readBy : Part.order.ReadBy Order.decode := fun _ _ ↦ ⟨.null, rfl⟩

theorem filter_readBy : Part.filter.ReadBy Filter.decode := fun _ _ ↦ ⟨.null, rfl⟩

theorem condition_readBy : Part.condition.ReadBy Condition.decode := fun _ _ ↦ ⟨.null, rfl⟩

theorem value_readBy : Part.value.ReadBy Value.decode := fun _ _ ↦ ⟨.null, rfl⟩

end ReadBy

/-! ## Accepted documents -/

section Accepted

variable {part : Part} {list : ListMember} {raw found : Json} {members : List (String × Json)}

theorem accepted_items {α : Type} {place : String} {decode : String → Json → Except Fault α}
    {as : List α} (hread : list.item.ReadBy decode)
    (htext : list = .values ∨ ∀ place s a, decode place (.str s) ≠ .ok a)
    (h : decodeMember place list.name decode members = .ok as)
    (hfound : members.lookup list.name = some found) :
    IsMisread list found ∨
      ∃ items, found = .arr items ∧ ∀ item ∈ items, Accepted list.item item := by
  obtain ⟨xs, hxs, hall⟩ := decodeMember_ok h hfound
  obtain rfl | ⟨hshape, htexts⟩ := eq_arr_or_texts_of_sequence hxs
  · refine .inr ⟨xs, rfl, fun item hitem ↦ ?_⟩
    obtain ⟨place', a, ha⟩ := hall item hitem
    exact hread.accepted ha
  · refine .inl ⟨hshape, htext.imp_right fun hrefused ↦ ?_⟩
    cases xs with
    | nil => exact hxs
    | cons x xs =>
        obtain ⟨s, rfl⟩ := htexts x List.mem_cons_self
        obtain ⟨place', a, ha⟩ := hall _ List.mem_cons_self
        exact absurd ha (hrefused place' s a)

theorem Accepted.listMember (h : Accepted part (.obj members)) (hlist : list ∈ part.lists)
    (hfound : members.lookup list.name = some found) :
    IsMisread list found ∨
      ∃ items, found = .arr items ∧ ∀ item ∈ items, Accepted list.item item := by
  obtain ⟨place, parent, h⟩ := h
  cases part with
  | query =>
      obtain ⟨query, hquery, -⟩ := map_eq_ok_iff.mp h
      obtain ⟨-, ⟨entityName, links, hlinks⟩, orders, horders⟩ := Query.decode_eq_ok hquery
      obtain rfl | rfl : list = .links ∨ list = .orders := by simpa [Part.lists] using hlist
      · exact accepted_items (link_readBy _) (.inr fun _ _ _ ↦ nofun) hlinks hfound
      · exact accepted_items order_readBy (.inr fun _ _ _ ↦ nofun) horders hfound
  | link =>
      obtain ⟨link, hlink, -⟩ := map_eq_ok_iff.mp h
      obtain ⟨-, toEntity, links, hlinks⟩ := Link.decode_eq_ok hlink
      obtain rfl : list = .links := by simpa [Part.lists] using hlist
      exact accepted_items (link_readBy _) (.inr fun _ _ _ ↦ nofun) hlinks hfound
  | filter =>
      obtain ⟨filter, hfilter, -⟩ := map_eq_ok_iff.mp h
      obtain ⟨⟨conditions, hconditions⟩, filters, hfilters⟩ := Filter.decode_eq_ok hfilter
      obtain rfl | rfl : list = .conditions ∨ list = .filters := by
        simpa [Part.lists] using hlist
      · exact accepted_items condition_readBy (.inr fun _ _ _ ↦ nofun) hconditions hfound
      · exact accepted_items filter_readBy (.inr fun _ _ _ ↦ nofun) hfilters hfound
  | condition =>
      obtain ⟨condition, hcondition, -⟩ := map_eq_ok_iff.mp h
      obtain ⟨values, hvalues⟩ := Condition.decode_eq_ok hcondition
      obtain rfl : list = .values := by simpa [Part.lists] using hlist
      exact accepted_items value_readBy (.inl rfl) hvalues hfound
  | order => simp [Part.lists] at hlist
  | value => simp [Part.lists] at hlist

theorem Accepted.criteria (h : Accepted part (.obj members)) (hpart : part.hasCriteria)
    (hfound : members.lookup "criteria" = some found) : Accepted .filter found := by
  obtain ⟨place, parent, h⟩ := h
  cases part with
  | query =>
      obtain ⟨query, hquery, -⟩ := map_eq_ok_iff.mp h
      obtain ⟨⟨criteria, hcriteria⟩, -⟩ := Query.decode_eq_ok hquery
      exact filter_readBy.accepted (Filter.decodeCriteria_eq_ok hcriteria hfound)
  | link =>
      obtain ⟨link, hlink, -⟩ := map_eq_ok_iff.mp h
      obtain ⟨⟨criteria, hcriteria⟩, -⟩ := Link.decode_eq_ok hlink
      exact filter_readBy.accepted (Filter.decodeCriteria_eq_ok hcriteria hfound)
  | _ => contradiction

/-- Every part of a document that can be read can be read. -/
theorem Accepted.within {inner : Part} {x : Json} (hwithin : Within part raw inner x)
    (h : Accepted part raw) : Accepted inner x := by
  induction hwithin with
  | self => exact h
  | item hlist hitems hitem _ ih =>
      obtain hmisread | ⟨items', heq, hall⟩ := h.listMember hlist hitems
      · -- What holds an item is a list, and a list is not misread as one.
        obtain ⟨⟨s, hs⟩ | ⟨members', hobj⟩, -⟩ := hmisread
        · contradiction
        · contradiction
      · obtain rfl := Json.arr.inj heq
        exact ih (hall _ hitem)
  | criteria hpart hfound _ ih => exact ih (h.criteria hpart hfound)

theorem Accepted.listAt (h : Accepted part raw) (hat : ListAt part raw list found) :
    IsMisread list found ∨ ∃ items, found = .arr items := by
  obtain ⟨inner, members, hwithin, hlist, hfound⟩ := hat
  have hinner := h.within hwithin
  exact (hinner.listMember hlist hfound).imp_right fun ⟨items, heq, _⟩ ↦ ⟨items, heq⟩

end Accepted

/-! ## Rejected documents -/

section Rejected

/-- Where the fault of a part comes from. -/
inductive Origin (fault : Fault) : Part → Json → Prop
  | document {part : Part} {raw : Json} (h : fault.IsDocument) : Origin fault part raw
  | scalar {part : Part} {members : List (String × Json)} {list : ListMember} {found : Json}
      (hlist : list ∈ part.lists) (hfound : members.lookup list.name = some found)
      (hscalar : found.IsScalar) (h : fault = .breakdown (.notSequence found.kind)) :
      Origin fault part (.obj members)
  | item {part : Part} {members : List (String × Json)} {list : ListMember}
      {items : List Json} {item : Json} (hlist : list ∈ part.lists)
      (hitems : members.lookup list.name = some (.arr items)) (hitem : item ∈ items)
      (h : Rejected list.item item fault) : Origin fault part (.obj members)
  | criteria {part : Part} {members : List (String × Json)} {found : Json}
      (hpart : part.hasCriteria) (hfound : members.lookup "criteria" = some found)
      (h : Rejected .filter found fault) : Origin fault part (.obj members)
  | infinite {raw : Json} (hinfinite : raw.IsInfiniteOption)
      (h : fault = .breakdown .infiniteInteger) : Origin fault .value raw

variable {part : Part} {list : ListMember} {raw found : Json} {members : List (String × Json)}
  {fault : Fault}

theorem Origin.ofMember {α : Type} {place : String} {decode : String → Json → Except Fault α}
    (list : ListMember) (hlist : list ∈ part.lists)
    (hread : list.item.ReadBy decode)
    (htext : ∀ {place s fault}, decode place (.str s) = .error fault → fault.IsDocument)
    (h : decodeMember place list.name decode members = .error fault) :
    Origin fault part (.obj members) := by
  obtain ⟨found, hfound, ⟨hscalar, hfault⟩ | ⟨xs, hxs, x, hx, place', hfails⟩⟩ :=
    decodeMember_error h
  · exact .scalar hlist hfound hscalar hfault
  · obtain rfl | ⟨-, htexts⟩ := eq_arr_or_texts_of_sequence hxs
    · exact .item hlist hfound hx (hread.rejected hfails)
    · obtain ⟨s, rfl⟩ := htexts x hx
      exact .document (htext hfails)

theorem Origin.ofCriteria {place : String} (hpart : part.hasCriteria)
    (h : Filter.decodeCriteria place members = .error fault) :
    Origin fault part (.obj members) := by
  obtain ⟨found, hfound, hfails⟩ := Filter.decodeCriteria_eq_error h
  exact .criteria hpart hfound (filter_readBy.rejected hfails)

theorem Rejected.origin (h : Rejected part raw fault) : Origin fault part raw := by
  obtain ⟨place, parent, h⟩ := h
  cases part with
  | query =>
      obtain hdocument | ⟨members, rfl, hcriteria | ⟨entityName, hlinks⟩ | horders⟩ :=
        Query.decode_eq_error (map_eq_error_iff.mp h)
      · exact .document hdocument
      · exact .ofCriteria rfl hcriteria
      · exact .ofMember .links (by simp [Part.lists]) (link_readBy _) Fault.isDocument_of_eq hlinks
      · exact .ofMember .orders (by simp [Part.lists]) order_readBy Fault.isDocument_of_eq horders
  | link =>
      obtain hdocument | ⟨members, rfl, hcriteria | ⟨toEntity, hlinks⟩⟩ :=
        Link.decode_eq_error (map_eq_error_iff.mp h)
      · exact .document hdocument
      · exact .ofCriteria rfl hcriteria
      · exact .ofMember .links (by simp [Part.lists]) (link_readBy _) Fault.isDocument_of_eq hlinks
  | filter =>
      obtain hdocument | ⟨members, rfl, hconditions | hfilters⟩ :=
        Filter.decode_eq_error (map_eq_error_iff.mp h)
      · exact .document hdocument
      · exact .ofMember .conditions (by simp [Part.lists]) condition_readBy Fault.isDocument_of_eq
          hconditions
      · exact .ofMember .filters (by simp [Part.lists]) filter_readBy Fault.isDocument_of_eq
          hfilters
  | condition =>
      obtain hdocument | ⟨members, rfl, hvalues⟩ :=
        Condition.decode_eq_error (map_eq_error_iff.mp h)
      · exact .document hdocument
      · exact .ofMember .values (by simp [Part.lists]) value_readBy nofun hvalues
  | order => exact .document (Order.isDocument_of_decode (map_eq_error_iff.mp h))
  | value =>
      obtain hdocument | ⟨hinfinite, hfault⟩ :=
        Value.isDocument_of_decode (map_eq_error_iff.mp h)
      · exact .document hdocument
      · exact .infinite hinfinite hfault

/-- The faults that reading a part can have. -/
def MayFail (part : Part) (raw : Json) (fault : Fault) : Prop :=
  fault.IsDocument ∨
    (∃ list found, ListAt part raw list found ∧ found.IsScalar ∧
      fault = .breakdown (.notSequence found.kind)) ∨
    ∃ option, Within part raw .value option ∧ option.IsInfiniteOption ∧
      fault = .breakdown .infiniteInteger

theorem MayFail.mono {part' : Part} {raw' : Json} (h : MayFail part raw fault)
    (hwithin : ∀ {inner x}, Within part raw inner x → Within part' raw' inner x) :
    MayFail part' raw' fault := by
  obtain hdocument | ⟨list, found, hat, hscalar, hfault⟩ | ⟨option, hin, hinfinite, hfault⟩ := h
  · exact .inl hdocument
  · obtain ⟨inner, members, hin, hlist, hfound⟩ := hat
    exact .inr (.inl ⟨list, found, ⟨inner, members, hwithin hin, hlist, hfound⟩, hscalar, hfault⟩)
  · exact .inr (.inr ⟨option, hwithin hin, hinfinite, hfault⟩)

theorem Rejected.mayFail (h : Rejected part raw fault) : MayFail part raw fault := by
  induction raw using member_induction generalizing part with
  | step raw ih =>
      cases h.origin with
      | document hdocument => exact .inl hdocument
      | scalar hlist hfound hscalar hfault =>
          exact .inr (.inl ⟨_, _, ⟨part, _, .self, hlist, hfound⟩, hscalar, hfault⟩)
      | item hlist hitems hitem hrejected =>
          have hinner := (ih _ _ _ rfl hitems).2 _ rfl _ hitem hrejected
          exact hinner.mono (Within.item hlist hitems hitem)
      | criteria hpart hfound hrejected =>
          have hinner := (ih _ _ _ rfl hfound).1 hrejected
          exact hinner.mono (Within.criteria hpart hfound)
      | infinite hinfinite hfault => exact .inr (.inr ⟨raw, .self, hinfinite, hfault⟩)

end Rejected

end QueryDocument

open QueryDocument

/-- A query document that can be read has lists where the format has them, but for what is misread
as a list. One that cannot be read has an error in it, a scalar in place of a list or an infinite
option as a value. Without scalars and misread documents in place of lists and without infinite
options, reading keeps to the format: it finds lists only or an error of the document. -/
theorem Query.decode_outcomes (raw : Json) :
    (∀ query, decode raw = .ok query → ∀ list found, ListAt .query raw list found →
      (∃ items, found = .arr items) ∨ IsMisread list found) ∧
    (∀ fault, decode raw = .error fault →
      fault.IsDocument ∨
      (∃ list found, ListAt .query raw list found ∧ found.IsScalar ∧
        fault = .breakdown (.notSequence found.kind)) ∨
      ∃ option, Within .query raw .value option ∧ option.IsInfiniteOption ∧
        fault = .breakdown .infiniteInteger) ∧
    ((∀ list found, ListAt .query raw list found → ¬found.IsScalar ∧ ¬IsMisread list found) →
      (∀ option, Within .query raw .value option → ¬option.IsInfiniteOption) →
      (∃ query, decode raw = .ok query ∧
        ∀ list found, ListAt .query raw list found → ∃ items, found = .arr items) ∨
      ∃ fault, decode raw = .error fault ∧ fault.IsDocument) := by
  have hlists : ∀ query, decode raw = .ok query → ∀ list found, ListAt .query raw list found →
      (∃ items, found = .arr items) ∨ IsMisread list found := by
    intro query hquery list found hat
    have haccepted : Accepted .query raw := ⟨"", .null, map_eq_ok_iff.mpr ⟨query, hquery, rfl⟩⟩
    exact (haccepted.listAt hat).symm
  have hfaults : ∀ fault, decode raw = .error fault → MayFail .query raw fault := by
    intro fault hfault
    have hrejected : Rejected .query raw fault := ⟨"", .null, map_eq_error_iff.mpr hfault⟩
    exact hrejected.mayFail
  refine ⟨hlists, hfaults, fun hproper hfinite ↦ ?_⟩
  cases hread : decode raw with
  | ok query =>
      refine .inl ⟨query, rfl, fun list found hat ↦ ?_⟩
      exact (hlists query hread list found hat).resolve_right (hproper list found hat).2
  | error fault =>
      refine .inr ⟨fault, rfl, ?_⟩
      obtain hdocument | ⟨list, found, hat, hscalar, -⟩ | ⟨option, hin, hinfinite, -⟩ :=
        hfaults fault hread
      · exact hdocument
      · exact absurd hscalar (hproper list found hat).1
      · exact absurd hinfinite (hfinite option hin)

/-- A text in place of a list of values stands for its characters. -/
example : Condition.decode "c" (.obj [("attribute", .str "x"), ("values", .str "ab")]) =
    .ok ⟨.str "x", .equal, [.text "a", .text "b"]⟩ := by
  rfl

def nullOrders : Json := .obj [("entity_name", .str "a"), ("orders", .null)]

/-- The orders are no list, and no error tells so. -/
theorem Query.not_isDocument_nullOrders :
    ListAt .query nullOrders .orders .null ∧
      ∀ place reason, decode nullOrders ≠ .error (.document place reason) := by
  have hread : decode nullOrders = .error (.breakdown (.notSequence "NoneType")) := by rfl
  refine ⟨⟨.query, _, .self, by simp [Part.lists], rfl⟩, fun place reason h ↦ ?_⟩
  simp [hread] at h

end OrgService
