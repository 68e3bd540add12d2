import OrgService.Document.Query
import OrgService.Proofs.Document.SeedFaults

/-!
# Parts of query documents

Filters and links nest in a query document, and at its leaves stand orders, conditions and values.
Reading a part reads the members that the format has as lists, item by item, and the criteria;
whatever else can go wrong is an error of the document.
-/

namespace OrgService

open Json

/-- An error that tells where in a document it arose. -/
def Fault.IsDocument (fault : Fault) : Prop := ∃ place reason, fault = .document place reason

theorem Fault.isDocument_of_eq {α : Type} {place reason : String} {fault : Fault}
    (h : (.error (.document place reason) : Except Fault α) = .error fault) : fault.IsDocument :=
  ⟨place, reason, (Except.error.inj h).symm⟩

namespace Json

def IsScalar : Json → Prop
  | .arr _ | .obj _ | .str _ => False
  | _ => True

theorem lookup_sizeOf_lt {members : List (String × Json)} {name : String} {found : Json}
    (h : members.lookup name = some found) : sizeOf found < sizeOf (Json.obj members) := by
  obtain ⟨before, after, rfl, -⟩ := List.lookup_eq_some_iff.mp h
  have hmem : (name, found) ∈ before ++ (name, found) :: after := by simp
  have hlt := List.sizeOf_lt_of_mem hmem
  simp only [Prod.mk.sizeOf_spec, Json.obj.sizeOf_spec] at hlt ⊢
  omega

/-- Induction over the members of objects and the items of lists among them. -/
theorem member_induction {motive : Json → Prop}
    (step : ∀ raw, (∀ members name found, raw = .obj members → members.lookup name = some found →
      motive found ∧ ∀ items, found = .arr items → ∀ item ∈ items, motive item) → motive raw)
    (raw : Json) : motive raw := by
  induction hsize : sizeOf raw using Nat.strongRecOn generalizing raw with
  | ind n ih =>
      refine step raw fun members name found hraw hfound ↦ ?_
      have hlt : sizeOf found < sizeOf raw := hraw ▸ lookup_sizeOf_lt hfound
      refine ⟨ih (sizeOf found) (hsize ▸ hlt) found rfl, fun items hitems item hitem ↦ ?_⟩
      have hitemlt := List.sizeOf_lt_of_mem hitem
      have hitemslt : sizeOf items < sizeOf found := by simp [hitems]
      apply ih (sizeOf item) _ item rfl
      omega

end Json

/-! ## Parts of a query document -/

namespace QueryDocument

inductive Part
  | query
  | link
  | order
  | filter
  | condition
  | value

/-- The members that the format has as lists. -/
inductive ListMember
  | links
  | orders
  | conditions
  | filters
  | values

def ListMember.name : ListMember → String
  | .links => "links"
  | .orders => "orders"
  | .conditions => "conditions"
  | .filters => "filters"
  | .values => "values"

def ListMember.item : ListMember → Part
  | .links => .link
  | .orders => .order
  | .conditions => .condition
  | .filters => .filter
  | .values => .value

def Part.lists : Part → List ListMember
  | .query => [.links, .orders]
  | .link => [.links]
  | .filter => [.conditions, .filters]
  | .condition => [.values]
  | .order | .value => []

def Part.hasCriteria : Part → Bool
  | .query | .link => true
  | _ => false

/-- What the lists and criteria of a part hold, at any depth, and the part itself. -/
inductive Within : Part → Json → Part → Json → Prop
  | self {part : Part} {raw : Json} : Within part raw part raw
  | item {part inner : Part} {members : List (String × Json)} {list : ListMember}
      {items : List Json} {item raw : Json} (hlist : list ∈ part.lists)
      (hitems : members.lookup list.name = some (.arr items)) (hitem : item ∈ items)
      (h : Within list.item item inner raw) : Within part (.obj members) inner raw
  | criteria {part inner : Part} {members : List (String × Json)} {found raw : Json}
      (hpart : part.hasCriteria) (hfound : members.lookup "criteria" = some found)
      (h : Within .filter found inner raw) : Within part (.obj members) inner raw

/-- What stands where the format has a list, at any depth. -/
def ListAt (part : Part) (raw : Json) (list : ListMember) (found : Json) : Prop :=
  ∃ inner members, Within part raw inner (.obj members) ∧ list ∈ inner.lists ∧
    members.lookup list.name = some found

/-- A text or an object that is read as if it were a list. -/
def IsMisread (list : ListMember) (found : Json) : Prop :=
  ((∃ s, found = .str s) ∨ ∃ members, found = .obj members) ∧
    (list = .values ∨ found.sequence = .ok [])

end QueryDocument

/-! ## Members -/

namespace Json

variable {α : Type} {place name : String} {decode : String → Json → Except Fault α}

theorem sequence_eq_error {raw : Json} {fault : Fault} (h : raw.sequence = .error fault) :
    raw.IsScalar ∧ fault = .breakdown (.notSequence raw.kind) := by
  cases raw <;> simp_all [sequence, IsScalar]

/-- The elements of anything that is a sequence but no list are texts. -/
theorem eq_arr_or_texts_of_sequence {raw : Json} {xs : List Json} (h : raw.sequence = .ok xs) :
    raw = .arr xs ∨ ((∃ s, raw = .str s) ∨ ∃ members, raw = .obj members) ∧
      ∀ x ∈ xs, ∃ s, x = .str s := by
  cases raw with
  | arr items => exact .inl (congrArg Json.arr (Except.ok.inj h))
  | str s =>
      refine .inr ⟨.inl ⟨s, rfl⟩, fun x hx ↦ ?_⟩
      rw [← Except.ok.inj h] at hx
      obtain ⟨c, -, rfl⟩ := List.mem_map.mp hx
      exact ⟨_, rfl⟩
  | obj members =>
      refine .inr ⟨.inr ⟨members, rfl⟩, fun x hx ↦ ?_⟩
      rw [← Except.ok.inj h] at hx
      obtain ⟨m, -, rfl⟩ := List.mem_map.mp hx
      exact ⟨_, rfl⟩
  | _ => contradiction

theorem decodeItems_ok {i : Nat} {xs : List Json} {ys : List α}
    (h : decodeItems place name decode i xs = .ok ys) :
    ∀ x ∈ xs, ∃ place' y, decode place' x = .ok y := by
  induction xs generalizing i ys with
  | nil => simp
  | cons x xs ih =>
      obtain ⟨y, hy, rest⟩ := bind_eq_ok_iff.mp h
      obtain ⟨ys', hys, -⟩ := bind_eq_ok_iff.mp rest
      exact List.forall_mem_cons.mpr ⟨⟨_, y, hy⟩, ih hys⟩

theorem exists_of_mem_decodeItems {i : Nat} {xs : List Json} {ys : List α}
    (h : decodeItems place name decode i xs = .ok ys) :
    ∀ y ∈ ys, ∃ x ∈ xs, ∃ place', decode place' x = .ok y := by
  induction xs generalizing i ys with
  | nil =>
      obtain rfl := Except.ok.inj h
      exact List.forall_mem_nil _
  | cons x xs ih =>
      obtain ⟨y, hy, rest⟩ := bind_eq_ok_iff.mp h
      obtain ⟨ys', hys, hdone⟩ := bind_eq_ok_iff.mp rest
      obtain rfl := Except.ok.inj hdone
      refine List.forall_mem_cons.mpr ⟨⟨x, List.mem_cons_self, _, hy⟩, fun y' hy' ↦ ?_⟩
      obtain ⟨x', hx', hread⟩ := ih hys y' hy'
      exact ⟨x', .tail x hx', hread⟩

theorem decodeItems_error {i : Nat} {xs : List Json} {fault : Fault}
    (h : decodeItems place name decode i xs = .error fault) :
    ∃ x ∈ xs, ∃ place', decode place' x = .error fault := by
  induction xs generalizing i with
  | nil => contradiction
  | cons x xs ih =>
      obtain hx | ⟨y, -, rest⟩ := bind_eq_error_iff.mp h
      · exact ⟨x, List.mem_cons_self, _, hx⟩
      · obtain hxs | ⟨ys, -, hok⟩ := bind_eq_error_iff.mp rest
        · obtain ⟨x', hx', hfails⟩ := ih hxs
          exact ⟨x', List.mem_cons_of_mem x hx', hfails⟩
        · contradiction

variable {members : List (String × Json)} {found : Json}

theorem decodeMember_of_lookup (h : members.lookup name = some found) :
    decodeMember place name decode members =
      found.sequence >>= decodeItems place name decode 0 := by
  simp [decodeMember, h]

theorem decodeMember_ok {ys : List α} (h : decodeMember place name decode members = .ok ys)
    (hfound : members.lookup name = some found) :
    ∃ xs, found.sequence = .ok xs ∧ ∀ x ∈ xs, ∃ place' y, decode place' x = .ok y := by
  rw [decodeMember_of_lookup hfound] at h
  obtain ⟨xs, hxs, hitems⟩ := bind_eq_ok_iff.mp h
  exact ⟨xs, hxs, decodeItems_ok hitems⟩

theorem exists_of_mem_decodeMember {ys : List α}
    (h : decodeMember place name decode members = .ok ys) :
    ∀ y ∈ ys, ∃ found xs, members.lookup name = some found ∧ found.sequence = .ok xs ∧
      ∃ x ∈ xs, ∃ place', decode place' x = .ok y := by
  intro y hy
  cases hfound : members.lookup name with
  | none =>
      rw [decodeMember, hfound] at h
      obtain rfl := Except.ok.inj h
      contradiction
  | some found =>
      rw [decodeMember_of_lookup hfound] at h
      obtain ⟨xs, hxs, hitems⟩ := bind_eq_ok_iff.mp h
      exact ⟨found, xs, rfl, hxs, exists_of_mem_decodeItems hitems y hy⟩

theorem decodeMember_error {fault : Fault}
    (h : decodeMember place name decode members = .error fault) :
    ∃ found, members.lookup name = some found ∧
      ((found.IsScalar ∧ fault = .breakdown (.notSequence found.kind)) ∨
        ∃ xs, found.sequence = .ok xs ∧ ∃ x ∈ xs, ∃ place', decode place' x = .error fault) := by
  cases hfound : members.lookup name with
  | none => simp [decodeMember, hfound] at h
  | some found =>
      rw [decodeMember_of_lookup hfound] at h
      refine ⟨found, rfl, ?_⟩
      obtain hseq | ⟨xs, hxs, hitems⟩ := bind_eq_error_iff.mp h
      · exact .inl (sequence_eq_error hseq)
      · exact .inr ⟨xs, hxs, decodeItems_error hitems⟩

/-- Whatever is no list of objects is read as its elements, none of which is an object. -/
theorem noObjects_eq (hdecode : ∀ place s,
      decode place (.str s) = .error (.document place "expected an object"))
    {raw : Json} (hraw : ∀ items, raw ≠ .arr items) :
    Filter.noObjects place name raw = raw.sequence >>= decodeItems place name decode 0 := by
  unfold Filter.noObjects
  cases hseq : raw.sequence with
  | error fault => rfl
  | ok xs =>
      have htexts := (eq_arr_or_texts_of_sequence hseq).resolve_left (hraw xs)
      cases xs with
      | nil => rfl
      | cons x xs =>
          obtain ⟨s, rfl⟩ := htexts.2 x List.mem_cons_self
          exact (bind_eq_error_iff.mpr (.inl (hdecode _ s))).symm

/-- A search among the members that reads the first one of some name reads that member. -/
theorem eq_decodeMember {list : Json → Except Fault (List α)}
    {nested : List (String × Json) → Except Fault (List α)} (hnil : nested [] = .ok [])
    (hcons : ∀ member rest, nested (member :: rest) =
      if member.1 = name then list member.2 else nested rest)
    (hlist : ∀ raw, list raw = raw.sequence >>= decodeItems place name decode 0)
    (members : List (String × Json)) : nested members = decodeMember place name decode members := by
  induction members with
  | nil => exact hnil
  | cons member rest ih =>
      obtain ⟨key, raw⟩ := member
      rw [hcons]
      by_cases hkey : key = name
      · subst hkey
        rw [if_pos rfl, hlist, decodeMember_of_lookup List.lookup_cons_self]
      · have hlookup : (name == key) = false := by simp [Ne.symm hkey]
        simp only [if_neg hkey, ih, decodeMember, List.lookup_cons, hlookup]

end Json

namespace Filter

theorem decodeEach_eq (place : String) (i : Nat) (items : List Json) :
    decodeEach place i items = decodeItems place "filters" decode i items := by
  induction items generalizing i with
  | nil => rfl
  | cons raw rest ih => simp only [decodeEach, decodeItems, ih]

theorem decodeList_eq (place : String) (raw : Json) :
    decodeList place raw = raw.sequence >>= decodeItems place "filters" decode 0 := by
  unfold decodeList
  split
  · exact decodeEach_eq place 0 _
  · rename_i hraw
    exact noObjects_eq (fun _ _ ↦ rfl) hraw

theorem decodeNested_eq (place : String) (members : List (String × Json)) :
    decodeNested place members = decodeMember place "filters" decode members := by
  have hnil : decodeNested place [] = .ok [] := rfl
  have hcons : ∀ member rest, decodeNested place (member :: rest) =
      if member.1 = "filters" then decodeList place member.2 else decodeNested place rest :=
    fun _ _ ↦ rfl
  exact eq_decodeMember hnil hcons (decodeList_eq place) members

end Filter

namespace Link

theorem decodeEach_eq (place : String) (parent : Json) (i : Nat) (items : List Json) :
    decodeEach place parent i items = decodeItems place "links" (decode · parent) i items := by
  induction items generalizing i with
  | nil => rfl
  | cons raw rest ih => simp only [decodeEach, decodeItems, ih]

theorem decodeList_eq (place : String) (parent raw : Json) :
    decodeList place parent raw =
      raw.sequence >>= decodeItems place "links" (decode · parent) 0 := by
  unfold decodeList
  split
  · exact decodeEach_eq place parent 0 _
  · rename_i hraw
    exact noObjects_eq (fun _ _ ↦ rfl) hraw

theorem decodeNested_eq (place : String) (parent : Json) (members : List (String × Json)) :
    decodeNested place parent members = decodeMember place "links" (decode · parent) members := by
  have hnil : decodeNested place parent [] = .ok [] := rfl
  have hcons : ∀ member rest, decodeNested place parent (member :: rest) =
      if member.1 = "links" then decodeList place parent member.2
      else decodeNested place parent rest :=
    fun _ _ ↦ rfl
  exact eq_decodeMember hnil hcons (decodeList_eq place parent) members

end Link

/-! ## Errors of the document -/

theorem Json.isDocument_of_decodeWord {α : Type} {all : List α} {text : α → String}
    {place : String} {raw : Json} {fault : Fault}
    (h : decodeWord all text place raw = .error fault) : fault.IsDocument := by
  unfold decodeWord at h
  split at h
  · contradiction
  · exact Fault.isDocument_of_eq h

theorem ColumnSet.isDocument_of_decode {place : String} {raw : Json} {fault : Fault}
    (h : decode place raw = .error fault) : fault.IsDocument := by
  unfold decode at h
  split at h
  · contradiction
  · dsimp only at h
    split at h
    · contradiction
    · exact Fault.isDocument_of_eq h

theorem Order.isDocument_of_decode {place : String} {raw : Json} {fault : Fault}
    (h : decode place raw = .error fault) : fault.IsDocument := by
  unfold decode at h
  split at h
  · split at h
    · exact Fault.isDocument_of_eq h
    · obtain hword | ⟨direction, -, hok⟩ := bind_eq_error_iff.mp h
      · exact isDocument_of_decodeWord hword
      · contradiction
  · exact Fault.isDocument_of_eq h

theorem Query.isDocument_of_decodeTopCount {raw : Json} {fault : Fault}
    (h : decodeTopCount raw = .error fault) : fault.IsDocument := by
  unfold decodeTopCount at h
  split at h
  · contradiction
  · contradiction
  · exact Fault.isDocument_of_eq h

theorem Value.isDocument_of_decode {place : String} {raw : Json} {fault : Fault}
    (h : decode place raw = .error fault) :
    fault.IsDocument ∨ (raw.IsInfiniteOption ∧ fault = .breakdown .infiniteInteger) := by
  cases outcome_decode raw with
  | ok v hread => rw [hread] at h; contradiction
  | fault part reason _ hread =>
      rw [hread] at h
      exact .inl (Fault.isDocument_of_eq h)
  | overflow hinfinite hread =>
      rw [hread] at h
      exact .inr ⟨hinfinite, (Except.error.inj h).symm⟩

theorem Link.isDocument_of_required {place name : String} {members : List (String × Json)}
    {fault : Fault} (h : required place name members = .error fault) : fault.IsDocument := by
  unfold required at h
  split at h
  · contradiction
  · exact Fault.isDocument_of_eq h

/-! ## Parts and their members -/

theorem Condition.decode_eq_ok {place : String} {members : List (String × Json)}
    {condition : Condition} (h : decode place (.obj members) = .ok condition) :
    ∃ values, decodeMember place "values" Value.decode members = .ok values := by
  unfold decode at h
  dsimp only at h
  split at h
  · contradiction
  · obtain ⟨operator, -, h⟩ := bind_eq_ok_iff.mp h
    obtain ⟨values, hvalues, -⟩ := bind_eq_ok_iff.mp h
    exact ⟨values, hvalues⟩

theorem Condition.decode_eq_error {place : String} {raw : Json} {fault : Fault}
    (h : decode place raw = .error fault) :
    fault.IsDocument ∨ ∃ members, raw = .obj members ∧
      decodeMember place "values" Value.decode members = .error fault := by
  unfold decode at h
  split at h
  · rename_i members
    split at h
    · exact .inl (Fault.isDocument_of_eq h)
    · obtain hword | ⟨operator, -, h⟩ := bind_eq_error_iff.mp h
      · exact .inl (isDocument_of_decodeWord hword)
      · obtain hvalues | ⟨values, -, hok⟩ := bind_eq_error_iff.mp h
        · exact .inr ⟨members, rfl, hvalues⟩
        · contradiction
  · exact .inl (Fault.isDocument_of_eq h)

theorem Filter.decode_eq_ok {place : String} {members : List (String × Json)} {filter : Filter}
    (h : decode place (.obj members) = .ok filter) :
    (∃ conditions, decodeMember place "conditions" Condition.decode members = .ok conditions) ∧
      ∃ filters, decodeMember place "filters" decode members = .ok filters := by
  unfold decode at h
  obtain ⟨connective, -, h⟩ := bind_eq_ok_iff.mp h
  obtain ⟨conditions, hconditions, h⟩ := bind_eq_ok_iff.mp h
  obtain ⟨filters, hfilters, -⟩ := bind_eq_ok_iff.mp h
  rw [decodeNested_eq] at hfilters
  exact ⟨⟨conditions, hconditions⟩, filters, hfilters⟩

theorem Filter.decode_eq_error {place : String} {raw : Json} {fault : Fault}
    (h : decode place raw = .error fault) :
    fault.IsDocument ∨ ∃ members, raw = .obj members ∧
      (decodeMember place "conditions" Condition.decode members = .error fault ∨
        decodeMember place "filters" decode members = .error fault) := by
  unfold decode at h
  split at h
  · rename_i members
    obtain hword | ⟨connective, -, h⟩ := bind_eq_error_iff.mp h
    · exact .inl (isDocument_of_decodeWord hword)
    · obtain hconditions | ⟨conditions, -, h⟩ := bind_eq_error_iff.mp h
      · exact .inr ⟨members, rfl, .inl hconditions⟩
      · obtain hfilters | ⟨filters, -, hok⟩ := bind_eq_error_iff.mp h
        · rw [decodeNested_eq] at hfilters
          exact .inr ⟨members, rfl, .inr hfilters⟩
        · contradiction
  · exact .inl (Fault.isDocument_of_eq h)

theorem Filter.decodeCriteria_eq_ok {place : String} {members : List (String × Json)}
    {filter : Filter} (h : decodeCriteria place members = .ok filter) {found : Json}
    (hfound : members.lookup "criteria" = some found) :
    decode (place ++ ".criteria") found = .ok filter := by
  simpa [decodeCriteria, hfound] using h

theorem Filter.decodeCriteria_eq_error {place : String} {members : List (String × Json)}
    {fault : Fault} (h : decodeCriteria place members = .error fault) :
    ∃ found, members.lookup "criteria" = some found ∧
      decode (place ++ ".criteria") found = .error fault := by
  cases hfound : members.lookup "criteria" with
  | some found => exact ⟨found, rfl, by simpa [decodeCriteria, hfound] using h⟩
  | none =>
      -- Without criteria, the filter is empty.
      simp only [decodeCriteria, hfound] at h
      contradiction

theorem Link.decode_eq_ok {place : String} {parent : Json} {members : List (String × Json)}
    {link : Link} (h : decode place parent (.obj members) = .ok link) :
    (∃ criteria, Filter.decodeCriteria place members = .ok criteria) ∧
      ∃ toEntity links, decodeMember place "links" (decode · toEntity) members = .ok links := by
  unfold decode at h
  obtain ⟨head, hhead, h⟩ := bind_eq_ok_iff.mp h
  obtain ⟨links, hlinks, -⟩ := bind_eq_ok_iff.mp h
  rw [decodeNested_eq] at hlinks
  refine ⟨?_, head.toEntity, links, hlinks⟩
  unfold decodeHead at hhead
  obtain ⟨toEntity, -, hhead⟩ := bind_eq_ok_iff.mp hhead
  obtain ⟨fromAttr, -, hhead⟩ := bind_eq_ok_iff.mp hhead
  obtain ⟨toAttr, -, hhead⟩ := bind_eq_ok_iff.mp hhead
  obtain ⟨join, -, hhead⟩ := bind_eq_ok_iff.mp hhead
  obtain ⟨columns, -, hhead⟩ := bind_eq_ok_iff.mp hhead
  obtain ⟨criteria, hcriteria, -⟩ := bind_eq_ok_iff.mp hhead
  exact ⟨criteria, hcriteria⟩

theorem Link.decodeHead_eq_error {place : String} {parent : Json}
    {members : List (String × Json)} {fault : Fault}
    (h : decodeHead place parent members = .error fault) :
    fault.IsDocument ∨ Filter.decodeCriteria place members = .error fault := by
  unfold decodeHead at h
  obtain hrequired | ⟨toEntity, -, h⟩ := bind_eq_error_iff.mp h
  · exact .inl (isDocument_of_required hrequired)
  obtain hrequired | ⟨fromAttr, -, h⟩ := bind_eq_error_iff.mp h
  · exact .inl (isDocument_of_required hrequired)
  obtain hrequired | ⟨toAttr, -, h⟩ := bind_eq_error_iff.mp h
  · exact .inl (isDocument_of_required hrequired)
  obtain hword | ⟨join, -, h⟩ := bind_eq_error_iff.mp h
  · exact .inl (isDocument_of_decodeWord hword)
  obtain hcolumns | ⟨columns, -, h⟩ := bind_eq_error_iff.mp h
  · exact .inl (ColumnSet.isDocument_of_decode hcolumns)
  obtain hcriteria | ⟨criteria, -, hok⟩ := bind_eq_error_iff.mp h
  · exact .inr hcriteria
  · contradiction

theorem Link.decode_eq_error {place : String} {parent raw : Json} {fault : Fault}
    (h : decode place parent raw = .error fault) :
    fault.IsDocument ∨ ∃ members, raw = .obj members ∧
      (Filter.decodeCriteria place members = .error fault ∨
        ∃ toEntity, decodeMember place "links" (decode · toEntity) members = .error fault) := by
  unfold decode at h
  split at h
  · rename_i members
    obtain hhead | ⟨head, -, h⟩ := bind_eq_error_iff.mp h
    · exact (decodeHead_eq_error hhead).imp_right fun hcriteria ↦ ⟨members, rfl, .inl hcriteria⟩
    · obtain hlinks | ⟨links, -, hok⟩ := bind_eq_error_iff.mp h
      · rw [decodeNested_eq] at hlinks
        exact .inr ⟨members, rfl, .inr ⟨head.toEntity, hlinks⟩⟩
      · contradiction
  · exact .inl (Fault.isDocument_of_eq h)

theorem Query.decode_eq_ok {members : List (String × Json)} {query : Query}
    (h : decode (.obj members) = .ok query) :
    (∃ criteria, Filter.decodeCriteria "query" members = .ok criteria) ∧
      (∃ entityName links,
        decodeMember "query" "links" (Link.decode · entityName) members = .ok links) ∧
      ∃ orders, decodeMember "query" "orders" Order.decode members = .ok orders := by
  unfold decode at h
  dsimp only at h
  split at h
  · contradiction
  · rename_i entityName _
    obtain ⟨columns, -, h⟩ := bind_eq_ok_iff.mp h
    obtain ⟨criteria, hcriteria, h⟩ := bind_eq_ok_iff.mp h
    obtain ⟨links, hlinks, h⟩ := bind_eq_ok_iff.mp h
    obtain ⟨orders, horders, -⟩ := bind_eq_ok_iff.mp h
    rw [Link.decodeNested_eq] at hlinks
    exact ⟨⟨criteria, hcriteria⟩, ⟨entityName, links, hlinks⟩, orders, horders⟩

theorem Query.decode_eq_error {raw : Json} {fault : Fault} (h : decode raw = .error fault) :
    fault.IsDocument ∨ ∃ members, raw = .obj members ∧
      (Filter.decodeCriteria "query" members = .error fault ∨
        (∃ entityName,
          decodeMember "query" "links" (Link.decode · entityName) members = .error fault) ∨
        decodeMember "query" "orders" Order.decode members = .error fault) := by
  unfold decode at h
  split at h
  · rename_i members
    split at h
    · exact .inl (Fault.isDocument_of_eq h)
    · rename_i entityName _
      obtain hcolumns | ⟨columns, -, h⟩ := bind_eq_error_iff.mp h
      · exact .inl (ColumnSet.isDocument_of_decode hcolumns)
      obtain hcriteria | ⟨criteria, -, h⟩ := bind_eq_error_iff.mp h
      · exact .inr ⟨members, rfl, .inl hcriteria⟩
      obtain hlinks | ⟨links, -, h⟩ := bind_eq_error_iff.mp h
      · rw [Link.decodeNested_eq] at hlinks
        exact .inr ⟨members, rfl, .inr (.inl ⟨entityName, hlinks⟩)⟩
      obtain horders | ⟨orders, -, h⟩ := bind_eq_error_iff.mp h
      · exact .inr ⟨members, rfl, .inr (.inr horders)⟩
      obtain htop | ⟨topCount, -, hok⟩ := bind_eq_error_iff.mp h
      · exact .inl (isDocument_of_decodeTopCount htop)
      · contradiction
  · exact .inl (Fault.isDocument_of_eq h)

end OrgService
