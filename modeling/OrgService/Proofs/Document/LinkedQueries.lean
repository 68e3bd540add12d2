import OrgService.Proofs.Document.QueryParts
import OrgService.Proofs.Query.Building

/-!
# Queries that are read from documents

A link in a document need not say which type it starts from: it then starts from the type that the
link around it leads to, or from that of the query. So a query that is read from a document without
such members hangs together, as one does that is built step by step.
-/

namespace OrgService

open Json

namespace QueryDocument

/-- A link names its target by a text, calls itself by a text if at all, and does not say what it
starts from. -/
structure LeavesSourceOpen (members : List (String × Json)) : Prop where
  target : ∀ name, members.lookup "to_entity" = some name → name.IsText
  called : ∀ name, members.lookup "alias" = some name → name = .null ∨ name.IsText
  source : members.lookup "from_entity" = none

/-- A query names its type by a text, and all links in it leave their source open. -/
structure LeavesSourcesOpen (raw : Json) : Prop where
  base : ∀ members name, raw = .obj members → members.lookup "entity_name" = some name →
    name.IsText
  links : ∀ members, Within .query raw .link (.obj members) → LeavesSourceOpen members

end QueryDocument

open QueryDocument

namespace Link

/-- What a link takes from the members of its document. -/
theorem decode_members {place : String} {parent : Json} {members : List (String × Json)}
    {link : Link} (h : decode place parent (.obj members) = .ok link) :
    link.fromEntity = (members.lookup "from_entity").getD parent ∧
      members.lookup "to_entity" = some link.toEntity ∧
      link.aliasName = (members.lookup "alias").getD .null ∧
      decodeMember place "links" (decode · link.toEntity) members = .ok link.links := by
  unfold decode at h
  obtain ⟨head, hhead, h⟩ := bind_eq_ok_iff.mp h
  obtain ⟨links, hlinks, h⟩ := bind_eq_ok_iff.mp h
  rw [decodeNested_eq] at hlinks
  obtain rfl := Except.ok.inj h
  unfold decodeHead at hhead
  obtain ⟨toEntity, hto, hhead⟩ := bind_eq_ok_iff.mp hhead
  obtain ⟨fromAttr, -, hhead⟩ := bind_eq_ok_iff.mp hhead
  obtain ⟨toAttr, -, hhead⟩ := bind_eq_ok_iff.mp hhead
  obtain ⟨join, -, hhead⟩ := bind_eq_ok_iff.mp hhead
  obtain ⟨columns, -, hhead⟩ := bind_eq_ok_iff.mp hhead
  obtain ⟨criteria, -, hhead⟩ := bind_eq_ok_iff.mp hhead
  obtain rfl := Except.ok.inj hhead
  have htarget : members.lookup "to_entity" = some toEntity := by
    unfold required at hto
    split at hto
    · rename_i found hfound
      exact Except.ok.inj hto ▸ hfound
    · contradiction
  exact ⟨rfl, htarget, rfl, hlinks⟩

theorem hangsFrom_of_members {place : String} {parent : Json} {members : List (String × Json)}
    {link : Link} (hopen : LeavesSourceOpen members)
    (h : decode place parent (.obj members) = .ok link) : link.HangsFrom parent := by
  obtain ⟨hsource, htarget, hcalled, -⟩ := decode_members h
  refine ⟨?_, hopen.target _ htarget, ?_⟩
  · rw [hsource, hopen.source]
    rfl
  · unfold CalledByText
    rw [hcalled]
    cases halias : members.lookup "alias" with
    | none => exact .inl rfl
    | some name => exact hopen.called name halias

/-- The links of a part are read from objects in a list. -/
theorem exists_object_of_mem {place : String} {parent : Json} {members : List (String × Json)}
    {ls : List Link} (h : decodeMember place "links" (decode · parent) members = .ok ls) :
    ∀ l ∈ ls, ∃ items inner place', members.lookup "links" = some (.arr items) ∧
      .obj inner ∈ items ∧ decode place' parent (.obj inner) = .ok l := by
  intro l hl
  obtain ⟨found, xs, hfound, hxs, x, hx, place', hread⟩ := exists_of_mem_decodeMember h l hl
  cases x with
  | obj inner =>
      obtain rfl | ⟨-, htexts⟩ := eq_arr_or_texts_of_sequence hxs
      · exact ⟨xs, inner, place', hfound, hx, hread⟩
      · obtain ⟨s, hs⟩ := htexts _ hx
        contradiction
  | _ => contradiction

/-- A link that is read from a document hangs from the type that it is read below, and so do the
links below it. -/
theorem hangsFrom_of_decode {raw : Json} {place : String} {parent : Json} {link : Link}
    (hopen : ∀ members, Within .link raw .link (.obj members) → LeavesSourceOpen members)
    (h : decode place parent raw = .ok link) :
    link.HangsFrom parent ∧ AllHang link.toEntity link.links := by
  induction raw using member_induction generalizing place parent link with
  | step raw ih =>
      cases raw with
      | obj members =>
          refine ⟨hangsFrom_of_members (hopen members .self) h, allHang_iff.mpr fun l hl ↦ ?_⟩
          obtain ⟨-, -, -, hlinks⟩ := decode_members h
          obtain ⟨items, inner, place', hitems, hmem, hread⟩ := exists_object_of_mem hlinks l hl
          have hlist : ListMember.links ∈ Part.link.lists := List.mem_cons_self
          refine (ih members "links" (.arr items) rfl hitems).2 items rfl _ hmem ?_ hread
          exact fun members' hwithin ↦ hopen members' (.item hlist hitems hmem hwithin)
      | _ => contradiction

end Link

namespace Query

theorem decode_members {members : List (String × Json)} {q : Query}
    (h : decode (.obj members) = .ok q) :
    members.lookup "entity_name" = some q.entityName ∧
      decodeMember "query" "links" (Link.decode · q.entityName) members = .ok q.links := by
  unfold decode at h
  dsimp only at h
  split at h
  · contradiction
  · rename_i entityName hname
    obtain ⟨columns, -, h⟩ := bind_eq_ok_iff.mp h
    obtain ⟨criteria, -, h⟩ := bind_eq_ok_iff.mp h
    obtain ⟨links, hlinks, h⟩ := bind_eq_ok_iff.mp h
    obtain ⟨orders, -, h⟩ := bind_eq_ok_iff.mp h
    obtain ⟨topCount, -, h⟩ := bind_eq_ok_iff.mp h
    rw [Link.decodeNested_eq] at hlinks
    obtain rfl := Except.ok.inj h
    exact ⟨hname, hlinks⟩

theorem hangsTogether_of_decode {raw : Json} {q : Query} (hopen : LeavesSourcesOpen raw)
    (h : decode raw = .ok q) : q.HangsTogether := by
  cases raw with
  | obj members =>
      obtain ⟨hname, hlinks⟩ := decode_members h
      refine ⟨hopen.base members _ rfl hname, Link.allHang_iff.mpr fun l hl ↦ ?_⟩
      obtain ⟨items, inner, place, hitems, hmem, hread⟩ := Link.exists_object_of_mem hlinks l hl
      have hlist : ListMember.links ∈ Part.query.lists := List.mem_cons_self
      refine Link.hangsFrom_of_decode (fun members' hwithin ↦ ?_) hread
      exact hopen.links members' (.item hlist hitems hmem hwithin)
  | _ => contradiction

/-- Whatever the snapshot, a query is never told that a link starts from another type than the one
it hangs from, if it was built step by step or read from a document whose links leave open what they
start from. -/
theorem evaluate_ne_misplacedLink :
    (∀ entityName steps s policy a b c, ((build entityName steps).evaluate s policy).result ≠
      .error (.query (.misplacedLink a b c))) ∧
    ∀ raw q, LeavesSourcesOpen raw → decode raw = .ok q → ∀ s policy a b c,
      (q.evaluate s policy).result ≠ .error (.query (.misplacedLink a b c)) := by
  have hnever : ∀ q : Query, q.HangsTogether → ∀ s policy a b c,
      (q.evaluate s policy).result ≠ .error (.query (.misplacedLink a b c)) :=
    fun q hq s policy a b c h ↦ hq.evaluate_neverMisplaces s policy _ h trivial
  constructor
  · intro entityName steps
    exact hnever _ (build_hangsTogether entityName steps)
  · intro raw q hopen hread
    exact hnever q (hangsTogether_of_decode hopen hread)

end Query

/-! ## An example -/

namespace QueryDocument

theorem ListMember.eq_links {list : ListMember} (h : list.item = .query ∨ list.item = .link) :
    list = .links := by
  cases list with
  | links => rfl
  | _ => simp [ListMember.item] at h

/-- Links are found in queries and links only. -/
theorem holdsLinks_of_within {part inner : Part} {raw found : Json}
    (h : Within part raw inner found) (hinner : inner = .link) : part = .query ∨ part = .link := by
  induction h with
  | self => exact .inr hinner
  | @item part _ _ list _ _ _ hlist _ _ _ ih =>
      obtain rfl := ListMember.eq_links (ih hinner)
      cases part <;> simp_all [Part.lists]
  | criteria _ _ _ ih => simpa using ih hinner

/-- A link within a part is the part, or stands within one of the links of the part. -/
theorem exists_item_of_within_link {part : Part} {members inner : List (String × Json)}
    (h : Within part (.obj members) .link (.obj inner)) :
    part = .link ∧ inner = members ∨ ∃ items item, members.lookup "links" = some (.arr items) ∧
      item ∈ items ∧ Within .link item .link (.obj inner) := by
  cases h with
  | self => exact .inl ⟨rfl, rfl⟩
  | item hlist hitems hitem h =>
      obtain rfl := ListMember.eq_links (holdsLinks_of_within h rfl)
      exact .inr ⟨_, _, hitems, hitem, h⟩
  | criteria hpart hfound h => simpa using holdsLinks_of_within h rfl

/-- From each contact back to its account. -/
def ownerMembers : List (String × Json) :=
  [("to_entity", .str "account"), ("from_attribute", .str "parent"),
    ("to_attribute", .str "accountid"), ("alias", .str "owner")]

def contactMembers : List (String × Json) :=
  [("to_entity", .str "contact"), ("from_attribute", .str "accountid"),
    ("to_attribute", .str "parent"), ("links", .arr [.obj ownerMembers])]

/-- Accounts with their contacts, and from each contact back to its account. -/
def ownersDocument : Json :=
  .obj [("entity_name", .str "account"), ("links", .arr [.obj contactMembers])]

theorem leavesSourceOpen_ownerMembers : LeavesSourceOpen ownerMembers where
  target _ h := ⟨_, (Option.some.inj h).symm⟩
  called _ h := .inr ⟨_, (Option.some.inj h).symm⟩
  source := rfl

theorem leavesSourceOpen_contactMembers : LeavesSourceOpen contactMembers where
  target _ h := ⟨_, (Option.some.inj h).symm⟩
  called _ h := nomatch h
  source := rfl

theorem leavesSourcesOpen_ownersDocument : LeavesSourcesOpen ownersDocument where
  base := by
    rintro members name ⟨⟩ hname
    exact ⟨_, (Option.some.inj hname).symm⟩
  links := by
    intro members h
    obtain ⟨⟨⟩, -⟩ | ⟨_, _, ⟨⟩, hcontact, h⟩ := exists_item_of_within_link h
    obtain rfl := List.mem_singleton.mp hcontact
    obtain ⟨-, rfl⟩ | ⟨_, _, ⟨⟩, howner, h⟩ := exists_item_of_within_link h
    · exact leavesSourceOpen_contactMembers
    obtain rfl := List.mem_singleton.mp howner
    obtain ⟨-, rfl⟩ | ⟨_, _, ⟨⟩, -, -⟩ := exists_item_of_within_link h
    exact leavesSourceOpen_ownerMembers

end QueryDocument

/-- Read or built, the query for accounts, their contacts and back hangs together. -/
theorem Query.evaluate_ne_misplacedLink_owners :
    LeavesSourcesOpen ownersDocument ∧ ∃ q, decode ownersDocument = .ok q ∧
      (∀ a b c, (q.evaluate exampleContents .omit).result ≠
        .error (.query (.misplacedLink a b c))) ∧
      ∀ a b c, ((build "account" [.addLink [] "contact" "accountid" "parent" .inner,
        .addLink [0] "account" "parent" "accountid" .inner,
        .setAlias [0, 0] (some "owner")]).evaluate exampleContents .omit).result ≠
          .error (.query (.misplacedLink a b c)) := by
  obtain ⟨hbuilt, hread⟩ := evaluate_ne_misplacedLink
  have hopen := leavesSourcesOpen_ownersDocument
  exact ⟨hopen, _, rfl, hread ownersDocument _ hopen rfl exampleContents .omit,
    hbuilt _ _ exampleContents .omit⟩

end OrgService
