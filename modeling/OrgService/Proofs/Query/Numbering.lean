import Mathlib.Data.List.Lex
import OrgService.Proofs.Query.Validity

/-!
# The numbering of links

A link of a query is found by its address: where it stands among the links beside it, after where
the link above it stands among those beside it, and so on. Depth-first order is the order of these
addresses. Planning lists the links in this order, each with what it is called by and with what the
link above it is called by, unless one of them is called like one before it.
-/

namespace OrgService

namespace Link

/-- The link at an address. -/
def at? : List Link → List ℕ → Option Link
  | _, [] => none
  | ls, [i] => ls[i]?
  | ls, i :: j :: address => ls[i]?.bind fun l ↦ at? l.links (j :: address)

/-- What a link is called by: its alias, if that is a text other than the empty one, and otherwise
its target with its position. -/
def calledAt (l : Link) (position : ℕ) : String :=
  match l.aliasName with
  | .str s => if s ≠ "" then s else l.toEntity.plain ++ toString position
  | _ => l.toEntity.plain ++ toString position

/-- The entries are the links of a forest in depth-first order, each with its address. -/
structure ListsDepthFirst (ls : List Link) (entries : List (List ℕ × PlannedLink)) : Prop where
  ascending : entries.Pairwise fun e f ↦ e.1 < f.1
  complete : ∀ address, (at? ls address).isSome → ∃ e ∈ entries, e.1 = address
  link : ∀ e ∈ entries, at? ls e.1 = some e.2.link
  aliasName : ∀ (i : ℕ) (e : List ℕ × PlannedLink), entries[i]? = some e →
    e.2.aliasName = .str (e.2.link.calledAt (i + 1))
  /-- A link is at the top, or the link above it comes before it. -/
  source : ∀ (i : ℕ) (e : List ℕ × PlannedLink), entries[i]? = some e →
    ((∃ k, e.1 = [k]) ∧ e.2.source = none) ∨
      ∃ j < i, ∃ parent, entries[j]? = some parent ∧ (∃ k, e.1 = parent.1 ++ [k]) ∧
        e.2.source = some parent.2.aliasName

theorem at?_cons_zero (l : Link) (ls : List Link) (address : List ℕ) :
    at? (l :: ls) (0 :: address) = if address = [] then some l else at? l.links address := by
  cases address <;> simp [at?]

theorem at?_cons_succ (l : Link) (ls : List Link) (i : ℕ) (address : List ℕ) :
    at? (l :: ls) ((i + 1) :: address) = at? ls (i :: address) := by
  cases address <;> simp [at?]

theorem CalledByText.effectiveAlias_eq {l : Link} (h : l.CalledByText) (n : ℕ) :
    l.effectiveAlias n = .str (l.calledAt n) := by
  obtain hnull | ⟨s, hs⟩ := h
  · simp [Link.effectiveAlias, calledAt, hnull, Json.isGiven]
  · by_cases hempty : s = ""
    · simp [Link.effectiveAlias, calledAt, hs, Json.isGiven, hempty]
    · simp [Link.effectiveAlias, calledAt, hs, Json.isGiven, hempty]

mutual

/-- A link and the links below it with their addresses, planned as by `numbered`. -/
def addressed (address : List ℕ) (source : Option Json) (n : ℕ) :
    Link → List (List ℕ × PlannedLink)
  | link@⟨_, _, _, _, _, _, _, _, links⟩ =>
    (address, ⟨link, link.effectiveAlias (n + 1), source⟩) ::
      addressedEach address 0 (some (link.effectiveAlias (n + 1))) (n + 1) links

def addressedEach (above : List ℕ) (i : ℕ) (source : Option Json) (n : ℕ) :
    List Link → List (List ℕ × PlannedLink)
  | [] => []
  | l :: ls => addressed (above ++ [i]) source n l ++
      addressedEach above (i + 1) source (n + (preorder l).length) ls

end

variable {above : List ℕ} {i n : ℕ} {source : Option Json} {ls : List Link}
  {e : List ℕ × PlannedLink}

@[simp] theorem addressedEach_nil : addressedEach above i source n [] = [] := rfl

@[simp] theorem addressedEach_cons {l : Link} :
    addressedEach above i source n (l :: ls) =
      (above ++ [i], ⟨l, l.effectiveAlias (n + 1), source⟩) ::
        (addressedEach (above ++ [i]) 0 (some (l.effectiveAlias (n + 1))) (n + 1) l.links ++
          addressedEach above (i + 1) source (n + 1 + (preorderEach l.links).length) ls) := by
  cases l
  simp only [addressedEach, addressed, preorder, List.cons_append, List.length_cons,
    Nat.add_assoc, Nat.add_comm 1]

theorem map_snd_addressedEach :
    (addressedEach above i source n ls).map Prod.snd = numberedEach source n ls := by
  induction ls using forest_induction generalizing above i source n with
  | nil => rfl
  | cons l ls below beside => simp [below, beside]

theorem exists_address_of_mem (he : e ∈ addressedEach above i source n ls) :
    ∃ k rest, e.1 = above ++ (i + k) :: rest ∧ at? ls (k :: rest) = some e.2.link := by
  induction ls using forest_induction generalizing above i source n with
  | nil => contradiction
  | cons l ls below beside =>
      rw [addressedEach_cons, List.mem_cons, List.mem_append] at he
      obtain rfl | he | he := he
      · exact ⟨0, [], rfl, by simp [at?_cons_zero]⟩
      · obtain ⟨k, rest, haddress, hat⟩ := below he
        exact ⟨0, k :: rest, by simp [haddress], by simp [at?_cons_zero, hat]⟩
      · obtain ⟨k, rest, haddress, hat⟩ := beside he
        refine ⟨k + 1, rest, ?_, by simp [at?_cons_succ, hat]⟩
        rw [haddress, Nat.add_assoc, Nat.add_comm 1 k]

theorem exists_mem_of_at? {k : ℕ} {rest : List ℕ} (h : (at? ls (k :: rest)).isSome) :
    ∃ e ∈ addressedEach above i source n ls, e.1 = above ++ (i + k) :: rest := by
  induction ls using forest_induction generalizing above i source n k rest with
  | nil => cases rest <;> simp [at?] at h
  | cons l ls below beside =>
      rw [addressedEach_cons]
      cases k with
      | zero =>
        cases rest with
        | nil => exact ⟨_, List.mem_cons_self, rfl⟩
        | cons j rest =>
          rw [at?_cons_zero, if_neg (by simp)] at h
          obtain ⟨e, he, haddress⟩ := below h
          refine ⟨e, .tail _ (List.mem_append_left _ he), ?_⟩
          simp [haddress]
      | succ k =>
        rw [at?_cons_succ] at h
        obtain ⟨e, he, haddress⟩ := beside h
        refine ⟨e, .tail _ (List.mem_append_right _ he), ?_⟩
        rw [haddress, Nat.add_assoc, Nat.add_comm 1 k]

theorem append_cons_lt {j : ℕ} (h : i < j) (rest rest' : List ℕ) :
    above ++ i :: rest < above ++ j :: rest' :=
  List.append_left_lt (List.cons_lt_cons_iff.mpr (.inl h))

theorem pairwise_addressedEach :
    (addressedEach above i source n ls).Pairwise fun e f ↦ e.1 < f.1 := by
  induction ls using forest_induction generalizing above i source n with
  | nil => exact .nil
  | cons l ls below beside =>
      rw [addressedEach_cons, List.pairwise_cons, List.pairwise_append]
      -- First the link, then the links below it, then those beside it.
      refine ⟨fun e he ↦ ?_, below, beside, fun e he f hf ↦ ?_⟩
      · obtain he | he := List.mem_append.mp he
        · obtain ⟨k, rest, haddress, -⟩ := exists_address_of_mem he
          have hlt : above ++ [i] ++ [] < above ++ [i] ++ (0 + k) :: rest :=
            List.append_left_lt (List.nil_lt_cons _ _)
          rwa [List.append_nil, ← haddress] at hlt
        · obtain ⟨k, rest, haddress, -⟩ := exists_address_of_mem he
          rw [haddress]
          exact append_cons_lt (by omega) [] rest
      · obtain ⟨j, rest, haddress, -⟩ := exists_address_of_mem he
        obtain ⟨k, rest', haddress', -⟩ := exists_address_of_mem hf
        rw [haddress, haddress', List.append_assoc]
        exact append_cons_lt (by omega) _ rest'

theorem source_of_mem (he : e ∈ addressedEach above i source n ls) :
    ((∃ k, e.1 = above ++ [k]) ∧ e.2.source = source) ∨
      ∃ parent ∈ addressedEach above i source n ls,
        (∃ k, e.1 = parent.1 ++ [k]) ∧ e.2.source = some parent.2.aliasName := by
  induction ls using forest_induction generalizing above i source n with
  | nil => contradiction
  | cons l ls below beside =>
      rw [addressedEach_cons] at he ⊢
      obtain rfl | he := List.mem_cons.mp he
      · exact .inl ⟨⟨i, rfl⟩, rfl⟩
      · obtain he | he := List.mem_append.mp he
        · obtain ⟨haddress, hsource⟩ | ⟨parent, hparent, h⟩ := below he
          · exact .inr ⟨_, List.mem_cons_self, haddress, hsource⟩
          · exact .inr ⟨parent, .tail _ (List.mem_append_left _ hparent), h⟩
        · refine (beside he).imp_right ?_
          rintro ⟨parent, hparent, h⟩
          exact ⟨parent, .tail _ (List.mem_append_right _ hparent), h⟩

/-- Among ascending entries, an entry with a lesser address stands before. -/
theorem index_lt_of_lt {entries : List (List ℕ × PlannedLink)} {f : List ℕ × PlannedLink} {j : ℕ}
    (hascending : entries.Pairwise fun e f ↦ e.1 < f.1) (he : entries[i]? = some e)
    (hf : entries[j]? = some f) (hlt : f.1 < e.1) : j < i := by
  obtain ⟨hi, rfl⟩ := List.getElem?_eq_some_iff.mp he
  obtain ⟨hj, rfl⟩ := List.getElem?_eq_some_iff.mp hf
  rcases lt_trichotomy j i with hji | rfl | hij
  · exact hji
  · exact absurd hlt (lt_irrefl _)
  · exact absurd hlt (List.pairwise_iff_getElem.mp hascending i j hi hj hij).asymm

theorem aliasName_of_getElem? {p : PlannedLink} (hp : (numberedEach source n ls)[i]? = some p) :
    p.aliasName = p.link.effectiveAlias (n + i + 1) := by
  have hlink : (preorderEach ls)[i]? = some p.link := by
    rw [← map_link_numberedEach source n ls, List.getElem?_map, hp, Option.map_some]
  apply Option.some.inj
  calc some p.aliasName
      = ((numberedEach source n ls).map PlannedLink.aliasName)[i]? := by
        rw [List.getElem?_map, hp, Option.map_some]
    _ = (aliases n ls)[i]? := by rw [map_aliasName_numberedEach]
    _ = some (p.link.effectiveAlias (n + i + 1)) := by
        rw [aliases, List.getElem?_mapIdx, hlink, Option.map_some]

theorem listsDepthFirst (h : ∀ l ∈ preorderEach ls, l.CalledByText) :
    ListsDepthFirst ls (addressedEach [] 0 none 0 ls) where
  ascending := pairwise_addressedEach
  complete address hat := by
    cases address with
    | nil => contradiction
    | cons k rest =>
        obtain ⟨e, he, haddress⟩ := exists_mem_of_at? hat
        exact ⟨e, he, by simpa using haddress⟩
  link e he := by
    obtain ⟨k, rest, haddress, hat⟩ := exists_address_of_mem he
    rw [haddress, List.nil_append, Nat.zero_add, hat]
  aliasName i e he := by
    have hmap : (addressedEach [] 0 none 0 ls).map Prod.snd = numberedEach none 0 ls :=
      map_snd_addressedEach
    have hp : (numberedEach none 0 ls)[i]? = some e.2 := by
      rw [← hmap, List.getElem?_map, he, Option.map_some]
    have hcalled := h _ (link_mem_of_mem_numberedEach (List.mem_of_getElem? hp))
    rw [aliasName_of_getElem? hp, Nat.zero_add, hcalled.effectiveAlias_eq]
  source i e he := by
    refine (source_of_mem (List.mem_of_getElem? he)).imp_right ?_
    rintro ⟨parent, hparent, ⟨k, haddress⟩, hsource⟩
    obtain ⟨j, hj⟩ := List.getElem?_of_mem hparent
    have hlt : parent.1 ++ [] < parent.1 ++ [k] := List.append_left_lt (List.nil_lt_cons _ _)
    rw [List.append_nil, ← haddress] at hlt
    exact ⟨j, index_lt_of_lt pairwise_addressedEach he hj hlt, parent, hj, ⟨k, haddress⟩, hsource⟩

/-! ## Links that are called alike -/

variable {ps : List PlannedLink} (htexts : ∀ p ∈ ps, p.aliasName.IsText)

include htexts

theorem enlist_eq_ok_iff_nodup :
    enlist [] ps = .ok ps ↔ (ps.map PlannedLink.aliasName).Nodup := by
  rw [enlist_eq_ok_iff, aliasesDistinct_iff htexts]
  simp

/-- The first link that is called like one before it is the one that planning complains of. -/
theorem exists_first_repeat (hrepeats : ¬(ps.map PlannedLink.aliasName).Nodup) :
    ∃ earlier p later, ps = earlier ++ p :: later ∧
      (earlier.map PlannedLink.aliasName).Nodup ∧ (∃ q ∈ earlier, q.aliasName = p.aliasName) ∧
      enlist [] ps = .error (.duplicateAlias p.aliasName) := by
  cases henlist : enlist [] ps with
  | ok plans =>
      obtain rfl : plans = ps := eq_append_of_enlist henlist
      exact absurd ((enlist_eq_ok_iff_nodup htexts).mp henlist) hrepeats
  | error fault =>
      obtain ⟨earlier, p, later, rfl, hearlier, ⟨q, hq, hsame⟩, rfl⟩ :=
        exists_of_enlist_eq_error henlist
      obtain ⟨hbefore, hafter⟩ := List.forall_mem_append.mp htexts
      have hnodup := (enlist_eq_ok_iff_nodup hbefore).mp hearlier
      have hcalled := ((hbefore q hq).same_iff (hafter p List.mem_cons_self)).mp hsame
      exact ⟨earlier, p, later, rfl, hnodup, ⟨q, hq, hcalled⟩, rfl⟩

end Link

namespace Query

open Link (ListsDepthFirst)

/-- Planning lists the links of a query depth first if no two of them are called alike, and
otherwise complains of the first one that is called like one before it. -/
theorem planLinks_listsDepthFirst {q : Query}
    (h : ∀ l ∈ Link.preorderEach q.links, l.CalledByText) :
    ∃ entries, ListsDepthFirst q.links entries ∧
      (q.planLinks = .ok (entries.map Prod.snd) ↔ (entries.map (·.2.aliasName)).Nodup) ∧
      (¬(entries.map (·.2.aliasName)).Nodup → ∃ earlier e later, entries = earlier ++ e :: later ∧
        (earlier.map (·.2.aliasName)).Nodup ∧ (∃ f ∈ earlier, f.2.aliasName = e.2.aliasName) ∧
        q.planLinks = .error (.duplicateAlias e.2.aliasName)) := by
  let entries := Link.addressedEach [] 0 none 0 q.links
  have hsnd : entries.map Prod.snd = Link.numberedEach none 0 q.links := Link.map_snd_addressedEach
  have hplan : q.planLinks = Link.enlist [] (entries.map Prod.snd) := by
    rw [hsnd]
    exact Link.planEach_eq none [] q.links
  have htexts : ∀ p ∈ entries.map Prod.snd, p.aliasName.IsText := by
    rw [hsnd]
    exact fun _ ↦ Link.isText_of_mem_numberedEach h
  have haliases (es : List (List ℕ × PlannedLink)) :
      (es.map Prod.snd).map PlannedLink.aliasName = es.map (·.2.aliasName) := List.map_map
  rw [hplan]
  refine ⟨entries, Link.listsDepthFirst h, ?_, fun hrepeats ↦ ?_⟩
  · rw [Link.enlist_eq_ok_iff_nodup htexts, haliases]
  · rw [← haliases] at hrepeats
    obtain ⟨before, p, after, hsplit, hnodup, ⟨q', hq', hcalled⟩, herror⟩ :=
      Link.exists_first_repeat htexts hrepeats
    obtain ⟨earlier, rest, hentries, rfl, hrest⟩ := List.map_eq_append_iff.mp hsplit
    obtain ⟨e, later, rfl, rfl, rfl⟩ := List.map_eq_cons_iff.mp hrest
    obtain ⟨f, hf, rfl⟩ := List.mem_map.mp hq'
    rw [haliases] at hnodup
    exact ⟨earlier, e, later, hentries, hnodup, ⟨f, hf, hcalled⟩, herror⟩

/-- Contacts and their accounts once, and a second time, when the accounts are called alike. -/
theorem planLinks_listsDepthFirst_example :
    let twice : Query := { exampleQuery with links := exampleQuery.links ++ exampleQuery.links }
    (∀ l ∈ Link.preorderEach exampleQuery.links, l.CalledByText) ∧
      (∀ l ∈ Link.preorderEach twice.links, l.CalledByText) ∧
      (∃ entries, ListsDepthFirst exampleQuery.links entries ∧
        exampleQuery.planLinks = .ok (entries.map Prod.snd)) ∧
      ∃ entries, ListsDepthFirst twice.links entries ∧ ¬(entries.map (·.2.aliasName)).Nodup ∧
        twice.planLinks = .error (.duplicateAlias (.str "owner")) := by
  intro twice
  have honce : ∀ l ∈ Link.preorderEach exampleQuery.links, l.CalledByText :=
    exampleQuery_namedByTexts.aliases
  have htwice : ∀ l ∈ Link.preorderEach twice.links, l.CalledByText := by
    simp [twice, exampleQuery, Link.CalledByText, Json.IsText]
  obtain ⟨entries, hentries, hok, hrepeats⟩ := planLinks_listsDepthFirst honce
  obtain ⟨entries', hentries', hok', -⟩ := planLinks_listsDepthFirst htwice
  have hplans : ∃ plans, exampleQuery.planLinks = .ok plans := ⟨_, rfl⟩
  have hfails : twice.planLinks = .error (.duplicateAlias (.str "owner")) := by rfl
  have hnodup : (entries.map (·.2.aliasName)).Nodup := by
    by_contra h
    obtain ⟨plans, hplans⟩ := hplans
    obtain ⟨_, _, _, -, -, -, hfault⟩ := hrepeats h
    have hboth := hplans.symm.trans hfault
    contradiction
  refine ⟨honce, htwice, ⟨entries, hentries, hok.mpr hnodup⟩, entries', hentries', ?_, hfails⟩
  intro h
  have hboth := hfails.symm.trans (hok'.mpr h)
  contradiction

end Query

end OrgService
