import OrgService.Proofs.Query.Binding
import OrgService.Proofs.Trace

/-!
# Expansion of rows

A row is expanded under one planned link after the other, and each link finds the record it
starts from by an alias. Expanding a base record under the plans of a forest yields the bindings
of the forest, in their order.
-/

namespace OrgService

/-! ## Matches of one link -/

theorem Comparable.isNaN_of_equal {k k' : Comparable} (h : k.equal k' = .ok true) :
    k.isNaN = false := by
  cases k <;> try rfl
  rename_i m
  cases k' <;> try simp [Comparable.equal] at h
  rename_i n
  simp only [Comparable.equalNumbers] at h
  split at h
  · contradiction
  · cases hm : m.exact <;> simp_all [Comparable.isNaN, Number.isNaN, Exact.compare?]

namespace KeyedRecord

theorem read?_eq_ok {r : Record} {attr : Json} {o : Option KeyedRecord}
    (h : read? r attr = .ok o) : o = (r.joinKey? attr).map fun key ↦ ⟨key, attr, r⟩ := by
  cases attr <;>
    simp_all [read?, Condition.lookup, Record.joinKey?, Json.isNameable, Value.joinKey, eq_comm]

/-- Away from NaN, two keys are the same if they are equal. -/
theorem sameKey_iff {a b : KeyedRecord} (hb : b.key.isNaN = false) :
    a.sameKey b = true ↔ a.key.equal b.key = .ok true := by
  unfold sameKey
  by_cases ha : a.key.isNaN = true
  · simp only [ha, if_true, hb, Bool.false_and, Bool.false_eq_true, false_iff]
    intro hequal
    simp [Comparable.isNaN_of_equal hequal] at ha
  · simp only [if_neg ha]
    cases a.key.equal b.key <;> simp

end KeyedRecord

theorem Query.scan_eq_ok {s : Snapshot} {name : Json} {rs : List Record}
    (h : Query.scan s name = .ok rs) : rs = s.recordsOf name := by
  obtain ⟨n, hn, rfl⟩ := map_eq_ok_iff.mp h
  cases name <;> simp_all [Query.typeName?, Json.isNameable, Snapshot.recordsOf, eq_comm]

/-- No join key on the target side of a link is a NaN. -/
def Link.NoNaNKey (s : Snapshot) (l : Link) : Prop :=
  ∀ r ∈ s.recordsOf l.toEntity, ∀ k ∈ r.joinKey? l.toAttr, k.isNaN = false

namespace PlannedLink

variable {p : PlannedLink}

theorem matched_of_candidate? {r source : Record} {k : Comparable} {c : Option KeyedRecord}
    (hc : p.candidate? r = .ok c) (hk : source.joinKey? p.link.fromAttr = some k)
    (hnan : ∀ k' ∈ r.joinKey? p.link.toAttr, k'.isNaN = false) :
    (c.toList.filter (KeyedRecord.sameKey ⟨k, p.link.fromAttr, source⟩)).map
      KeyedRecord.record = [r].filter fun r ↦ p.link.Joins source r := by
  obtain ⟨o, ho, hc⟩ := bind_eq_ok_iff.mp hc
  obtain rfl := KeyedRecord.read?_eq_ok ho
  cases hk' : r.joinKey? p.link.toAttr with
  | none =>
      simp only [hk', Option.map_none, Except.ok.injEq] at hc
      subst hc
      simp [Link.Joins, hk']
  | some k' =>
      simp only [hk', Option.map_some] at hc
      obtain ⟨passed, hpassed, hc⟩ := bind_eq_ok_iff.mp hc
      cases passed with
      | false =>
          simp only [Bool.false_eq_true, if_false, Except.ok.injEq] at hc
          subst hc
          simp [Link.Joins, hpassed]
      | true =>
          simp only [if_true] at hc
          obtain ⟨-, -, hc⟩ := bind_eq_ok_iff.mp hc
          obtain rfl := Except.ok.inj hc
          have hsame := KeyedRecord.sameKey_iff (a := ⟨k, p.link.fromAttr, source⟩)
            (b := ⟨k', p.link.toAttr, r⟩) (hnan k' hk')
          by_cases hequal : k.equal k' = .ok true
          · simp [Link.Joins, hk, hk', hpassed, hequal, hsame.mpr hequal]
          · have hother : KeyedRecord.sameKey ⟨k, p.link.fromAttr, source⟩
                ⟨k', p.link.toAttr, r⟩ = false := by
              simpa using mt hsame.mp hequal
            simp [Link.Joins, hk, hk', hequal, hother]

theorem matched_of_candidatesOf {rs : List Record} {source : Record} {k : Comparable}
    {cs : List KeyedRecord} (hcs : p.candidatesOf rs = .ok cs)
    (hk : source.joinKey? p.link.fromAttr = some k)
    (hnan : ∀ r ∈ rs, ∀ k' ∈ r.joinKey? p.link.toAttr, k'.isNaN = false) :
    (cs.filter (KeyedRecord.sameKey ⟨k, p.link.fromAttr, source⟩)).map KeyedRecord.record =
      rs.filter fun r ↦ p.link.Joins source r := by
  induction rs generalizing cs with
  | nil =>
      obtain rfl := Except.ok.inj hcs
      rfl
  | cons r rs ih =>
      obtain ⟨c, hc, hcs⟩ := bind_eq_ok_iff.mp hcs
      obtain ⟨cs', hcs', hcs⟩ := bind_eq_ok_iff.mp hcs
      obtain rfl := Except.ok.inj hcs
      rw [List.filter_append, List.map_append, ih hcs' fun r hr ↦ hnan r (.tail _ hr),
        matched_of_candidate? hc hk (hnan r List.mem_cons_self), ← List.filter_append]
      rfl

theorem matchesFor_eq_ok {s : Snapshot} {cs : List KeyedRecord} {source : Record}
    {found : List Record} (hcs : p.candidates s = .ok cs) (hnan : p.link.NoNaNKey s)
    (hfound : p.matchesFor cs source = .ok found) :
    found = (p.link.joined s source).map Prod.snd := by
  obtain ⟨rs, hrs, hcs⟩ := bind_eq_ok_iff.mp hcs
  obtain rfl := Query.scan_eq_ok hrs
  rw [Link.joined, map_snd_placed]
  obtain ⟨o, ho, hfound⟩ := bind_eq_ok_iff.mp hfound
  obtain rfl := KeyedRecord.read?_eq_ok ho
  cases hk : source.joinKey? p.link.fromAttr with
  | none =>
      simp only [hk, Option.map_none, Except.ok.injEq] at hfound
      simp [← hfound, Link.Joins, hk]
  | some k =>
      simp only [hk, Option.map_some] at hfound
      obtain ⟨-, -, hfound⟩ := bind_eq_ok_iff.mp hfound
      rw [← matched_of_candidatesOf hcs hk hnan]
      exact (Except.ok.inj hfound).symm

end PlannedLink

/-! ## Sources of links -/

namespace JoinedRow

def extend (row : JoinedRow) (aliases : List Json) (xs : List (Option PlacedRecord)) : JoinedRow :=
  ⟨row.base, row.links ++ aliases.zip (xs.map (Option.map Prod.snd))⟩

@[simp] theorem extend_nil (row : JoinedRow) (aliases : List Json) :
    row.extend aliases [] = row := by
  simp [extend]

theorem extend_cons (row : JoinedRow) (a : Json) (aliases : List Json) (x : Option PlacedRecord)
    (xs : List (Option PlacedRecord)) :
    row.extend (a :: aliases) (x :: xs) = (row.bind a (x.map Prod.snd)).extend aliases xs := by
  simp [extend, bind]

theorem extend_append (row : JoinedRow) {as bs : List Json} {xs ys : List (Option PlacedRecord)}
    (hlength : as.length = xs.length) :
    row.extend (as ++ bs) (xs ++ ys) = (row.extend as xs).extend bs ys := by
  simp [extend, List.zip_append, hlength]

/-- Binding what a link, the links below it and those beside it bind is binding all at once. -/
theorem extend_aliases_cons (row : JoinedRow) (l : Link) (ls : List Link) (n : Nat)
    {s : Snapshot} {above : Option Record} {x : Option PlacedRecord}
    {below : List (Option PlacedRecord)} (hbelow : below ∈ Link.forestBindings s l.links above)
    (beside : List (Option PlacedRecord)) :
    (row.extend (l.effectiveAlias (n + 1) :: Link.aliases (n + 1) l.links) (x :: below)).extend
        (Link.aliases (n + 1 + (Link.preorderEach l.links).length) ls) beside =
      row.extend (Link.aliases n (l :: ls)) (x :: (below ++ beside)) := by
  have hlength := Link.length_aliases_of_mem hbelow (n + 1)
  rw [← extend_append _ (by simp [hlength]), List.cons_append, List.cons_append, Link.aliases_cons]

/-- A link can look its source up: it is the base record or bound under its alias. -/
def Resolves (row : JoinedRow) : Option Json → Prop
  | none => True
  | some a => ∃ e ∈ row.links, e.1.same a = true

theorem Resolves.extend {row : JoinedRow} {source : Option Json} (h : row.Resolves source)
    (aliases : List Json) (xs : List (Option PlacedRecord)) :
    (row.extend aliases xs).Resolves source := by
  cases source with
  | none => trivial
  | some a =>
      obtain ⟨e, he, hsame⟩ := h
      exact ⟨e, List.mem_append_left _ he, hsame⟩

/-- What a link starts from does not change as further links are bound. -/
theorem source_extend {row : JoinedRow} {source : Option Json} (h : row.Resolves source)
    (aliases : List Json) (xs : List (Option PlacedRecord)) :
    (row.extend aliases xs).source source = row.source source := by
  cases source with
  | none => rfl
  | some a =>
      obtain ⟨e, he, hsame⟩ := h
      have hfound : (row.links.find? fun l ↦ l.1.same a).isSome :=
        List.find?_isSome.mpr ⟨e, he, hsame⟩
      obtain ⟨e', he'⟩ := Option.isSome_iff_exists.mp hfound
      simp [JoinedRow.source, JoinedRow.extend, List.find?_append, he']

/-- Plans whose aliases are new to a row, differ from each other and equal themselves. -/
structure Fresh (row : JoinedRow) (ps : List PlannedLink) : Prop where
  distinct : Link.AliasesDistinct ps
  unbound : ∀ e ∈ row.links, ∀ p ∈ ps, e.1.same p.aliasName = false
  reflexive : ∀ p ∈ ps, p.aliasName.same p.aliasName = true

namespace Fresh

variable {row : JoinedRow} {p : PlannedLink} {ps qs : List PlannedLink}

theorem bind (h : row.Fresh (p :: ps)) (r : Option Record) :
    (row.bind p.aliasName r).Fresh ps where
  distinct := (List.pairwise_cons.mp h.distinct).2
  unbound := by
    intro e he q hq
    rcases List.mem_append.mp he with he | he
    · exact h.unbound e he q (.tail _ hq)
    · obtain rfl := List.mem_singleton.mp he
      exact (List.pairwise_cons.mp h.distinct).1 q hq
  reflexive := fun q hq ↦ h.reflexive q (.tail _ hq)

theorem left (h : row.Fresh (ps ++ qs)) : row.Fresh ps where
  distinct := (List.pairwise_append.mp h.distinct).1
  unbound := fun e he q hq ↦ h.unbound e he q (List.mem_append_left _ hq)
  reflexive := fun q hq ↦ h.reflexive q (List.mem_append_left _ hq)

theorem extend (h : row.Fresh (ps ++ qs)) (xs : List (Option PlacedRecord)) :
    (row.extend (ps.map PlannedLink.aliasName) xs).Fresh qs where
  distinct := (List.pairwise_append.mp h.distinct).2.1
  unbound := by
    intro e he q hq
    rcases List.mem_append.mp he with he | he
    · exact h.unbound e he q (List.mem_append_right _ hq)
    · obtain ⟨p, hp, heq⟩ := List.mem_map.mp (List.of_mem_zip he).1
      rw [← heq]
      exact (List.pairwise_append.mp h.distinct).2.2 p hp q hq
  reflexive := fun q hq ↦ h.reflexive q (List.mem_append_right _ hq)

theorem source_bind (h : row.Fresh (p :: ps)) (r : Option Record) :
    (row.bind p.aliasName r).source (some p.aliasName) = r := by
  have hnone : row.links.find? (fun l ↦ l.1.same p.aliasName) = none := by
    apply List.find?_eq_none.mpr
    intro e he
    simp [h.unbound e he p List.mem_cons_self]
  simp [JoinedRow.source, JoinedRow.bind, List.find?_append, hnone,
    h.reflexive p List.mem_cons_self]

theorem resolves_bind (h : row.Fresh (p :: ps)) (r : Option Record) :
    (row.bind p.aliasName r).Resolves (some p.aliasName) :=
  ⟨(p.aliasName, r), by simp [JoinedRow.bind], h.reflexive p List.mem_cons_self⟩

end Fresh

/-! ## Expansion under a forest -/

/-- Every row that a row grows into under some links comes from binding something, or nothing,
under the first of them. -/
theorem exists_of_mem_expand_cons {p : PlannedLink} {cs : List KeyedRecord}
    {rest : List (PlannedLink × List KeyedRecord)} {row : JoinedRow} {rows : List JoinedRow}
    (h : (expand ((p, cs) :: rest) row).result = .ok rows) {x : JoinedRow} (hx : x ∈ rows) :
    ∃ r rows', (expand rest (row.bind p.aliasName r)).result = .ok rows' ∧ x ∈ rows' := by
  rw [expand] at h
  split at h
  · exact ⟨none, rows, h, hx⟩
  · obtain ⟨found, -, h⟩ := bind_eq_ok_iff.mp ((Traced.result_bind _ _).symm.trans h)
    split at h
    · split at h
      · exact ⟨none, rows, h, hx⟩
      · obtain ⟨-, -, h⟩ := bind_eq_ok_iff.mp ((Traced.result_bind _ _).symm.trans h)
        obtain rfl := Except.ok.inj h
        contradiction
    · obtain ⟨m, -, rows', hrows', hx⟩ := Traced.exists_of_mem_flatMap h hx
      exact ⟨some m, rows', hrows', hx⟩

section oneLink

variable {s : Snapshot} {p : PlannedLink} {cs : List KeyedRecord}
  {rest : List (PlannedLink × List KeyedRecord)} {row : JoinedRow} {rows : List JoinedRow}

/-- An expansion that succeeds follows each choice of the first link; where there is none, the row
is dropped. -/
theorem expand_cons_eq (hcs : p.candidates s = .ok cs) (hnan : p.link.NoNaNKey s)
    (h : (expand ((p, cs) :: rest) row).result = .ok rows) :
    expand ((p, cs) :: rest) row =
      match p.link.choices s (row.source p.source) with
      | [] => ⟨[p.droppedEntry row.base], .ok []⟩
      | found =>
        Traced.flatMap (fun x ↦ expand rest (row.bind p.aliasName (x.map Prod.snd))) found := by
  rw [expand] at h ⊢
  cases hsource : row.source p.source with
  | none => exact (Traced.flatMap_singleton _ _).symm
  | some r =>
      simp only [hsource, Traced.result_bind, Traced.result_silent, bind_eq_ok_iff] at h
      obtain ⟨found, hfound, -⟩ := h
      simp only [hfound, Traced.silent_ok_bind]
      obtain rfl := PlannedLink.matchesFor_eq_ok hcs hnan hfound
      cases hjoined : p.link.joined s r with
      | nil =>
          cases hjoin : p.link.join with
          | inner => simp [Link.choices, hjoined, hjoin]; rfl
          | outer =>
              simp only [Link.choices, hjoined, hjoin]
              exact (Traced.flatMap_singleton _ _).symm
      | cons e es =>
          simp only [Link.choices, hjoined]
          change Traced.flatMap (fun m ↦ expand rest (row.bind p.aliasName (some m)))
            ((e :: es).map Prod.snd) = Traced.flatMap _ ((e :: es).map some)
          rw [Traced.flatMap_map, Traced.flatMap_map]
          rfl

/-- Under one link a row grows into a row for each choice of the link. -/
theorem expand_cons (hcs : p.candidates s = .ok cs) (hnan : p.link.NoNaNKey s)
    (h : (expand ((p, cs) :: rest) row).result = .ok rows) :
    (∀ x ∈ p.link.choices s (row.source p.source),
        (expand rest (row.bind p.aliasName (x.map Prod.snd))).result =
          .ok (expand rest (row.bind p.aliasName (x.map Prod.snd))).answers) ∧
      rows = (p.link.choices s (row.source p.source)).flatMap fun x ↦
        (expand rest (row.bind p.aliasName (x.map Prod.snd))).answers := by
  rw [expand_cons_eq hcs hnan h] at h
  split at h
  · rename_i hnone
    simp_all
  · exact Traced.flatMap_result_eq_ok_iff.mp h

/-- A row that has no choice under a link is reported; otherwise its entries are those of the rows
that it grows into. -/
theorem entries_expand_cons (hcs : p.candidates s = .ok cs) (hnan : p.link.NoNaNKey s)
    (h : (expand ((p, cs) :: rest) row).result = .ok rows) :
    (expand ((p, cs) :: rest) row).entries =
      match p.link.choices s (row.source p.source) with
      | [] => [p.droppedEntry row.base]
      | found => found.flatMap fun x ↦
        (expand rest (row.bind p.aliasName (x.map Prod.snd))).entries := by
  rw [expand_cons_eq hcs hnan h]
  split
  · rfl
  · exact Traced.entries_flatMap (expand_cons hcs hnan h).1

end oneLink

/-- A row comes to the links of a forest, which are planned after `n` others: their candidates are
known, what they start from can be looked up, and their aliases are new. -/
structure Faces (s : Snapshot) (links : List (PlannedLink × List KeyedRecord))
    (source : Option Json) (n : Nat) (ls : List Link) (row : JoinedRow) : Prop where
  plans : links.map Prod.fst = Link.numberedEach source n ls
  candidates : ∀ e ∈ links, e.1.candidates s = .ok e.2
  keys : ∀ l ∈ Link.preorderEach ls, l.NoNaNKey s
  resolves : row.Resolves source
  fresh : row.Fresh (Link.numberedEach source n ls)

namespace Faces

variable {s : Snapshot} {links inner outer : List (PlannedLink × List KeyedRecord)}
  {cs : List KeyedRecord} {source : Option Json} {n : Nat} {l : Link} {ls : List Link}
  {row : JoinedRow} {a : Json}

/-- After the first link of a forest come the links below it and then those beside it. -/
theorem exists_split (h : Faces s links source n (l :: ls) row) :
    ∃ cs inner outer, links = (⟨l, l.effectiveAlias (n + 1), source⟩, cs) :: (inner ++ outer) ∧
      inner.map Prod.fst = Link.numberedEach (some (l.effectiveAlias (n + 1))) (n + 1) l.links ∧
      outer.map Prod.fst =
        Link.numberedEach source (n + 1 + (Link.preorderEach l.links).length) ls := by
  have hplans := h.plans
  rw [Link.numberedEach_cons] at hplans
  obtain ⟨⟨_, cs⟩, tail, rfl, rfl, htail⟩ := List.map_eq_cons_iff.mp hplans
  obtain ⟨inner, outer, rfl, hinner, houter⟩ := List.map_eq_append_iff.mp htail
  exact ⟨cs, inner, outer, rfl, hinner, houter⟩

theorem first (h : Faces s ((⟨l, a, source⟩, cs) :: (inner ++ outer)) source n (l :: ls) row) :
    PlannedLink.candidates ⟨l, a, source⟩ s = .ok cs ∧ l.NoNaNKey s :=
  ⟨h.candidates _ List.mem_cons_self, h.keys l (by simp)⟩

section parts

variable (h : Faces s ((⟨l, l.effectiveAlias (n + 1), source⟩, cs) :: (inner ++ outer)) source n
  (l :: ls) row)
include h

/-- The links below a link start from what it binds. -/
theorem below (hinner : inner.map Prod.fst =
      Link.numberedEach (some (l.effectiveAlias (n + 1))) (n + 1) l.links) (r : Option Record) :
    Faces s inner (some (l.effectiveAlias (n + 1))) (n + 1) l.links
        (row.bind (l.effectiveAlias (n + 1)) r) ∧
      (row.bind (l.effectiveAlias (n + 1)) r).source (some (l.effectiveAlias (n + 1))) = r := by
  have hfresh := h.fresh
  rw [Link.numberedEach_cons] at hfresh
  refine ⟨⟨hinner, ?_, ?_, hfresh.resolves_bind r, (hfresh.bind r).left⟩, hfresh.source_bind r⟩
  · exact fun e he ↦ h.candidates e (by simp [he])
  · exact fun l' hl' ↦ h.keys l' (by simp [hl'])

/-- The links beside a link start from what it started from, whatever has been bound below it. -/
theorem beside (houter : outer.map Prod.fst =
      Link.numberedEach source (n + 1 + (Link.preorderEach l.links).length) ls)
    (xs : List (Option PlacedRecord)) :
    Faces s outer source (n + 1 + (Link.preorderEach l.links).length) ls
        (row.extend (l.effectiveAlias (n + 1) :: Link.aliases (n + 1) l.links) xs) ∧
      (row.extend (l.effectiveAlias (n + 1) :: Link.aliases (n + 1) l.links) xs).source source =
        row.source source := by
  have hfresh := h.fresh
  rw [Link.numberedEach_cons, ← List.cons_append] at hfresh
  have hlater := hfresh.extend xs
  rw [List.map_cons, Link.map_aliasName_numberedEach] at hlater
  refine ⟨⟨houter, ?_, ?_, h.resolves.extend _ xs, hlater⟩, source_extend h.resolves _ xs⟩
  · exact fun e he ↦ h.candidates e (by simp [he])
  · exact fun l' hl' ↦ h.keys l' (by simp [hl'])

end parts

end Faces

/-- Under the plans of a forest a row grows into a row for each binding of the forest, whatever
links follow. -/
theorem expand_forest {s : Snapshot} {ls : List Link} {source : Option Json} {n : Nat}
    {links rest : List (PlannedLink × List KeyedRecord)} {row : JoinedRow} {rows : List JoinedRow}
    (hfaces : Faces s links source n ls row)
    (h : (expand (links ++ rest) row).result = .ok rows) :
    (∀ xs ∈ Link.forestBindings s ls (row.source source),
        (expand rest (row.extend (Link.aliases n ls) xs)).result =
          .ok (expand rest (row.extend (Link.aliases n ls) xs)).answers) ∧
      rows = (Link.forestBindings s ls (row.source source)).flatMap fun xs ↦
        (expand rest (row.extend (Link.aliases n ls) xs)).answers := by
  induction ls using Link.forest_induction generalizing source n links rest row rows with
  | nil =>
      obtain rfl := List.map_eq_nil_iff.mp hfaces.plans
      simp_all [Traced.answers]
  | cons l ls below beside =>
      obtain ⟨cs, inner, outer, rfl, hinner, houter⟩ := hfaces.exists_split
      rw [List.cons_append, List.append_assoc] at h
      obtain ⟨hcs, hnan⟩ := hfaces.first
      obtain ⟨hstep, rfl⟩ := expand_cons hcs hnan h
      -- Below a choice of `l` the links of `l` start from it, and those beside `l` still follow.
      have hbelow : ∀ x ∈ l.choices s (row.source source), _ := fun x hx ↦
        below (hfaces.below hinner (x.map Prod.snd)).1 (hstep x hx)
      simp only [(hfaces.below hinner _).2, ← extend_cons] at hbelow
      have hbeside : ∀ x ∈ l.choices s (row.source source),
          ∀ ys ∈ Link.forestBindings s l.links (x.map Prod.snd), _ := fun x hx ys hys ↦
        beside (hfaces.beside houter (x :: ys)).1 ((hbelow x hx).1 ys hys)
      simp only [(hfaces.beside houter _).2] at hbeside
      rw [Link.forestBindings_cons]
      constructor
      · intro xs hxs
        simp only [List.mem_flatMap, List.mem_map] at hxs
        obtain ⟨x, hx, ys, hys, zs, hzs, rfl⟩ := hxs
        rw [← extend_aliases_cons row l ls n hys zs]
        exact (hbeside x hx ys hys).1 zs hzs
      · simp only [List.flatMap_assoc, List.flatMap_map]
        refine List.flatMap_congr fun x hx ↦ (hbelow x hx).2.trans ?_
        refine List.flatMap_congr fun ys hys ↦ (hbeside x hx ys hys).2.trans ?_
        exact List.flatMap_congr fun zs _ ↦ by rw [extend_aliases_cons row l ls n hys zs]

end JoinedRow

/-! ## The rows of a query -/

theorem PlannedLink.allCandidates_eq_ok {s : Snapshot} {plans : List PlannedLink}
    {links : List (PlannedLink × List KeyedRecord)} (h : allCandidates s plans = .ok links) :
    links.map Prod.fst = plans ∧ ∀ e ∈ links, e.1.candidates s = .ok e.2 := by
  induction plans generalizing links with
  | nil =>
      obtain rfl := Except.ok.inj h
      simp
  | cons p ps ih =>
      obtain ⟨rest, hrest, h⟩ := bind_eq_ok_iff.mp h
      obtain ⟨cs, hcs, h⟩ := bind_eq_ok_iff.mp h
      obtain rfl := Except.ok.inj h
      obtain ⟨hps, hall⟩ := ih hrest
      exact ⟨by rw [List.map_cons, hps], List.forall_mem_cons.mpr ⟨hcs, hall⟩⟩

namespace JoinedRow

section base

variable {q : Query} {s : Snapshot} {links : List (PlannedLink × List KeyedRecord)}
  (hplans : q.planLinks = .ok (links.map Prod.fst))
  (hself : ∀ p ∈ links.map Prod.fst, p.aliasName.same p.aliasName = true)
  (hcandidates : ∀ e ∈ links, e.1.candidates s = .ok e.2)
  (hnan : ∀ l ∈ Link.preorderEach q.links, l.NoNaNKey s)
include hplans hself hcandidates hnan

theorem faces_base (r : Record) : Faces s links none 0 q.links ⟨r, []⟩ := by
  obtain ⟨hmap, hdistinct⟩ := Query.planLinks_eq_ok_iff.mp hplans
  rw [hmap] at hself hdistinct
  exact ⟨hmap, hcandidates, hnan, trivial, hdistinct, by simp, hself⟩

theorem expand_base {r : Record} {rows : List JoinedRow}
    (h : (expand links ⟨r, []⟩).result = .ok rows) :
    rows = (Link.forestBindings s q.links (some r)).map
      (JoinedRow.extend ⟨r, []⟩ (Link.aliases 0 q.links)) := by
  have hwhole : (expand (links ++ []) ⟨r, []⟩).result = .ok rows := by rwa [List.append_nil]
  obtain ⟨-, rfl⟩ := expand_forest (faces_base hplans hself hcandidates hnan r) hwhole
  exact List.map_eq_flatMap.symm

end base

end JoinedRow

namespace Query

variable {q : Query} {s : Snapshot} {plans : List PlannedLink} {rows : List JoinedRow}

/-- The rows of a query grow from the base records that pass the criteria. -/
theorem rows_eq_flatMap (h : (q.rows s plans).result = .ok rows) :
    ∃ links, PlannedLink.allCandidates s plans = .ok links ∧
      (∀ r ∈ s.recordsOf q.entityName, ∃ passed, q.criteria.holds r = .ok passed) ∧
      q.rows s plans = Traced.flatMap (fun r ↦ JoinedRow.expand links ⟨r, []⟩)
        ((s.recordsOf q.entityName).filter fun r ↦ q.criteria.holds r = .ok true) := by
  have hrows := h
  simp only [Query.rows, Traced.result_bind, Traced.result_silent, bind_eq_ok_iff] at hrows
  obtain ⟨links, hlinks, base, hbase, hrows⟩ := hrows
  have htested : ∀ r ∈ base, ∃ passed, q.criteria.holds r = .ok passed := by
    intro r hr
    have hr := (Traced.flatMap_result_eq_ok_iff.mp hrows).1 r hr
    rw [Traced.result_bind, bind_eq_ok_iff] at hr
    obtain ⟨passed, hpassed, -⟩ := hr
    exact ⟨passed, hpassed⟩
  refine ⟨links, hlinks, scan_eq_ok hbase ▸ htested, ?_⟩
  rw [Query.rows, hlinks, hbase, Traced.silent_ok_bind, Traced.silent_ok_bind,
    ← scan_eq_ok hbase]
  refine Traced.flatMap_filter fun r hr ↦ ?_
  obtain ⟨passed, hpassed⟩ := htested r hr
  simp [hpassed]

/-- Every row of a query grows from a base record that passes the criteria. -/
theorem exists_of_mem_rows (h : (q.rows s plans).result = .ok rows) {row : JoinedRow}
    (hrow : row ∈ rows) :
    ∃ links r rows', PlannedLink.allCandidates s plans = .ok links ∧
      r ∈ s.recordsOf q.entityName ∧ q.criteria.holds r = .ok true ∧
      (JoinedRow.expand links ⟨r, []⟩).result = .ok rows' ∧ row ∈ rows' := by
  obtain ⟨links, hlinks, -, hrows⟩ := rows_eq_flatMap h
  rw [hrows] at h
  obtain ⟨r, hr, rows', hrows', hrow⟩ := Traced.exists_of_mem_flatMap h hrow
  obtain ⟨hr, hholds⟩ := List.mem_filter.mp hr
  exact ⟨links, r, rows', hlinks, hr, of_decide_eq_true hholds, hrows', hrow⟩

theorem rows_eq_bindings (hplans : q.planLinks = .ok plans)
    (hself : ∀ p ∈ plans, p.aliasName.same p.aliasName = true)
    (hnan : ∀ l ∈ Link.preorderEach q.links, l.NoNaNKey s)
    (h : (q.rows s plans).result = .ok rows) :
    rows = (q.bindings s).map (Binding.row (Link.aliases 0 q.links)) := by
  obtain ⟨links, hlinks, -, hrows⟩ := rows_eq_flatMap h
  obtain ⟨rfl, hcandidates⟩ := PlannedLink.allCandidates_eq_ok hlinks
  rw [hrows, ← map_snd_placed, Traced.flatMap_map] at h
  obtain ⟨hall, rfl⟩ := Traced.flatMap_result_eq_ok_iff.mp h
  rw [bindings, List.map_flatMap]
  refine List.flatMap_congr fun base hbase ↦ ?_
  rw [JoinedRow.expand_base hplans hself hcandidates hnan (hall base hbase), List.map_map]
  rfl

end Query

end OrgService
