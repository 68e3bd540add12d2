import OrgService.Proofs.Query.JoinSemantics
import OrgService.Query.Evaluation

/-!
# Rows lost in joins

An inner join drops a row that it finds no match for, and says so in the log. What is lost this
way is a partial binding: a base record with what the links before the inner one bind. This module
lists the partial bindings that a query loses, proves the list complete, free of repetitions and
sorted by scan positions, and shows that the log of an answered query reports just these, in this
order, before it sums up. A NaN for an alias breaks this as it breaks the joins themselves.
-/

namespace OrgService

namespace Link

/-- An inner join drops a row whose record it finds no match for. -/
def Drops (s : Snapshot) (l : Link) (source : Record) : Prop :=
  l.join = .inner ∧ ∀ r ∈ s.recordsOf l.toEntity, ¬l.Joins source r

/-- What the links of a forest that come before one of its links may bind below one record, in
depth-first order, and what that link then starts from. -/
inductive BindsBefore (s : Snapshot) :
    List Link → Option Record → List (Option PlacedRecord) → Link → Option Record → Prop
  | here {l : Link} {ls : List Link} {above : Option Record} :
      BindsBefore s (l :: ls) above [] l above
  | inside {l l' : Link} {ls : List Link} {above above' : Option Record}
      {bound : Option PlacedRecord} {xs : List (Option PlacedRecord)}
      (hbound : l.Binds s above bound)
      (hbelow : BindsBefore s l.links (bound.map Prod.snd) xs l' above') :
      BindsBefore s (l :: ls) above (bound :: xs) l' above'
  | after {l l' : Link} {ls : List Link} {above above' : Option Record}
      {bound : Option PlacedRecord} {below xs : List (Option PlacedRecord)}
      (hbound : l.Binds s above bound) (hbelow : BindsEach s l.links (bound.map Prod.snd) below)
      (hbeside : BindsBefore s ls above xs l' above') :
      BindsBefore s (l :: ls) above (bound :: (below ++ xs)) l' above'

end Link

/-- A partial binding with the link that it got to and not beyond. -/
structure Loss where
  reached : Binding
  link : Link

namespace Loss

/-- The entry about a loss names the type and the identifier of the base record, the target of the
link and its alias; the number of the link is one more than that of the links before. -/
def entry (x : Loss) : Log.Entry :=
  .diagnostic .join ("Dropping " ++ x.reached.base.2.logicalName ++ " " ++
    Fault.guidText x.reached.base.2.id ++ ": no " ++ x.link.toEntity.plain ++
      " match for link '" ++ (x.link.effectiveAlias (x.reached.bound.length + 1)).plain ++ "'")

end Loss

namespace Query

/-- A query loses a partial binding of a base record that passes the criteria if the next link is
an inner join that starts from some record and has no match for it. -/
def Loses (q : Query) (s : Snapshot) (x : Loss) : Prop :=
  (s.recordsOf q.entityName)[x.reached.base.1]? = some x.reached.base.2 ∧
    q.criteria.holds x.reached.base.2 = .ok true ∧
    ∃ source, Link.BindsBefore s q.links (some x.reached.base.2) x.reached.bound x.link
      (some source) ∧ x.link.Drops s source

/-- The log reports the partial bindings that are lost by their scan positions, each once, and
then counts the links and the records of the answer. -/
def ReportsLosses (q : Query) (s : Snapshot) (answer : Collection) (log : List Log.Entry) :
    Prop :=
  ∃ losses : List Loss,
    losses.Pairwise (fun x y ↦ x.reached.positions < y.reached.positions) ∧
    (∀ x, x ∈ losses ↔ q.Loses s x) ∧
    log = losses.map Loss.entry ++ [.diagnostic .evaluation ("Query on " ++ q.entityName.plain ++
      " with " ++ toString (Link.preorderEach q.links).length ++ " link(s) returned " ++
      toString answer.records.length ++ " row(s)")]

end Query

/-! ## Listing losses -/

namespace Binding

def bind (b : Binding) (x : Option PlacedRecord) : Binding := ⟨b.base, b.bound ++ [x]⟩

def extend (b : Binding) (xs : List (Option PlacedRecord)) : Binding := ⟨b.base, b.bound ++ xs⟩

@[simp] theorem extend_nil (b : Binding) : b.extend [] = b := by
  simp [extend]

theorem extend_cons (b : Binding) (x : Option PlacedRecord) (xs : List (Option PlacedRecord)) :
    b.extend (x :: xs) = (b.bind x).extend xs := by
  simp [extend, bind]

theorem extend_append (b : Binding) (xs ys : List (Option PlacedRecord)) :
    b.extend (xs ++ ys) = (b.extend xs).extend ys := by
  simp [extend]

theorem positions_bind (b : Binding) (x : Option PlacedRecord) :
    (b.bind x).positions = b.positions ++ [x.map Prod.fst] := by
  simp [positions, bind]

end Binding

namespace Link

mutual

/-- What is lost at a link, at the links below it and at those that come `next`, of a row that has
got so far. -/
def treeLosses (s : Snapshot) :
    Link → Option Record → (Binding → List Loss) → Binding → List Loss
  | link@⟨_, _, _, _, _, _, _, _, links⟩, above, next, b =>
    match link.choices s above with
    | [] => [⟨b, link⟩]
    | found => found.flatMap fun x ↦ forestLosses s links (x.map Prod.snd) next (b.bind x)

/-- What is lost at the links of a forest and at those that come `next`. -/
def forestLosses (s : Snapshot) :
    List Link → Option Record → (Binding → List Loss) → Binding → List Loss
  | [], _, next, b => next b
  | l :: ls, above, next, b => treeLosses s l above (fun b ↦ forestLosses s ls above next b) b

end

variable {s : Snapshot} {l : Link} {ls : List Link} {above : Option Record}
  {next : Binding → List Loss} {b : Binding} {x : Loss}

@[simp] theorem forestLosses_nil : forestLosses s [] above next b = next b := rfl

theorem forestLosses_cons : forestLosses s (l :: ls) above next b =
    match l.choices s above with
    | [] => [⟨b, l⟩]
    | found => found.flatMap fun x ↦
      forestLosses s l.links (x.map Prod.snd) (forestLosses s ls above next) (b.bind x) := by
  cases l
  rfl

/-- A link leaves no choice just where it drops the row. -/
theorem choices_eq_nil_iff :
    l.choices s above = [] ↔ ∃ source, above = some source ∧ l.Drops s source := by
  cases above with
  | none => simp [choices]
  | some source =>
      simp only [choices, Option.some.injEq, exists_eq_left', Drops, ← joined_eq_nil_iff]
      cases hjoined : l.joined s source <;> cases hjoin : l.join <;> simp

/-- A row is lost at the first link of a forest, or somewhere after one of its choices. -/
theorem mem_forestLosses_cons : x ∈ forestLosses s (l :: ls) above next b ↔
    (∃ source, above = some source ∧ l.Drops s source ∧ x = ⟨b, l⟩) ∨
      ∃ y, l.Binds s above y ∧
        x ∈ forestLosses s l.links (y.map Prod.snd) (forestLosses s ls above next) (b.bind y) := by
  have hdrops : l.choices s above = [] ↔ ∃ source, above = some source ∧ l.Drops s source :=
    choices_eq_nil_iff
  simp only [forestLosses_cons, ← mem_choices]
  cases hchoices : l.choices s above with
  | nil =>
      obtain ⟨source, rfl, hdrop⟩ := hdrops.mp hchoices
      simp [hdrop]
  | cons y ys =>
      have hnone : ¬∃ source, above = some source ∧ l.Drops s source := by
        rw [← hdrops, hchoices]
        exact List.cons_ne_nil y ys
      simp only [List.mem_flatMap]
      constructor
      · exact .inr
      · rintro (⟨source, rfl, hdrop, -⟩ | hlater)
        · exact absurd ⟨source, rfl, hdrop⟩ hnone
        · exact hlater

theorem bindsBefore_cons_iff {xs : List (Option PlacedRecord)} {l' : Link}
    {above' : Option Record} : BindsBefore s (l :: ls) above xs l' above' ↔
      (xs = [] ∧ l' = l ∧ above' = above) ∨
      ∃ y, l.Binds s above y ∧
        ((∃ ys, BindsBefore s l.links (y.map Prod.snd) ys l' above' ∧ xs = y :: ys) ∨
          ∃ ys, BindsEach s l.links (y.map Prod.snd) ys ∧
            ∃ zs, BindsBefore s ls above zs l' above' ∧ xs = y :: (ys ++ zs)) := by
  constructor
  · rintro (_ | ⟨hbound, hbelow⟩ | ⟨hbound, hbelow, hbeside⟩)
    · exact .inl ⟨rfl, rfl, rfl⟩
    · exact .inr ⟨_, hbound, .inl ⟨_, hbelow, rfl⟩⟩
    · exact .inr ⟨_, hbound, .inr ⟨_, hbelow, _, hbeside, rfl⟩⟩
  · rintro (⟨rfl, rfl, rfl⟩ | ⟨y, hy, ⟨ys, hys, rfl⟩ | ⟨ys, hys, zs, hzs, rfl⟩⟩)
    · exact .here
    · exact .inside hy hys
    · exact .after hy hys hzs

/-- The listed losses are the partial bindings of the forest that its links drop, and what is lost
of its bindings later. -/
theorem mem_forestLosses : x ∈ forestLosses s ls above next b ↔
    (∃ xs l source, BindsBefore s ls above xs l (some source) ∧ l.Drops s source ∧
      x = ⟨b.extend xs, l⟩) ∨
    ∃ xs, BindsEach s ls above xs ∧ x ∈ next (b.extend xs) := by
  induction ls using forest_induction generalizing above next b with
  | nil =>
      rw [forestLosses_nil]
      constructor
      · exact fun hx ↦ .inr ⟨[], .nil, by rwa [Binding.extend_nil]⟩
      · rintro (⟨_, _, _, ⟨⟩, -⟩ | ⟨_, ⟨⟩, hx⟩)
        rwa [Binding.extend_nil] at hx
  | cons l ls below beside =>
      simp only [mem_forestLosses_cons, below, beside]
      constructor
      · rintro (⟨source, rfl, hdrops, rfl⟩ | ⟨y, hy,
          ⟨xs, l', source, hxs, hdrops, rfl⟩ | ⟨ys, hys,
            ⟨zs, l', source, hzs, hdrops, rfl⟩ | ⟨zs, hzs, hx⟩⟩⟩)
        · exact .inl ⟨[], l, source, .here, hdrops, by rw [Binding.extend_nil]⟩
        · exact .inl ⟨_, l', source, .inside hy hxs, hdrops, by rw [Binding.extend_cons]⟩
        · refine .inl ⟨_, l', source, .after hy hys hzs, hdrops, ?_⟩
          rw [Binding.extend_cons, Binding.extend_append]
        · refine .inr ⟨_, .cons hy hys hzs, ?_⟩
          rwa [Binding.extend_cons, Binding.extend_append]
      · rintro (⟨xs, l', source, hxs, hdrops, rfl⟩ | ⟨_, ⟨⟩, hx⟩)
        · rcases bindsBefore_cons_iff.mp hxs with ⟨rfl, rfl, rfl⟩ |
            ⟨y, hy, ⟨ys, hys, rfl⟩ | ⟨ys, hys, zs, hzs, rfl⟩⟩
          · exact .inl ⟨source, rfl, hdrops, by rw [Binding.extend_nil]⟩
          · refine .inr ⟨y, hy, .inl ⟨ys, l', source, hys, hdrops, ?_⟩⟩
            rw [Binding.extend_cons]
          · refine .inr ⟨y, hy, .inr ⟨ys, hys, .inl ⟨zs, l', source, hzs, hdrops, ?_⟩⟩⟩
            rw [Binding.extend_cons, Binding.extend_append]
        · refine .inr ⟨_, ‹_›, .inr ⟨_, ‹_›, .inr ⟨_, ‹_›, ?_⟩⟩⟩
          rwa [Binding.extend_cons, Binding.extend_append] at hx

/-- Losses of a binding, in the order of their scan positions. -/
def InOrder (b : Binding) (losses : List Loss) : Prop :=
  (∀ x ∈ losses, b.positions <+: x.reached.positions) ∧
    losses.Pairwise fun x y ↦ x.reached.positions < y.reached.positions

/-- If later losses are listed in the order of their scan positions, all losses are. -/
theorem inOrder_forestLosses (hnext : ∀ b, InOrder b (next b)) :
    InOrder b (forestLosses s ls above next b) := by
  induction ls using forest_induction generalizing above next b with
  | nil => exact hnext b
  | cons l ls below beside =>
      rw [forestLosses_cons]
      split
      · exact ⟨by simp, List.pairwise_singleton _ _⟩
      · have hchoice : ∀ y, InOrder (b.bind y) (forestLosses s l.links (y.map Prod.snd)
            (forestLosses s ls above next) (b.bind y)) := fun y ↦
          below fun b ↦ beside hnext
        constructor
        · intro x hx
          obtain ⟨y, -, hx⟩ := List.mem_flatMap.mp hx
          have hprefix := (hchoice y).1 x hx
          rw [Binding.positions_bind] at hprefix
          exact (List.prefix_append _ _).trans hprefix
        · rw [List.pairwise_flatMap]
          refine ⟨fun y _ ↦ (hchoice y).2, (pairwise_choices above).imp fun {y z} hlt ↦ ?_⟩
          intro x hx x' hx'
          obtain ⟨rest, hrest⟩ := (hchoice y).1 x hx
          obtain ⟨rest', hrest'⟩ := (hchoice z).1 x' hx'
          rw [← hrest, ← hrest', Binding.positions_bind, Binding.positions_bind,
            List.append_assoc, List.append_assoc]
          exact List.append_left_lt (List.cons_lt_cons_iff.mpr (.inl hlt))

end Link

namespace Query

variable {q : Query} {s : Snapshot}

def losses (q : Query) (s : Snapshot) : List Loss :=
  (q.placedBase s).flatMap fun base ↦
    Link.forestLosses s q.links (some base.2) (fun _ ↦ []) ⟨base, []⟩

theorem mem_losses {x : Loss} : x ∈ q.losses s ↔ q.Loses s x := by
  obtain ⟨⟨⟨i, r⟩, bound⟩, l⟩ := x
  simp only [losses, Loses, List.mem_flatMap, Link.mem_forestLosses, List.not_mem_nil, and_false,
    exists_false, or_false]
  constructor
  · rintro ⟨base, hbase, xs, l', source, hxs, hdrops, heq⟩
    obtain ⟨hreached, rfl⟩ := Loss.mk.inj heq
    obtain ⟨rfl, rfl⟩ := Binding.mk.inj hreached
    obtain ⟨hr, hholds⟩ := mem_placedBase.mp hbase
    exact ⟨hr, hholds, source, hxs, hdrops⟩
  · rintro ⟨hr, hholds, source, hbound, hdrops⟩
    exact ⟨(i, r), mem_placedBase.mpr ⟨hr, hholds⟩, bound, l, source, hbound, hdrops, rfl⟩

theorem pairwise_losses :
    (q.losses s).Pairwise fun x y ↦ x.reached.positions < y.reached.positions := by
  have horder : ∀ base : PlacedRecord, Link.InOrder ⟨base, []⟩
      (Link.forestLosses s q.links (some base.2) (fun _ ↦ []) ⟨base, []⟩) := fun base ↦
    Link.inOrder_forestLosses fun b ↦ ⟨by simp, .nil⟩
  rw [losses, List.pairwise_flatMap]
  refine ⟨fun base _ ↦ (horder base).2, (pairwise_placed _ _).imp fun {e f} hlt ↦ ?_⟩
  intro x hx y hy
  obtain ⟨rest, hrest⟩ := (horder e).1 x hx
  obtain ⟨rest', hrest'⟩ := (horder f).1 y hy
  rw [← hrest, ← hrest']
  exact List.cons_lt_cons_iff.mpr (.inl (by simpa using hlt))

end Query

/-! ## The log -/

namespace JoinedRow

/-- Under the plans of a forest the log reports what is lost at its links and, in between, what
the links that follow report of its bindings. -/
theorem entries_expand_forest {s : Snapshot} {ls : List Link} {source : Option Json} {n : Nat}
    {above : Option Record} {links rest : List (PlannedLink × List KeyedRecord)}
    {row : JoinedRow} {rows : List JoinedRow} {next : Binding → List Loss} {b : Binding}
    (hfaces : Faces s links source n ls row) (hsource : row.source source = above)
    (hbase : row.base = b.base.2) (hcount : b.bound.length = n)
    (h : (expand (links ++ rest) row).result = .ok rows)
    (hnext : ∀ xs ∈ Link.forestBindings s ls above,
      (expand rest (row.extend (Link.aliases n ls) xs)).entries =
        (next (b.extend xs)).map Loss.entry) :
    (expand (links ++ rest) row).entries =
      (Link.forestLosses s ls above next b).map Loss.entry := by
  induction ls using Link.forest_induction generalizing source n above links rest row rows next b
    with
  | nil =>
      obtain rfl := List.map_eq_nil_iff.mp hfaces.plans
      simpa using hnext [] (by simp)
  | cons l ls below beside =>
      obtain ⟨cs, inner, outer, rfl, hinner, houter⟩ := hfaces.exists_split
      rw [List.cons_append, List.append_assoc] at h ⊢
      obtain ⟨hcs, hnan⟩ := hfaces.first
      obtain ⟨hstep, -⟩ := expand_cons hcs hnan h
      -- After each binding of the links below a choice come the links beside it, so that what they
      -- report stands between what is lost below.
      have hchoice : ∀ x ∈ l.choices s above,
          (expand (inner ++ (outer ++ rest))
              (row.bind (l.effectiveAlias (n + 1)) (x.map Prod.snd))).entries =
            (Link.forestLosses s l.links (x.map Prod.snd)
              (Link.forestLosses s ls above next) (b.bind x)).map Loss.entry := by
        intro x hx
        have hx' := hstep x (hsource ▸ hx)
        obtain ⟨hfacesBelow, hsourceBelow⟩ := hfaces.below hinner (x.map Prod.snd)
        obtain ⟨hdone, -⟩ := expand_forest hfacesBelow hx'
        rw [hsourceBelow] at hdone
        refine below hfacesBelow hsourceBelow hbase (by simp [Binding.bind, hcount]) hx'
          fun ys hys ↦ ?_
        have hlength := Link.length_of_mem_forestBindings hys
        obtain ⟨hfacesBeside, hsourceBeside⟩ := hfaces.beside houter (x :: ys)
        rw [← extend_cons]
        refine beside hfacesBeside (hsourceBeside.trans hsource) hbase ?_
          (extend_cons row _ _ x ys ▸ hdone ys hys) fun zs hzs ↦ ?_
        · simp [Binding.bind, Binding.extend, hcount, hlength, Nat.add_assoc, Nat.add_comm]
        · rw [extend_aliases_cons row l ls n hys, ← Binding.extend_append, ← Binding.extend_cons]
          refine hnext _ ?_
          simp only [Link.forestBindings_cons, List.mem_flatMap, List.mem_map]
          exact ⟨x, hx, ys, hys, zs, hzs, rfl⟩
      rw [entries_expand_cons hcs hnan h, Link.forestLosses_cons, hsource]
      cases hchoices : l.choices s above with
      | nil =>
          change [PlannedLink.droppedEntry ⟨l, l.effectiveAlias (n + 1), source⟩ row.base] = _
          rw [hbase, ← hcount]
          rfl
      | cons y ys =>
          rw [List.map_flatMap]
          exact List.flatMap_congr fun x hx ↦ hchoice x (hchoices ▸ hx)

theorem entries_expand_base {q : Query} {s : Snapshot}
    {links : List (PlannedLink × List KeyedRecord)} {base : PlacedRecord} {rows : List JoinedRow}
    (hplans : q.planLinks = .ok (links.map Prod.fst))
    (hself : ∀ p ∈ links.map Prod.fst, p.aliasName.same p.aliasName = true)
    (hcandidates : ∀ e ∈ links, e.1.candidates s = .ok e.2)
    (hnan : ∀ l ∈ Link.preorderEach q.links, l.NoNaNKey s)
    (h : (expand links ⟨base.2, []⟩).result = .ok rows) :
    (expand links ⟨base.2, []⟩).entries =
      (Link.forestLosses s q.links (some base.2) (fun _ ↦ []) ⟨base, []⟩).map Loss.entry := by
  have hfaces := faces_base hplans hself hcandidates hnan base.2
  rw [← List.append_nil links] at h ⊢
  exact entries_expand_forest hfaces rfl rfl rfl h fun _ _ ↦ rfl

end JoinedRow

namespace Query

theorem entries_rows {q : Query} {s : Snapshot} {plans : List PlannedLink}
    {rows : List JoinedRow} (hplans : q.planLinks = .ok plans)
    (hself : ∀ p ∈ plans, p.aliasName.same p.aliasName = true)
    (hnan : ∀ l ∈ Link.preorderEach q.links, l.NoNaNKey s)
    (h : (q.rows s plans).result = .ok rows) :
    (q.rows s plans).entries = (q.losses s).map Loss.entry := by
  obtain ⟨links, hlinks, -, hrows⟩ := rows_eq_flatMap h
  obtain ⟨rfl, hcandidates⟩ := PlannedLink.allCandidates_eq_ok hlinks
  rw [hrows, ← map_snd_placed, Traced.flatMap_map] at h ⊢
  obtain ⟨hall, -⟩ := Traced.flatMap_result_eq_ok_iff.mp h
  rw [Traced.entries_flatMap hall, losses, List.map_flatMap]
  exact List.flatMap_congr fun base hbase ↦
    JoinedRow.entries_expand_base hplans hself hcandidates hnan (hall base hbase)

theorem entries_orderedRows {q : Query} {s : Snapshot} {plans : List PlannedLink}
    {rows : List JoinedRow} (h : (q.orderedRows s plans).result = .ok rows) :
    ∃ unsorted, (q.rows s plans).result = .ok unsorted ∧
      (q.orderedRows s plans).entries = (q.rows s plans).entries := by
  obtain ⟨unsorted, hunsorted, h⟩ := bind_eq_ok_iff.mp ((Traced.result_bind _ _).symm.trans h)
  obtain ⟨sorted, hsorted, -⟩ := bind_eq_ok_iff.mp ((Traced.result_bind _ _).symm.trans h)
  refine ⟨unsorted, hunsorted, ?_⟩
  rw [orderedRows, Traced.entries_bind hunsorted, Traced.entries_bind hsorted]
  simp

/-- The log of an answered query reports the rows that its joins lost, unless an alias or a join
key is a NaN. -/
theorem reportsLosses_of_evaluate {q : Query} {s : Snapshot} {policy : NullPolicy}
    {c : Collection} (haliases : q.NoNaNAlias)
    (hkeys : ∀ l ∈ Link.preorderEach q.links, l.NoNaNKey s)
    (h : (q.evaluate s policy).result = .ok c) :
    q.ReportsLosses s c (q.evaluate s policy).entries := by
  simp only [evaluate, Traced.result_bind, Traced.result_silent, Traced.result_write,
    bind_eq_ok_iff, mapError_eq_ok_iff] at h
  obtain ⟨plans, hplans, ⟨⟩, hvalidated, rows, hrows, -, -, h⟩ := h
  obtain rfl := Except.ok.inj h
  obtain ⟨unsorted, hunsorted, hordered⟩ := entries_orderedRows hrows
  have hself := same_self_of_validate hplans hvalidated haliases
  have hcount : plans.length = (Link.preorderEach q.links).length := by
    rw [(planLinks_eq_ok_iff.mp hplans).1, Link.length_numberedEach]
  refine ⟨q.losses s, pairwise_losses, fun x ↦ mem_losses, ?_⟩
  rw [evaluate, hplans, mapError_ok, Traced.silent_ok_bind, hvalidated, Traced.silent_ok_bind,
    Traced.entries_bind hrows, hordered, entries_rows hplans hself hkeys hunsorted, ← hcount]
  rfl

/-- Only one of three accounts has a contact with a task and a region. -/
def lossyContents : Snapshot :=
  let code : Value := .number (.integer 7)
  let account (n : Nat) (region : Value) : Record := ⟨"account", some (Guid.ofNat n),
    OrderedMap.ofList [("region", region)]⟩
  let contact (n parent : Nat) : Record := ⟨"contact", some (Guid.ofNat n),
    OrderedMap.ofList [("parent", .reference (.str "account") (Guid.ofNat parent) .null)]⟩
  let task (n owner : Nat) : Record := ⟨"task", some (Guid.ofNat n),
    OrderedMap.ofList [("owner", .reference (.str "contact") (Guid.ofNat owner) .null)]⟩
  let region : Record := ⟨"region", some (Guid.ofNat 9), OrderedMap.ofList [("code", code)]⟩
  [account 1 .null, account 2 code, account 3 code, contact 4 1, contact 5 1, contact 6 2,
    task 7 4, task 8 6, region].foldl
      (fun s r ↦ s.put (r.id.getD (Guid.ofNat 0)) r) .empty

/-- Accounts with their contacts and the tasks of these, and with their regions. -/
def lossyQuery : Query :=
  let task : Link := ⟨.str "contact", .str "task", .str "contactid", .str "owner", .inner,
    .str "job", .none, .empty, []⟩
  let contact : Link := ⟨.str "account", .str "contact", .str "accountid", .str "parent", .inner,
    .null, .none, .empty, [task]⟩
  let region : Link := ⟨.str "account", .str "region", .str "region", .str "code", .inner, .null,
    .none, .empty, []⟩
  ⟨.str "account", .none, .empty, [contact, region], [], some 5⟩

/-- Of the first account one contact has no task and, before that, one with a task meets no
region; the third account has no contact. -/
theorem reportsLosses_example :
    ∃ c, lossyQuery.NoNaNAlias ∧
      (∀ l ∈ Link.preorderEach lossyQuery.links, l.NoNaNKey lossyContents) ∧
      (lossyQuery.evaluate lossyContents .omit).result = .ok c ∧
      (lossyQuery.evaluate lossyContents .omit).entries.map Log.Entry.message =
        ["Dropping account 00000000-0000-0000-0000-000000000001: no region match for link " ++
            "'region3'",
          "Dropping account 00000000-0000-0000-0000-000000000001: no task match for link 'job'",
          "Dropping account 00000000-0000-0000-0000-000000000003: no contact match for link " ++
            "'contact1'",
          "Query on account with 3 link(s) returned 1 row(s)"] ∧
      lossyQuery.ReportsLosses lossyContents c
        (lossyQuery.evaluate lossyContents .omit).entries := by
  have haliases : lossyQuery.NoNaNAlias := by
    unfold NoNaNAlias
    decide
  have hkeys : ∀ l ∈ Link.preorderEach lossyQuery.links, l.NoNaNKey lossyContents := by
    unfold Link.NoNaNKey
    decide +kernel
  have hanswered : (lossyQuery.evaluate lossyContents .omit).result.map
      (fun c ↦ c.records.length) = .ok 1 := by decide +kernel
  obtain ⟨c, hc, -⟩ := map_eq_ok_iff.mp hanswered
  exact ⟨c, haliases, hkeys, hc, by decide +kernel,
    reportsLosses_of_evaluate haliases hkeys hc⟩

/-- As `nanAliasQuery`, but no record matches the link below the one with a NaN for an alias. -/
def nanAliasLossyQuery : Query :=
  let c : Link := ⟨.str "b", .str "c", .str "m", .str "n", .inner, .str "c", .none, .empty, []⟩
  let b : Link := ⟨.str "a", .str "b", .str "k", .str "k", .inner, .double .nan, .none, .empty, [c]⟩
  ⟨.str "a", .none, .empty, [b], [], none⟩

/-- Below a link with a NaN for an alias nothing is looked for, so no loss is reported. -/
theorem not_reportsLosses_nanAlias :
    (∀ l ∈ Link.preorderEach nanAliasLossyQuery.links, l.NoNaNKey chainContents) ∧
      ∃ c, (nanAliasLossyQuery.evaluate chainContents .omit).result = .ok c ∧
        ¬nanAliasLossyQuery.ReportsLosses chainContents c
          (nanAliasLossyQuery.evaluate chainContents .omit).entries := by
  have hkeys : ∀ l ∈ Link.preorderEach nanAliasLossyQuery.links, l.NoNaNKey chainContents := by
    unfold Link.NoNaNKey
    decide +kernel
  have hanswered : (nanAliasLossyQuery.evaluate chainContents .omit).result.map
      (fun c ↦ c.records.length) = .ok 1 := by decide +kernel
  obtain ⟨c, hc, -⟩ := map_eq_ok_iff.mp hanswered
  refine ⟨hkeys, c, hc, ?_⟩
  rintro ⟨losses, -, hlosses, hlog⟩
  have hentries : (nanAliasLossyQuery.evaluate chainContents .omit).entries.length = 1 := by
    decide +kernel
  have hlost : (nanAliasLossyQuery.losses chainContents).length = 1 := by decide +kernel
  obtain ⟨x, hx⟩ := List.length_eq_one_iff.mp hlost
  have hmem : x ∈ losses := (hlosses x).mpr (mem_losses.mp (by simp [hx]))
  rw [hlog, List.length_append, List.length_map] at hentries
  have hempty : losses = [] := List.length_eq_zero_iff.mp (by simpa using hentries)
  simp [hempty] at hmem

end Query

end OrgService
