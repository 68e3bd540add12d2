import Mathlib.Data.List.Basic
import OrgService.Proofs.Query.LinkForest
import OrgService.Proofs.Trace
import OrgService.Query.Join

/-!
# Bindings

What a query joins can be said without plans and aliases: a binding picks a base record and, for
every link of the forest in depth-first order, a record of its target type or nothing. Records are
picked with their position in the scan of their type, so that bindings have an order. This module
lists the bindings of a query and proves the list complete, free of repetitions and sorted.
-/

namespace OrgService

/-- A record with its position in the scan of its type. -/
abbrev PlacedRecord := Nat × Record

/-- The records of the type that a name refers to; only texts name types. -/
def Snapshot.recordsOf (s : Snapshot) : Json → List Record
  | .str n => s.scan n
  | _ => []

/-- The join key of an attribute of a record, if it has one; only texts name attributes. -/
def Record.joinKey? (r : Record) : Json → Option Comparable
  | .str name => (r.lookup name).joinKey
  | _ => none

namespace Link

/-- A link joins a record to one of its target type that has an equal key and satisfies the
criteria of the link. -/
def Joins (l : Link) (source r : Record) : Prop :=
  ∃ k k', source.joinKey? l.fromAttr = some k ∧ r.joinKey? l.toAttr = some k' ∧
    k.equal k' = .ok true ∧ l.criteria.holds r = .ok true

/-- What a link may bind, given what the link above it bound. -/
inductive Binds (s : Snapshot) (l : Link) : Option Record → Option PlacedRecord → Prop
  | below_nothing : Binds s l none none
  | matched {source r : Record} {i : Nat} (hr : (s.recordsOf l.toEntity)[i]? = some r)
      (hjoins : l.Joins source r) : Binds s l (some source) (some (i, r))
  | unmatched {source : Record} (hnone : ∀ r ∈ s.recordsOf l.toEntity, ¬l.Joins source r)
      (houter : l.join = .outer) : Binds s l (some source) none

/-- What the links of a forest may bind below one record, in depth-first order. -/
inductive BindsEach (s : Snapshot) : List Link → Option Record → List (Option PlacedRecord) → Prop
  | nil {source : Option Record} : BindsEach s [] source []
  | cons {l : Link} {ls : List Link} {source : Option Record} {bound : Option PlacedRecord}
      {below beside : List (Option PlacedRecord)} (hbound : l.Binds s source bound)
      (hbelow : BindsEach s l.links (bound.map Prod.snd) below)
      (hbeside : BindsEach s ls source beside) :
      BindsEach s (l :: ls) source (bound :: (below ++ beside))

end Link

/-- A base record with what each link binds, in depth-first order. -/
structure Binding where
  base : PlacedRecord
  bound : List (Option PlacedRecord)

namespace Binding

/-- The scan positions of a binding; bindings are ordered by them. -/
def positions (b : Binding) : List (Option Nat) :=
  some b.base.1 :: b.bound.map (Option.map Prod.fst)

def row (aliases : List Json) (b : Binding) : JoinedRow :=
  ⟨b.base.2, aliases.zip (b.bound.map (Option.map Prod.snd))⟩

end Binding

/-- A base record that passes the criteria, with records that fit the links of the query. -/
def Query.Admits (q : Query) (s : Snapshot) (b : Binding) : Prop :=
  (s.recordsOf q.entityName)[b.base.1]? = some b.base.2 ∧
    q.criteria.holds b.base.2 = .ok true ∧ Link.BindsEach s q.links (some b.base.2) b.bound

/-! ## Listing what links bind -/

/-- The records of a list that pass a test, with their positions. -/
def placed (test : Record → Bool) (rs : List Record) : List PlacedRecord :=
  (rs.zipIdx.filter fun e ↦ test e.1).map Prod.swap

theorem mem_placed {test : Record → Bool} {rs : List Record} {i : Nat} {r : Record} :
    (i, r) ∈ placed test rs ↔ rs[i]? = some r ∧ test r = true := by
  simp [placed, List.mem_zipIdx_iff_getElem?]

theorem pairwise_placed (test : Record → Bool) (rs : List Record) :
    (placed test rs).Pairwise fun e f ↦ e.1 < f.1 := by
  have hpositions : rs.zipIdx.Pairwise fun e f ↦ e.2 < f.2 := by
    rw [← List.pairwise_map, List.zipIdx_map_snd]
    exact List.pairwise_lt_range'
  exact List.pairwise_map.mpr (hpositions.sublist List.filter_sublist)

theorem map_snd_placed (test : Record → Bool) (rs : List Record) :
    (placed test rs).map Prod.snd = rs.filter test := by
  conv_rhs => rw [← List.zipIdx_map_fst 0 rs, List.filter_map]
  simp [placed, Function.comp_def]

namespace Link

instance (l : Link) (source r : Record) : Decidable (l.Joins source r) :=
  match hk : source.joinKey? l.fromAttr, hk' : r.joinKey? l.toAttr with
  | some k, some k' =>
    decidable_of_iff (k.equal k' = .ok true ∧ l.criteria.holds r = .ok true)
      (by simp [Joins, hk, hk'])
  | none, _ => isFalse (by simp [Joins, hk])
  | some _, none => isFalse (by simp [Joins, hk'])

def joined (s : Snapshot) (l : Link) (source : Record) : List PlacedRecord :=
  placed (fun r ↦ l.Joins source r) (s.recordsOf l.toEntity)

def choices (s : Snapshot) (l : Link) : Option Record → List (Option PlacedRecord)
  | none => [none]
  | some source =>
    match l.joined s source, l.join with
    | [], .outer => [none]
    | found, _ => found.map some

mutual

/-- Everything that a link and the links below it may bind. -/
def treeBindings (s : Snapshot) : Link → Option Record → List (List (Option PlacedRecord))
  | link@⟨_, _, _, _, _, _, _, _, links⟩, source =>
    (link.choices s source).flatMap fun bound ↦
      (forestBindings s links (bound.map Prod.snd)).map (bound :: ·)

/-- Everything that the links of a forest may bind. -/
def forestBindings (s : Snapshot) : List Link → Option Record → List (List (Option PlacedRecord))
  | [], _ => [[]]
  | l :: ls, source =>
    (treeBindings s l source).flatMap fun above ↦
      (forestBindings s ls source).map (above ++ ·)

end

variable {s : Snapshot} {l : Link} {source : Record}

theorem mem_joined {i : Nat} {r : Record} :
    (i, r) ∈ l.joined s source ↔ (s.recordsOf l.toEntity)[i]? = some r ∧ l.Joins source r := by
  simp [joined, mem_placed]

theorem joined_eq_nil_iff :
    l.joined s source = [] ↔ ∀ r ∈ s.recordsOf l.toEntity, ¬l.Joins source r := by
  constructor
  · intro hnil r hr hjoins
    obtain ⟨i, hi⟩ := List.mem_iff_getElem?.mp hr
    have hmem := mem_joined.mpr ⟨hi, hjoins⟩
    simp [hnil] at hmem
  · intro hnone
    apply List.eq_nil_iff_forall_not_mem.mpr
    rintro ⟨i, r⟩ hmem
    obtain ⟨hi, hjoins⟩ := mem_joined.mp hmem
    exact hnone r (List.mem_of_getElem? hi) hjoins

theorem mem_choices {above : Option Record} {bound : Option PlacedRecord} :
    bound ∈ l.choices s above ↔ l.Binds s above bound := by
  cases above with
  | none =>
      simp only [choices, List.mem_singleton]
      constructor
      · rintro rfl
        exact .below_nothing
      · rintro ⟨⟩
        rfl
  | some source =>
      constructor
      · intro hmem
        simp only [choices] at hmem
        split at hmem
        · rename_i hnil houter
          obtain rfl := List.mem_singleton.mp hmem
          exact .unmatched (joined_eq_nil_iff.mp hnil) houter
        · obtain ⟨⟨i, r⟩, hfound, rfl⟩ := List.mem_map.mp hmem
          obtain ⟨hr, hjoins⟩ := mem_joined.mp hfound
          exact .matched hr hjoins
      · intro hbinds
        simp only [choices]
        cases hbinds with
        | matched hr hjoins =>
            have hfound := mem_joined.mpr ⟨hr, hjoins⟩
            split
            · rename_i hnil _
              simp [hnil] at hfound
            · exact List.mem_map_of_mem hfound
        | unmatched hnone houter => simp [joined_eq_nil_iff.mpr hnone, houter]

@[simp] theorem forestBindings_nil (above : Option Record) :
    forestBindings s [] above = [[]] := rfl

@[simp] theorem forestBindings_cons (ls : List Link) (above : Option Record) :
    forestBindings s (l :: ls) above =
      (l.choices s above).flatMap fun bound ↦
        (forestBindings s l.links (bound.map Prod.snd)).flatMap fun below ↦
          (forestBindings s ls above).map fun beside ↦ bound :: (below ++ beside) := by
  cases l
  simp only [forestBindings, treeBindings, List.flatMap_assoc, List.flatMap_map, List.cons_append]

/-- The listed bindings of a forest are those that fit it. -/
theorem mem_forestBindings {ls : List Link} {above : Option Record}
    {xs : List (Option PlacedRecord)} :
    xs ∈ forestBindings s ls above ↔ BindsEach s ls above xs := by
  induction ls using forest_induction generalizing above xs with
  | nil =>
      simp only [forestBindings_nil, List.mem_singleton]
      constructor
      · rintro rfl
        exact .nil
      · rintro ⟨⟩
        rfl
  | cons l ls below beside =>
      simp only [forestBindings_cons, List.mem_flatMap, List.mem_map, mem_choices, below, beside]
      constructor
      · rintro ⟨bound, hbound, ys, hys, zs, hzs, rfl⟩
        exact .cons hbound hys hzs
      · rintro ⟨⟩
        exact ⟨_, ‹_›, _, ‹_›, _, ‹_›, rfl⟩

theorem length_of_mem_forestBindings {ls : List Link} {above : Option Record}
    {xs : List (Option PlacedRecord)} (h : xs ∈ forestBindings s ls above) :
    xs.length = (preorderEach ls).length := by
  induction ls using forest_induction generalizing above xs with
  | nil => simp_all
  | cons l ls below beside =>
      simp only [forestBindings_cons, List.mem_flatMap, List.mem_map] at h
      obtain ⟨bound, -, ys, hys, zs, hzs, rfl⟩ := h
      simp [below hys, beside hzs]

/-- A binding of a forest has a place for each alias. -/
theorem length_aliases_of_mem {ls : List Link} {above : Option Record}
    {xs : List (Option PlacedRecord)} (h : xs ∈ forestBindings s ls above) (n : Nat) :
    (aliases n ls).length = xs.length := by
  rw [length_aliases, length_of_mem_forestBindings h]

/-! ## The order of bindings -/

abbrev positionsOf (xs : List (Option PlacedRecord)) : List (Option Nat) :=
  xs.map (Option.map Prod.fst)

theorem pairwise_choices (above : Option Record) :
    (l.choices s above).Pairwise fun x y ↦ x.map Prod.fst < y.map Prod.fst := by
  cases above with
  | none => simp [choices]
  | some source =>
      simp only [choices]
      split
      · simp
      · rw [List.pairwise_map]
        exact (pairwise_placed _ _).imp fun hlt ↦ by simpa using hlt

/-- Of two lists of one length, the first difference decides, whatever follows. -/
theorem append_lt_append {α : Type} [LT α] {xs ys : List α} (zs ws : List α)
    (hlength : xs.length = ys.length) (hlt : xs < ys) : xs ++ zs < ys ++ ws := by
  induction xs generalizing ys with
  | nil => cases ys <;> simp_all
  | cons x xs ih =>
      cases ys with
      | nil => simp at hlength
      | cons y ys =>
          simp only [List.cons_append, List.cons_lt_cons_iff] at hlt ⊢
          exact hlt.imp_right fun ⟨heq, hlt⟩ ↦ ⟨heq, ih (by simpa using hlength) hlt⟩

/-- The bindings of a forest are listed in the order of their scan positions, each once. -/
theorem pairwise_forestBindings (ls : List Link) (above : Option Record) :
    (forestBindings s ls above).Pairwise fun xs ys ↦ positionsOf xs < positionsOf ys := by
  induction ls using forest_induction generalizing above with
  | nil => simp
  | cons l ls below beside =>
      rw [forestBindings_cons, List.pairwise_flatMap]
      constructor
      · intro bound _
        rw [List.pairwise_flatMap]
        constructor
        · intro ys _
          rw [List.pairwise_map]
          refine (beside above).imp fun {zs ws} hlt ↦ ?_
          simp only [positionsOf, List.map_cons, List.map_append, List.cons_lt_cons_iff]
          exact .inr ⟨trivial, List.append_left_lt hlt⟩
        · refine (below _).imp_of_mem fun {ys ws} hys hws hlt ↦ ?_
          intro xs hxs xs' hxs'
          obtain ⟨zs, -, rfl⟩ := List.mem_map.mp hxs
          obtain ⟨zs', -, rfl⟩ := List.mem_map.mp hxs'
          have hlength := (length_of_mem_forestBindings hys).trans
            (length_of_mem_forestBindings hws).symm
          simp only [positionsOf, List.map_cons, List.map_append, List.cons_lt_cons_iff]
          exact .inr ⟨trivial, append_lt_append _ _ (by simpa using hlength) hlt⟩
      · refine (pairwise_choices above).imp fun {x y} hlt ↦ ?_
        intro xs hxs ys hys
        simp only [List.mem_flatMap, List.mem_map] at hxs hys
        obtain ⟨_, -, _, -, rfl⟩ := hxs
        obtain ⟨_, -, _, -, rfl⟩ := hys
        exact List.cons_lt_cons_iff.mpr (.inl hlt)

end Link

namespace Query

variable {q : Query} {s : Snapshot}

def placedBase (q : Query) (s : Snapshot) : List PlacedRecord :=
  placed (fun r ↦ q.criteria.holds r = .ok true) (s.recordsOf q.entityName)

def bindings (q : Query) (s : Snapshot) : List Binding :=
  (q.placedBase s).flatMap fun base ↦
    (Link.forestBindings s q.links (some base.2)).map fun bound ↦ ⟨base, bound⟩

theorem mem_placedBase {i : Nat} {r : Record} :
    (i, r) ∈ q.placedBase s ↔
      (s.recordsOf q.entityName)[i]? = some r ∧ q.criteria.holds r = .ok true := by
  simp [placedBase, mem_placed]

theorem mem_bindings {b : Binding} : b ∈ q.bindings s ↔ q.Admits s b := by
  obtain ⟨⟨i, r⟩, bound⟩ := b
  simp only [bindings, Admits, List.mem_flatMap, List.mem_map, Link.mem_forestBindings]
  constructor
  · rintro ⟨base, hbase, bound', hbound, heq⟩
    obtain ⟨rfl, rfl⟩ := Binding.mk.inj heq
    exact ⟨(mem_placedBase.mp hbase).1, (mem_placedBase.mp hbase).2, hbound⟩
  · rintro ⟨hr, hholds, hbound⟩
    exact ⟨(i, r), mem_placedBase.mpr ⟨hr, hholds⟩, bound, hbound, rfl⟩

theorem pairwise_bindings : (q.bindings s).Pairwise fun b c ↦ b.positions < c.positions := by
  rw [bindings, List.pairwise_flatMap]
  constructor
  · intro base _
    rw [List.pairwise_map]
    refine (Link.pairwise_forestBindings q.links (some base.2)).imp fun {xs ys} hlt ↦ ?_
    exact List.cons_lt_cons_iff.mpr (.inr ⟨rfl, hlt⟩)
  · refine (pairwise_placed _ _).imp fun {e f} hlt ↦ ?_
    intro b hb c hc
    obtain ⟨_, -, rfl⟩ := List.mem_map.mp hb
    obtain ⟨_, -, rfl⟩ := List.mem_map.mp hc
    exact List.cons_lt_cons_iff.mpr (.inl (by simpa using hlt))

end Query

end OrgService
