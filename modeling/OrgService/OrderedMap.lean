/-!
# Maps in insertion order

A map from keys to values that remembers the order in which its keys first came. Writing a key
that is present replaces its value in place.
-/

namespace OrgService

/-- Inserts a binding into a list of bindings: in place if the key is there, else at the end. -/
def insertBinding {κ ν : Type} [DecidableEq κ] (k : κ) (v : ν) : List (κ × ν) → List (κ × ν)
  | [] => [(k, v)]
  | (k', v') :: rest => if k' = k then (k', v) :: rest else (k', v') :: insertBinding k v rest

theorem mem_keys_insertBinding {κ ν : Type} [DecidableEq κ] {k x : κ} {v : ν}
    {kvs : List (κ × ν)} :
    x ∈ (insertBinding k v kvs).map Prod.fst ↔ x ∈ kvs.map Prod.fst ∨ x = k := by
  induction kvs with
  | nil => simp [insertBinding]
  | cons kv rest ih =>
    obtain ⟨k', v'⟩ := kv
    by_cases h : k' = k
    · subst h
      simp only [insertBinding, ↓reduceIte, List.map_cons, List.mem_cons]
      constructor
      · rintro (rfl | hx)
        · exact .inr rfl
        · exact .inl (.inr hx)
      · rintro ((rfl | hx) | rfl)
        · exact .inl rfl
        · exact .inr hx
        · exact .inl rfl
    · simp only [insertBinding, h, ↓reduceIte, List.map_cons, List.mem_cons]
      rw [ih]
      simp only [or_assoc]

theorem nodup_insertBinding {κ ν : Type} [DecidableEq κ] (k : κ) (v : ν) {kvs : List (κ × ν)}
    (h : (kvs.map Prod.fst).Nodup) : ((insertBinding k v kvs).map Prod.fst).Nodup := by
  induction kvs with
  | nil => simp [insertBinding]
  | cons kv rest ih =>
    obtain ⟨k', v'⟩ := kv
    simp only [List.map_cons, List.nodup_cons] at h
    by_cases hk : k' = k
    · simp only [insertBinding, hk, ↓reduceIte, List.map_cons, List.nodup_cons]
      exact ⟨hk ▸ h.1, h.2⟩
    · simp only [insertBinding, hk, ↓reduceIte, List.map_cons, List.nodup_cons]
      exact ⟨fun hm ↦ (mem_keys_insertBinding.1 hm).elim h.1 hk, ih h.2⟩

/-- A map in insertion order: no key occurs twice. -/
structure OrderedMap (κ ν : Type) where
  entries : List (κ × ν)
  nodup : (entries.map Prod.fst).Nodup

namespace OrderedMap

variable {κ ν : Type}

instance [Repr κ] [Repr ν] : Repr (OrderedMap κ ν) := ⟨fun m _ ↦ repr m.entries⟩

def empty : OrderedMap κ ν := ⟨[], by simp⟩

instance : Inhabited (OrderedMap κ ν) := ⟨empty⟩

def keys (m : OrderedMap κ ν) : List κ := m.entries.map Prod.fst

def values (m : OrderedMap κ ν) : List ν := m.entries.map Prod.snd

def size (m : OrderedMap κ ν) : Nat := m.entries.length

variable [DecidableEq κ]

instance [DecidableEq ν] : DecidableEq (OrderedMap κ ν) := fun a b ↦
  decidable_of_iff (a.entries = b.entries) (by cases a; cases b; simp)

def get? (m : OrderedMap κ ν) (k : κ) : Option ν :=
  (m.entries.find? fun e ↦ e.1 = k).map Prod.snd

def contains (m : OrderedMap κ ν) (k : κ) : Bool := (m.get? k).isSome

def insert (m : OrderedMap κ ν) (k : κ) (v : ν) : OrderedMap κ ν :=
  ⟨insertBinding k v m.entries, nodup_insertBinding k v m.nodup⟩

def erase (m : OrderedMap κ ν) (k : κ) : OrderedMap κ ν :=
  ⟨m.entries.filter fun e ↦ e.1 ≠ k, m.nodup.sublist (List.filter_sublist.map _)⟩

def insertAll (m : OrderedMap κ ν) (kvs : List (κ × ν)) : OrderedMap κ ν :=
  kvs.foldl (fun m e ↦ m.insert e.1 e.2) m

/-- The map of the given bindings, in order; a later one replaces the value of an earlier. -/
def ofList (kvs : List (κ × ν)) : OrderedMap κ ν := empty.insertAll kvs

end OrderedMap

end OrgService
