import OrgService.Proofs.Store.History
import OrgService.Store.Scan
import OrgService.Store.View

/-!
# Sessions

A session seeds a store, takes snapshots of it, reads the store and the snapshots, and advances
scans of either one record at a time, all in any order. A ledger goes through the same actions but
keeps no tables: it knows the history of the store and what the history was when a snapshot was
taken or a scan began. It writes down a batch as it was given, with identifiers filled in.
-/

namespace OrgService.Store

inductive Reading where
  | get (entityName : String) (id : Guid)
  | scan (entityName : String)
  | hasType (entityName : String)
  | attributes (entityName : String)

/-- A step of a session. Snapshots and scans are numbered in the order of their creation. -/
inductive Action where
  | seed (batch : List Record)
  | snapshot
  | read (snapshot : Nat) (reading : Reading)
  | get (entityName : String) (id : Guid)
  | typeNames
  | scan (entityName : String)
  | scanSnapshot (snapshot : Nat) (entityName : String)
  | advance (scan : Nat)

/-- What a step answers. Names of attributes and types come in no order. -/
inductive Answer where
  | done
  | seeded (stored : Option (List Record))
  | record (r : Option Record)
  | records (rs : List Record)
  | truth (holds : Prop)
  | names (ns : Set String)
  | missing

def answers {σ : Type} (step : σ → Action → σ × Answer) (x : σ) : List Action → List Answer
  | [] => []
  | a :: as => (step x a).2 :: answers step (step x a).1 as

def after {σ : Type} (step : σ → Action → σ × Answer) (x : σ) (as : List Action) : σ :=
  as.foldl (fun x a ↦ (step x a).1) x

/-! ## The store itself -/

/-- A scan under way, of the store or of fixed contents. -/
structure Cursor where
  fixed : Option Snapshot
  scan : Scan

structure Session where
  store : Store
  views : List View
  cursors : List Cursor

end Store

def View.read (v : View) : Store.Reading → View × Store.Answer
  | .get entityName id => (v, .record (v.contents.get? entityName id))
  | .scan entityName => (v, .records (v.contents.scan entityName))
  | .hasType entityName => (v, .truth (v.contents.hasType entityName = true))
  | .attributes entityName =>
    ((v.knownAttributes entityName).2, .names {a | a ∈ (v.knownAttributes entityName).1})

namespace Store

namespace Session

def new (generator : IdGenerator) (rejectDuplicates : Bool) : Session :=
  ⟨Store.new generator rejectDuplicates, [], []⟩

def step (x : Session) : Action → Session × Answer
  | .seed batch =>
    ({ x with store := (x.store.seed batch).1 },
      .seeded (x.store.seed batch).2.result.toOption)
  | .snapshot => ({ x with views := x.views ++ [View.ofContents x.store.contents] }, .done)
  | .read i reading =>
    match x.views[i]? with
    | some v => ({ x with views := x.views.set i (v.read reading).1 }, (v.read reading).2)
    | none => (x, .missing)
  | .get entityName id => (x, .record (x.store.contents.get? entityName id))
  | .typeNames => (x, .names {n | n ∈ x.store.typeNames})
  | .scan entityName => ({ x with cursors := x.cursors ++ [⟨none, .pending entityName⟩] }, .done)
  | .scanSnapshot i entityName =>
    match x.views[i]? with
    | some v =>
      ({ x with cursors := x.cursors ++ [⟨some v.contents, .pending entityName⟩] }, .done)
    | none => (x, .missing)
  | .advance i =>
    match x.cursors[i]? with
    | some c =>
      let (r, scan) := c.scan.advance (c.fixed.getD x.store.contents)
      ({ x with cursors := x.cursors.set i { c with scan } }, .record r)
    | none => (x, .missing)

/-- The session with one more batch in its store, if this is accepted. -/
def seed (x : Session) (batch : List Record) : Session := (x.step (.seed batch)).1

def Accepts (x : Session) (batch : List Record) : Prop :=
  ∃ stored, (x.step (.seed batch)).2 = .seeded (some stored)

end Session

/-! ## Its history -/

/-- How many records need an identifier. -/
def unidentified (batch : List Record) : Nat := batch.countP fun r ↦ r.id.isNone

/-- A batch as it is stored: every record as it was given, but one without an identifier has the
identifier that the generator comes to after those for the records before it. -/
def identified (g : IdGenerator) (batch : List Record) : List Record :=
  batch.mapIdx fun i r ↦
    { r with id := some (r.id.getD (g.stream (g.handed + unidentified (batch.take i)))) }

/-- A scan that has not begun, or the records it settled on with the number of those handed out. -/
inductive Mark where
  | pending (fixed : Option History) (entityName : String)
  | begun (settled : List Record) (handed : Nat)

/-- The history of a store, now and as of each snapshot, with the marks of its scans. -/
structure Ledger where
  strict : Bool
  generator : IdGenerator
  history : History
  snapshots : List History
  marks : List Mark

end Store

/-- The generator after some more identifiers. -/
def IdGenerator.skip (g : IdGenerator) (count : Nat) : IdGenerator :=
  { g with handed := g.handed + count }

def History.read (h : History) : Store.Reading → Store.Answer
  | .get entityName id => .record (h.get? entityName id)
  | .scan entityName => .records (h.scan entityName)
  | .hasType entityName => .truth (entityName ∈ h.typeNames)
  | .attributes entityName => .names (h.attributes entityName)

namespace Store

def Mark.advance (h : History) : Mark → Mark × Option Record
  | .pending fixed entityName =>
    let settled := (fixed.getD h).scan entityName
    (.begun settled 1, settled[0]?)
  | .begun settled handed => (.begun settled (handed + 1), settled[handed]?)

namespace Ledger

def new (generator : IdGenerator) (strict : Bool) : Ledger := ⟨strict, generator, [], [], []⟩

/-- A strict ledger accepts a batch if no identity repeats in it or in the history. -/
def Accepts (l : Ledger) (stored : List Record) : Prop :=
  l.strict = true → ((l.history ++ stored).map Record.identity).Nodup

instance (l : Ledger) (stored : List Record) : Decidable (l.Accepts stored) :=
  inferInstanceAs (Decidable (_ → _))

/-- Appends a batch with its identifiers to the history, if it is accepted. -/
def seed (l : Ledger) (batch : List Record) : Ledger × Answer :=
  let stored := identified l.generator batch
  let l' := { l with generator := l.generator.skip (unidentified batch) }
  if l.Accepts stored then ({ l' with history := l.history ++ stored }, .seeded (some stored))
  else (l', .seeded none)

def step (l : Ledger) : Action → Ledger × Answer
  | .seed batch => l.seed batch
  | .snapshot => ({ l with snapshots := l.snapshots ++ [l.history] }, .done)
  | .read i reading =>
    match l.snapshots[i]? with
    | some h => (l, h.read reading)
    | none => (l, .missing)
  | .get entityName id => (l, .record (l.history.get? entityName id))
  | .typeNames => (l, .names l.history.typeNames)
  | .scan entityName => ({ l with marks := l.marks ++ [.pending none entityName] }, .done)
  | .scanSnapshot i entityName =>
    match l.snapshots[i]? with
    | some h => ({ l with marks := l.marks ++ [.pending (some h) entityName] }, .done)
    | none => (l, .missing)
  | .advance i =>
    match l.marks[i]? with
    | some m => ({ l with marks := l.marks.set i (m.advance l.history).1 },
        .record (m.advance l.history).2)
    | none => (l, .missing)

end Ledger

end OrgService.Store
