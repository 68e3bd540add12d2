import OrgService.Service
import OrgService.Settings

/-!
# Contexts

A context is a seeded organization: a store with the service that reads it under a null policy.
What is not given explicitly comes from the environment.
-/

namespace OrgService

/-- Where a context takes its generator of identifiers from. -/
inductive GeneratorChoice where
  | given (generator : IdGenerator)
  | named (name : String)
  | ofEnvironment

/-- What is given explicitly for a new context. -/
structure ContextOptions where
  nullPolicy : Option NullPolicy
  rejectDuplicates : Option Bool
  generator : GeneratorChoice

/-- A store and the null policy that it is read under. -/
structure Context where
  store : Store
  policy : NullPolicy

namespace GeneratorChoice

/-- The chosen generator; a new one takes its identifiers from `streams`. -/
def resolve (env : Environment) (streams : IdStreams) : GeneratorChoice → Except Fault IdGenerator
  | .given generator => .ok generator
  | .named name =>
    match IdScheme.ofText? name with
    | some scheme => .ok (scheme.generator streams)
    | none => .error (.unknownGenerator name)
  | .ofEnvironment => (Settings.idScheme env).map fun scheme ↦ scheme.generator streams

end GeneratorChoice

/-- A value given explicitly, or else the one the environment sets. -/
def givenOr {α : Type} (given : Option α) (fallback : Except Fault α) : Except Fault α :=
  match given with
  | some a => .ok a
  | none => fallback

namespace Context

def create (env : Environment) (streams : IdStreams) (options : ContextOptions) :
    Except Fault Context := do
  let policy ← givenOr options.nullPolicy (Settings.nullPolicy env)
  let rejectDuplicates ← givenOr options.rejectDuplicates (Settings.rejectDuplicates env)
  let generator ← options.generator.resolve env streams
  .ok ⟨Store.new generator rejectDuplicates, policy⟩

/-- A context over a store that exists already. Its duplicate policy stays; the environment must
make sense all the same where nothing is given. -/
def sharing (store : Store) (env : Environment) (nullPolicy : Option NullPolicy)
    (rejectDuplicates : Option Bool) : Except Fault Context := do
  let policy ← givenOr nullPolicy (Settings.nullPolicy env)
  let _ ← givenOr rejectDuplicates (Settings.rejectDuplicates env)
  .ok ⟨store, policy⟩

def readyEntry (count : Nat) : Log.Entry :=
  .diagnostic .context ("Context initialized with " ++ toString count ++ " record(s)")

/-- Seeds the store. -/
def seed (c : Context) (records : List Record) : Context × Traced (List Record) :=
  let (store, seeded) := c.store.seed records
  ({ c with store },
    do
      let stored ← seeded
      Traced.write (readyEntry stored.length)
      pure stored)

def execute (c : Context) (r : Request) : Traced Response :=
  Service.execute c.store.contents c.policy r

def retrieve (c : Context) (entityName : Json) (id : Option Guid) (columns : ColumnSet) :
    Traced Response :=
  c.execute (.retrieve entityName id columns)

def retrieveMultiple (c : Context) (query : Query) : Traced Response :=
  c.execute (.retrieveMultiple query)

end Context

end OrgService
