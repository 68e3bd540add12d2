import OrgService.Fault
import OrgService.Log.Level

/-!
# Log entries

Operations report what they do as log entries, each on a channel of its own. A traced operation
yields the entries it wrote, in order, and its result; the entries of an operation that fails are
those up to the failure.
-/

namespace OrgService.Log

/-- Where an entry comes from. -/
inductive Channel where
  | store
  | context
  | bus
  | retrieval
  | join
  | evaluation
  | program
  | command
  deriving DecidableEq, Repr

def Channel.name : Channel → String
  | .store => "fakeorg.adapters.entity_store.memory"
  | .context => "fakeorg.bootstrap.bootstrap"
  | .bus => "fakeorg.service_layer.messagebus"
  | .retrieval => "fakeorg.service_layer.handlers"
  | .join => "fakeorg.service_layer.query.link_resolver"
  | .evaluation => "fakeorg.service_layer.query.evaluator"
  | .program => "fakeorg.entrypoints.cli.main"
  | .command => "fakeorg.entrypoints.cli.commands"

/-- One line of the log. -/
structure Entry where
  level : Nat
  channel : Channel
  message : String
  deriving DecidableEq, Repr

def Entry.diagnostic (channel : Channel) (message : String) : Entry := ⟨debug, channel, message⟩

end OrgService.Log

namespace OrgService

/-- An operation that writes log entries and then succeeds or fails. -/
structure Traced (α : Type) where
  entries : List Log.Entry
  result : Except Fault α

namespace Traced

/-- Goes on after success; a failure ends the operation. -/
def andThen {α β : Type} (x : Traced α) (f : α → Traced β) : Traced β :=
  match x.result with
  | .error e => ⟨x.entries, .error e⟩
  | .ok a => ⟨x.entries ++ (f a).entries, (f a).result⟩

instance : Monad Traced where
  pure a := ⟨[], .ok a⟩
  bind := andThen

def silent {α : Type} (x : Except Fault α) : Traced α := ⟨[], x⟩

def write (e : Log.Entry) : Traced Unit := ⟨[e], .ok ()⟩

/-- Does an operation for each element in turn and strings the answers together. -/
def flatMap {α β : Type} (f : α → Traced (List β)) : List α → Traced (List β)
  | [] => pure []
  | x :: xs => do
    let ys ← f x
    let zs ← flatMap f xs
    pure (ys ++ zs)

end Traced

end OrgService
