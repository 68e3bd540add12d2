import OrgService.Log.Entry
import OrgService.NullPolicy
import OrgService.Request
import OrgService.Store

/-!
# The message bus

A bus routes every request by its kind to the one handler for that kind. A handler may depend on
the contents of the store and on the null policy; it answers only once they are bound to it. The
bus reports every call, every failure of a handler, and every request that nobody handles.
-/

namespace OrgService

/-- How a handler finds its answer. -/
inductive Answering (α : Type) where
  | plain (answer : Request → Traced α)
  | fromStore (answer : Snapshot → Request → Traced α)
  | fromPolicy (answer : NullPolicy → Request → Traced α)
  | fromBoth (answer : Snapshot → NullPolicy → Request → Traced α)

/-- A handler of requests. One without a name is told apart by a description. -/
structure Handler (α : Type) where
  name : Option String
  description : String
  answering : Answering α

namespace Handler

variable {α : Type}

def named (name : String) (answering : Answering α) : Handler α := ⟨some name, name, answering⟩

def title (h : Handler α) : String := h.name.getD h.description

def needs (h : Handler α) : List Dependency :=
  match h.answering with
  | .plain _ => []
  | .fromStore _ => [.store]
  | .fromPolicy _ => [.nullPolicy]
  | .fromBoth _ => [.store, .nullPolicy]

def bind (s : Snapshot) (policy : NullPolicy) (h : Handler α) : Handler α :=
  ⟨h.name, "functools.partial(" ++ h.description ++ ")",
    match h.answering with
    | .plain answer => .plain answer
    | .fromStore answer => .plain (answer s)
    | .fromPolicy answer => .plain (answer policy)
    | .fromBoth answer => .plain (answer s policy)⟩

def answer (h : Handler α) (r : Request) : Traced α :=
  match h.answering with
  | .plain answer => answer r
  | _ => Traced.silent (.error (.handler (.unbound h.title h.needs)))

end Handler

abbrev MessageBus (α : Type) := OrderedMap String (Handler α)

namespace MessageBus

variable {α : Type}

def bind (s : Snapshot) (policy : NullPolicy) (bus : MessageBus α) : MessageBus α :=
  OrderedMap.ofList (bus.entries.map fun e ↦ (e.1, e.2.bind s policy))

def callEntry (kind title : String) : Log.Entry :=
  .diagnostic .bus ("Handling request " ++ kind ++ " with handler " ++ title)

def failureEntry (kind title : String) : Log.Entry :=
  ⟨Log.error, .bus, "Exception handling request " ++ kind ++ " with handler " ++ title⟩

def unhandledEntry (kind : String) : Log.Entry :=
  ⟨Log.error, .bus, "No handler found for request " ++ kind⟩

def failureTrace (kind title : String) (result : Except Fault α) : List Log.Entry :=
  match result with
  | .ok _ => []
  | .error _ => [failureEntry kind title]

def dispatch (bus : MessageBus α) (r : Request) : Traced α :=
  match bus.get? r.kind with
  | none => ⟨[unhandledEntry r.kind], .error (.noHandler r.kind)⟩
  | some h =>
    let answer := h.answer r
    ⟨callEntry r.kind h.title :: answer.entries ++ failureTrace r.kind h.title answer.result,
      answer.result⟩

end MessageBus

end OrgService
