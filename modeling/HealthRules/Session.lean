import HealthRules.Session.Registries
import HealthRules.Setup

/-!
# Session — working with registries over time

In a session there are owners of registries: a facade, by which the host registers providers, engines by
their names, and handles that are kept for later. A new engine shares the registry of the facade. When an
owner goes or turns to another registry it gives up its reference. Rules that are kept aside, lists of
providers as they once were, variables and cells have no part in this.

* `Session`, `SessionM` and `Owner`;
* `Session.onOwner`, a computation on the registry of an owner;
* what a session does with owners, with rules kept aside, and with engines.
-/

namespace HealthRules

/-- The names of the providers at one moment. -/
structure Roster where
  builders : List String
  evaluators : List String
  deriving DecidableEq, Repr

/-- The providers of a new registry: none, or those that a configuration wants. -/
inductive Opening where
  | bare
  | configured (c : Config)

namespace Opening

def unreadableIsError : Opening → Bool
  | bare => false
  | configured c => c.settings.unreadableIsError

/-- Register the providers. -/
def register : Opening → ProviderM Unit
  | bare => return
  | configured c => c.register

end Opening

/-- Who may have a reference to a registry. -/
inductive Owner where
  | facade
  | engine (name : String)
  | handle (name : String)
  deriving DecidableEq, Repr

structure Session where
  world : World
  registries : Registries := {}
  /-- To which registry an owner has a reference. -/
  holdings : List (Owner × Nat) := []
  /-- Whether new engines take what cannot be read for an error. -/
  unreadableIsError : Bool := false
  engines : List (String × Engine Attribute) := []
  kept : List (String × Rule Attribute) := []
  rosters : List (String × Roster) := []
  past : List Event := []

abbrev SessionM := StateM Session

namespace Session

/-- Put a value under a name, in place of any other. -/
def put {α : Type} (name : String) (a : α) (items : List (String × α)) : List (String × α) :=
  (name, a) :: items.filter (·.1 ≠ name)

/-! ## Owners -/

/-- Give up the reference of an owner. -/
def drop (s : Session) (o : Owner) : Session :=
  match s.holdings.lookup o with
  | none => s
  | some serial => { s with
      registries := s.registries.release serial
      holdings := s.holdings.filter (·.1 ≠ o) }

/-- Let an owner have a reference that there is already, in place of the one it had. -/
def assign (s : Session) (o : Owner) (serial : Nat) : Session :=
  let s := s.drop o
  { s with holdings := (o, serial) :: s.holdings }

/-- Let an owner share the registry of another one. -/
def share (s : Session) (giver taker : Owner) : Session :=
  match s.holdings.lookup giver with
  | none => s
  | some serial => { s with registries := s.registries.retain serial }.assign taker serial

/-- Make a registry for an owner. -/
def found (s : Session) (o : Owner) : Session :=
  { s with registries := s.registries.create }.assign o s.registries.made

/-! ## Computations on a registry -/

/-- The registry of an owner and its serial number. -/
def holding? (s : Session) (o : Owner) : Option (Nat × SharedRegistry) := do
  let serial ← s.holdings.lookup o
  let x ← s.registries.find? serial
  return (serial, x)

/-- The host of a registry. -/
def hostOf (s : Session) (serial : Nat) (x : SharedRegistry) : ProviderHost where
  registry := x.registry
  surroundings := {
    toWorld := s.world, caches := x.caches, used := x.used, elsewhere := s.registries.others serial }
  past := s.past

/-- The session after a computation on the host of a registry. Other registries are out of reach. -/
def store (s : Session) (serial : Nat) (x : SharedRegistry) (h : ProviderHost) : Session :=
  { s with
    world := h.surroundings.toWorld
    registries := s.registries.set serial (some { x with
      registry := h.registry, caches := h.surroundings.caches, used := h.surroundings.used })
    past := h.past }

/-- Run a computation on the registry of an owner, if it has one. -/
def onOwner {γ : Type} (o : Owner) (m : ProviderM γ) : SessionM (Option γ) := fun s =>
  match s.holding? o with
  | none => (none, s)
  | some (serial, x) =>
      let (c, h) := m.run (s.hostOf serial x)
      (some c, s.store serial x h)

/-! ## Facades and handles -/

/-- Take a facade with a registry of its own. -/
def openFacade (opening : Opening) : SessionM Unit := do
  modify fun s => { s.found .facade with unreadableIsError := opening.unreadableIsError }
  let _ ← onOwner .facade opening.register

/-- Take a facade for the registry of a handle. -/
def adopt (handle : String) : SessionM Unit := modify fun s =>
  match s.holdings.lookup (.handle handle) with
  | none => s
  | some _ => { s.share (.handle handle) .facade with unreadableIsError := false }

/-- Keep a handle on the registry of an owner. -/
def lend (giver : Owner) (handle : String) : SessionM Unit := modify (·.share giver (.handle handle))

/-- Start with a facade. -/
def start (world : World) (opening : Opening) : Session := ((openFacade opening).run { world }).2

/-- The numbers of builders and of evaluators of the facade. -/
def counts (s : Session) : Nat × Nat :=
  match s.holding? .facade with
  | none => (0, 0)
  | some (_, x) => (x.registry.builderCount, x.registry.evaluatorCount)

/-- Keep the names of the providers of this moment. -/
def keepRoster (slot : String) : SessionM Unit := modify fun s =>
  match s.holding? .facade with
  | none => s
  | some (_, x) =>
      let roster := ⟨x.registry.builderNames, x.registry.evaluatorNames⟩
      { s with rosters := put slot roster s.rosters }

def roster? (s : Session) (slot : String) : Option Roster := s.rosters.lookup slot

/-! ## The world -/

def changeWorld (f : World → World) : SessionM Unit := modify fun s => { s with world := f s.world }

/-- Read an attribute. -/
def read (s : Session) (a : Attribute) : Reading :=
  a.readAt s.world fun c serial => (s.registries.find? serial).map (c.count ·.registry)

/-! ## Rules kept aside -/

def rule? (s : Session) (slot : String) : Option (Rule Attribute) := s.kept.lookup slot

/-- Build a definition and keep the rule; what no builder takes changes nothing. -/
def build (slot : String) (d : Definition) : SessionM (Option (Rule Attribute)) := do
  let made ← onOwner .facade do
    providers.firstRule d (← get).registry.builders
  match made with
  | some (some (_, r)) =>
      modify fun s => { s with kept := put slot r s.kept }
      return some r
  | _ => return none

/-! ## Engines -/

/-- The rules of an engine; there are none before it is made. -/
def engine (s : Session) (name : String) : Engine Attribute := (s.engines.lookup name).getD {}

def setEngine (name : String) (e : Engine Attribute) : SessionM Unit :=
  modify fun s => { s with engines := put name e s.engines }

/-- Make an engine for the registry of the facade, in place of any other of its name. -/
def newEngine (name : String) : SessionM Unit := modify fun s =>
  match s.holdings.lookup .facade with
  | none => s
  | some _ =>
      let e : Engine Attribute := { unreadableIsError := s.unreadableIsError }
      { s.share .facade (.engine name) with engines := put name e s.engines }

def dropEngine (name : String) : SessionM Unit := modify fun s =>
  { s.drop (.engine name) with engines := s.engines.filter (·.1 ≠ name) }

def changeEngine (name : String) (f : Engine Attribute → Engine Attribute) : SessionM Unit := do
  setEngine name (f ((← get).engine name))

/-- Build definitions into an engine. -/
def addDefinitions (name : String) (ds : List Definition) : SessionM (Option (List BuildError)) := do
  match ← onOwner (.engine name) (((← get).engine name).addRules providers ds) with
  | none => return none
  | some (e, failures) =>
      setEngine name e
      return some failures

/-- Read a text and build its definitions into an engine. -/
def addText (name : String) (text : String) :
    SessionM (Option (List ParseError × List BuildError)) := do
  match ← onOwner (.engine name) (Host.readText text) with
  | none => return none
  | some batch => return (← addDefinitions name batch.definitions).map (batch.errors, ·)

/-- Evaluate the rules of an engine. -/
def evaluate (name : String) : SessionM (Option (List (Outcome Attribute))) := do
  onOwner (.engine name) (((← get).engine name).evaluate providers)

end Session

end HealthRules
