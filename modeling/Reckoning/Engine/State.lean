import Reckoning.Content.Builtin
import Reckoning.Content.Loader
import Reckoning.Engine.Attempt
import Reckoning.Engine.Forge
import Reckoning.Engine.Issuance
import Reckoning.Engine.OrderLocks
import Reckoning.Engine.Registry
import Reckoning.Ledger.Store

/-!
# The engine

The engine issues characters, forges items, resolves actions and commits every result to its
ledger.  An operation gives its result together with the engine that goes on, also where it
fails.  Only forging comes to no result at all when there are no numbers left for items.

* `Engine.start`, `Engine.ofBuiltin` and `Engine.ofFolder` make an engine.
* `Engine.resolve` resolves an action, `Engine.verify` resolves it again and compares.
-/

namespace Reckoning

/-- An action that a character is to attempt. -/
structure ActionRequest where
  character : CharacterId
  action : DefId
  room : RoomId
  items : List ItemId
  /-- The engine makes a seed up where there is none. -/
  seed : Option String
  rushed : Bool
deriving DecidableEq, Repr

/-- An engine with its library, its records and its ledger. -/
structure Engine (σ : Type) where
  library : Library
  config : Config
  registry : Registry
  ledger : σ
  locks : OrderLocks

namespace Engine

variable {σ : Type}

/-- An operation on an engine. -/
abbrev Operation (σ α : Type) := Engine σ → EngineResult α × Engine σ

/-! ### Making an engine -/

/-- An engine that has seen nothing yet. -/
def start (library : Library) (ledger : σ) (config : Config) : Engine σ :=
  ⟨library, config, ∅, ledger, ∅⟩

/-- An engine with the built-in content. -/
def ofBuiltin (ledger : σ) (config : Config) : EngineResult (Engine σ) := do
  let config ← config.checked.mapError .config
  return start .builtin ledger config

/-- An engine with the content of a folder. -/
def ofFolder (folder : Option Node) (ledger : σ) (config : Config) :
    EngineResult (Engine σ) := do
  let config ← config.checked.mapError .config
  match (Loader.start config.strictContent).loadTree folder with
  | (_, some error) => throw (.content error)
  | (loader, none) =>
    let (library, _) ← loader.finish.mapError .content
    return start library ledger config

/-! ### Characters, items and rooms -/

/-- Change the registry, unless that fails. -/
def changeRegistry (f : Registry → EngineResult Registry) : Operation σ Unit := fun e =>
  match f e.registry with
  | .ok registry => (.ok (), { e with registry })
  | .error error => (.error error, e)

/-- Issue a character and register it.  What was issued before is given back as it is now. -/
def issue (account sex seed : String) (now : Timestamp) : Operation σ Character := fun e =>
  match issueCharacter e.library account sex seed now with
  | .error error => (.error error, e)
  | .ok c =>
    let (_, registry) := e.registry.insertCharacter c
    (.ok ((registry.character? c.id).getD c), { e with registry })

/-- Register a character that was issued elsewhere. -/
def register (c : Character) (e : Engine σ) : Engine σ :=
  { e with registry := (e.registry.insertCharacter c).2 }

/-- Retire a character. -/
def deactivate (id : CharacterId) : Operation σ Unit := changeRegistry (·.deactivate id)

/-- Replace the reputation of a character. -/
def updateReputation (id : CharacterId) (reputation : Reputation) : Operation σ Unit :=
  changeRegistry (·.updateReputation id reputation)

/-- Forge an item.  Its maker holds it afterwards.  The number of the item is used up even if
the forging fails. -/
def createItem (itemType : DefId) (creator : CharacterId) (custom : List DefId)
    (now : Timestamp) (e : Engine σ) : Option (EngineResult Item × Engine σ) :=
  match e.registry.character? creator with
  | none => some (.error (.characterNotFound creator), e)
  | some maker =>
    e.registry.nextItem?.map fun (id, registry) =>
      match forgeItem e.library id itemType maker custom now with
      | .error error => (.error error, { e with registry })
      | .ok item => (.ok item, { e with registry := registry.insertItem item creator })

/-- Hand an item to a character. -/
def transferItem (item : ItemId) (recipient : CharacterId) : Operation σ Unit :=
  changeRegistry (·.transfer item recipient)

/-- Register a room, or describe it anew. -/
def registerRoom (room : Room) (e : Engine σ) : Engine σ :=
  { e with registry := e.registry.insertRoom room }

/-! ### Actions -/

variable [Store σ]

/-- The seed that the engine makes up: it names the entry that is about to be committed. -/
def generatedSeed (e : Engine σ) (c : CharacterId) : EngineResult String := do
  let latest ← (Store.latest? e.ledger c).mapError .ledger
  let next := (latest.map fun entry => entry.id.seq + 1).getD 1
  return s!"{e.config.seedPrefix}-{LedgerId.mk c next}"

/-- The record of an attempt, by the library and the configuration of the engine. -/
def recordOf (e : Engine σ) (a : Attempt) : ActionRecord :=
  a.record e.library e.config.avoidableThreshold

/-- The record that a request comes to, if nothing is missing. -/
def prepare (e : Engine σ) (r : ActionRequest) (c : Character) (now : Timestamp) :
    EngineResult ActionRecord := do
  if !c.active then throw (.characterInactive c.id)
  let some room := e.registry.room? r.room | throw (.roomNotFound r.room)
  let some action := e.library.action? r.action | throw (.unknownAction r.action)
  let seed ← match r.seed with
    | some seed => pure seed
    | none => e.generatedSeed c.id
  let record := e.recordOf {
    action, room, seed
    character := c
    requested := r.items
    possessed := e.registry.possessedBy c.id r.items
    rushed := r.rushed
    timestamp := now }
  let previous ← (Store.findBySeed? e.ledger c.id record.derivedSeed).mapError .ledger
  return { record with supersedes := previous.map (·.id) }

/-- Resolve an action and commit it.  Nothing is committed where something is missing, or where the
ledger fails. -/
def resolve (r : ActionRequest) (now : Timestamp) : Operation σ LedgerEntry := fun e =>
  match e.registry.character? r.character with
  | none => (.error (.characterNotFound r.character), e)
  | some c =>
    let e := { e with locks := (e.locks.forCharacter r.character).2 }
    match e.prepare r c now with
    | .error error => (.error error, e)
    | .ok record =>
      match Store.append e.ledger record with
      | (.error error, ledger) => (.error (.commit error), { e with ledger })
      | (.ok id, ledger) => (.ok ⟨id, record⟩, { e with ledger })

/-- Resolve the action of an entry again, with what its character holds now, and compare. -/
def verify (e : Engine σ) (id : LedgerId) : EngineResult Bool := do
  let some entry ← (Store.get? e.ledger id).mapError .ledger | throw (.entryNotFound id)
  let record := entry.record
  let some c := e.registry.character? record.character
    | throw (.characterNotFound record.character)
  let some room := e.registry.room? record.room | throw (.roomNotFound record.room)
  let some action := e.library.action? record.action | throw (.unknownAction record.action)
  let replayed := e.recordOf {
    action, room
    character := c
    requested := record.itemsUsed
    possessed := e.registry.possessedBy c.id record.itemsUsed
    rushed := record.rushed
    seed := record.seed
    timestamp := record.timestamp }
  return replayed.sameResolution record

end Engine

end Reckoning
