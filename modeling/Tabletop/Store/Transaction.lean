import Tabletop.Store

/-!
# Transactions

What is to be done to the store together is done in one transaction.  It sees its own
changes before anyone else does.  They wait until it next looks something up or is
committed, and whatever is not committed when it ends is lost.
-/

namespace Tabletop
namespace Store

/-- A change that a transaction is to write. -/
inductive Edit where
  | addUser (name : String)
  | addActor (new : NewActor)
  | updateActor (actor : Actor) (profile : Profile)
  | dropActor (id : Int)

def Edit.isUpdateOf (id : Int) : Edit → Bool
  | .updateActor actor _ => actor.id == id
  | _ => false

/-- A transaction under way. -/
structure Transaction where
  /-- What everyone else sees. -/
  committed : Store
  written : Store
  waiting : List Edit := []
  /-- The actors that it has added, the latest first. -/
  added : List Actor := []

namespace Transaction

/-- A transaction on a store, to which nothing is done yet. -/
def on (store : Store) : Transaction := { committed := store, written := store }

def write (transaction : Transaction) : Edit → Except StoreError Transaction
  | .addUser name => do
    let (_, written) ← transaction.written.addUser (.str name) .null
    return { transaction with written }
  | .addActor new => do
    let (actor, written) ← transaction.written.addActor new
    return { transaction with written, added := actor :: transaction.added }
  | .updateActor actor profile => do
    let written ← transaction.written.updateActor actor profile
    return { transaction with written }
  | .dropActor id => return { transaction with written := transaction.written.dropActor id }

/-- Writes what waits. -/
def flush (transaction : Transaction) : Except StoreError Transaction :=
  transaction.waiting.foldlM write { transaction with waiting := [] }

/-- Gives up all that is not committed. -/
def rollback (transaction : Transaction) : Transaction := on transaction.committed

end Transaction

/-- Something that is done in a transaction.  Where it fails, it leaves the transaction as it
stands then. -/
abbrev Work (ε : Type) := ExceptT ε (StateM Transaction)

namespace Work

variable {ε ε' α : Type}

/-- Does some work in a transaction that is under way. -/
def during (transaction : Transaction) (work : Work ε α) : Except ε α × Transaction :=
  (ExceptT.run work).run transaction

/-- Does some work on a store: its result, and what is committed in the end. -/
def on (store : Store) (work : Work ε α) : Except ε α × Store :=
  let (result, transaction) := work.during (.on store)
  (result, transaction.committed)

/-- The work with other errors. -/
def mapError (f : ε → ε') (work : Work ε α) : Work ε' α := ExceptT.adapt f work

/-- Looks something up in what is written. -/
def read (look : Store → Except ε α) : Work ε α := do
  look (← get).written

/-- Leaves a change waiting. -/
def wait (edit : Edit) : Work ε Unit :=
  modify fun transaction => { transaction with waiting := transaction.waiting ++ [edit] }

/-- Leaves another profile for an actor waiting, in place of one that waits already. -/
def assign (actor : Actor) (profile : Profile) : Work ε Unit :=
  modify fun transaction =>
    { transaction with
      waiting := transaction.waiting.filter (!·.isUpdateOf actor.id) ++
        [.updateActor actor profile] }

/-- Writes what waits.  If the store refuses a change, all is given up. -/
def flush : Work StoreError Unit := do
  let transaction ← get
  match transaction.flush with
  | .ok flushed => set flushed
  | .error cause =>
    set transaction.rollback
    throw cause

def commit : Work StoreError Unit := do
  flush
  modify fun transaction => { transaction with committed := transaction.written }

/-- The actor that was added last. -/
def latest : Work StoreError Actor := do
  match (← get).added with
  | actor :: _ => return actor
  | [] => throw .noRow

/-- The row of an actor as it is written. -/
def refresh (id : Int) : Work StoreError Actor :=
  read fun store => (store.actor? id).elim (.error .noRow) .ok

end Work
end Store
end Tabletop
