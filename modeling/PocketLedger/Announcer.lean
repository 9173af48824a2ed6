import PocketLedger.Chain

/-!
# Announcements

Transactions are announced to listeners, in the order in which the listeners were added. Each
listener is handed the chain as it is at that moment. Deliveries are kept, so what a listener
has heard can be asked for at any time; recorders that share a journal also share its events.
-/

namespace PocketLedger

/-- The announcement of a transaction. -/
structure Event where
  /-- The chain at the time. -/
  view : Chain
  /-- The id under which the transaction is announced. -/
  txId : Digest
  transaction : Transaction
  /-- The block that the transaction came in. -/
  block : Option PlacedBlock
  /-- The position in that block. -/
  position : Option Nat

/-- Whether the transaction came in a block. -/
def Event.inBlock (event : Event) : Bool := event.block.isSome

/-- What a recorder keeps of an event. -/
structure RecordedEvent where
  txId : Digest
  transaction : Transaction
  blockHeight : Option UInt64
  blockId : Option Digest
  position : Option Nat
  /-- The height of the chain at the time. -/
  bestHeight : UInt64
  deriving DecidableEq

/-- Whether the recorded transaction came in a block. -/
def RecordedEvent.inBlock (event : RecordedEvent) : Bool := event.blockId.isSome

/-- The record of an event. -/
def Event.record (event : Event) : RecordedEvent where
  txId := event.txId
  transaction := event.transaction
  blockHeight := event.block.map PlacedBlock.height
  blockId := event.block.map fun placed => placed.block.id
  position := event.position
  bestHeight := event.view.height

/-- Someone who hears announcements. -/
inductive Listener where
  /-- A recorder, which writes to a journal. -/
  | recorder (journal : Nat)
  /-- An onlooker with a tag, who looks at the chain. -/
  | onlooker (tag : String)
  deriving DecidableEq

/-- An event handed to a listener. -/
structure Delivery where
  listener : Listener
  event : Event

/-- The listeners, and all that was delivered to them, oldest first. -/
structure Announcer where
  listeners : List Listener
  deliveries : List Delivery

namespace Announcer

/-- No listeners. -/
def empty : Announcer := ⟨[], []⟩

/-- Add a listener. -/
def listen (announcer : Announcer) (listener : Listener) : Announcer :=
  { announcer with listeners := announcer.listeners ++ [listener] }

/-- Deliver an event to every listener. -/
def announce (announcer : Announcer) (event : Event) : Announcer :=
  { announcer with
    deliveries := announcer.deliveries ++ announcer.listeners.map fun listener => ⟨listener, event⟩ }

/-- Deliver events in order. -/
def announceAll (announcer : Announcer) (events : List Event) : Announcer :=
  events.foldl announce announcer

/-- The events of a journal. -/
def journal (announcer : Announcer) (number : Nat) : List RecordedEvent :=
  (announcer.deliveries.filter fun delivery => delivery.listener = .recorder number).map
    fun delivery => delivery.event.record

/-- The events of a journal that came in blocks. -/
def blockJournal (announcer : Announcer) (number : Nat) : List RecordedEvent :=
  (announcer.journal number).filter RecordedEvent.inBlock

instance : Text.Outline Announcer where
  outline announcer := Text.record "EventDispatcher" [
    Text.field "listeners" (Text.outline announcer.listeners.length)]

end Announcer
end PocketLedger
