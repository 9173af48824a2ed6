import PocketLedger.Announcer
import PocketLedger.Transaction.Draft

/-!
# Sessions

A session keeps the unspent outputs, the chain and the listeners of one run together. It makes
transactions and blocks, registers and announces them. Every registered transaction is
announced once by itself, and every transaction of an accepted block with its block. The
clock is an argument of the operations that build blocks, and shows in the timestamp alone.
-/

namespace PocketLedger

/-- The parameters of a session. -/
structure SessionConfig where
  /-- The version of the blocks that the session builds. -/
  blockVersion : UInt32
  /-- What a generation transaction pays. -/
  reward : UInt64
  genesisHeight : UInt64
  genesis : Digest
  deriving DecidableEq

namespace SessionConfig

/-- The usual parameters. -/
def default : SessionConfig := ⟨Block.defaultVersion, 50, 0, Digest.zero⟩

instance : Text.Outline SessionConfig where
  outline config := Text.record "ChainSampleConfig" [
    Text.field "block_version" (Text.outline config.blockVersion),
    Text.field "reward_amount" (Text.outline config.reward),
    Text.field "genesis_height" (Text.outline config.genesisHeight),
    Text.field "genesis_hash" (Text.outline config.genesis)]

end SessionConfig

/-- Why an operation of a session failed. -/
inductive SessionError where
  | transaction (error : TransactionError)
  | block (error : BlockError)
  | unspent (error : UnspentError)
  deriving DecidableEq

/-- The wording of a session error. -/
def SessionError.message : SessionError → String
  | .transaction error => "Transaction error: " ++ error.message
  | .block error => "Block error: " ++ error.message
  | .unspent error => "Output set error: " ++ error.message

/-- The state of a session. -/
structure Session where
  config : SessionConfig
  unspent : Unspent
  chain : Chain
  announcer : Announcer
  /-- How many generation transactions were begun. The count has no limit here; it fits into 64
  bits as long as fewer than `UInt64.size` of them are begun. -/
  generations : Nat

namespace Session

/-- A session at its start. -/
def start (config : SessionConfig) : Session where
  config := config
  unspent := .empty
  chain := .start config.genesisHeight config.genesis
  announcer := .empty
  generations := 0

/-- Add a listener. -/
def listen (session : Session) (listener : Listener) : Session :=
  { session with announcer := session.announcer.listen listener }

/-! ## Transactions -/

/-- Make a transaction known and announce it, after its outputs have been added. -/
def publish (session : Session) (tx : Transaction) : Session :=
  let id := tx.id
  let chain := session.chain.register id tx
  { session with
    chain := chain
    announcer := session.announcer.announce ⟨chain, id, tx, none, none⟩ }

/-- Register a transaction: add its outputs, make it known and announce it. -/
def add (session : Session) (named : NamedTransaction) : Step Session SessionError Unit :=
  ((session.unspent.addOutputs named.transaction).within
    (fun unspent => { session with unspent := unspent }) SessionError.unspent).andThen
      fun session () =>
        ⟨session.publish named.transaction,
          [.transactionAdded named.name named.transaction.id], .ok ()⟩

/-- Build a draft and register the transaction under a name. -/
def complete (session : Session) (name : String) (draft : Draft) :
    Step Session SessionError NamedTransaction :=
  match draft.build with
  | .error error => .failed session (.transaction error)
  | .ok tx =>
    let named : NamedTransaction := ⟨name, tx⟩
    (session.add named).andThen fun session () => .done session named

/-- Draft an ordinary transaction. It spends in order, and what was spent before a failure stays
spent. -/
def draftOrdinary (session : Session) (name : String) (spends : List Spend)
    (outputs : List Output) : Step Session SessionError Draft :=
  if spends = [] then .failed session (.transaction (.shape (.nothingSpent name)))
  else
    ((Draft.empty.spendAll spends session.unspent).within
      (fun unspent => { session with unspent := unspent }) SessionError.transaction).andThen
        fun session draft => .done session (draft.payAll outputs)

/-- Make and register an ordinary transaction. -/
def ordinary (session : Session) (name : String) (spends : List Spend) (outputs : List Output) :
    Step Session SessionError NamedTransaction :=
  (session.draftOrdinary name spends outputs).andThen fun session draft =>
    session.complete name draft

/-- The marker that sets the generation transactions of a session apart. -/
def marker (number : Nat) : Bytes :=
  Bytes.ofText ("Random:" ++ toString number ++ ".fixture chain generation")

/-- Draft a transaction that generates the reward for an owner, and count it. -/
def draftGeneration (session : Session) (owner : Owner) : Step Session SessionError Draft :=
  let number := session.generations + 1
  .done { session with generations := number }
    ((Draft.empty.generate (marker number)).pay ⟨session.config.reward, owner⟩)

/-- Make and register a transaction that generates the reward for an owner. It is counted even if
it cannot be registered. -/
def generation (session : Session) (name : String) (owner : Owner) :
    Step Session SessionError NamedTransaction :=
  (session.draftGeneration owner).andThen fun session draft => session.complete name draft

/-! ## Blocks -/

/-- Build a block on any block, without accepting it. -/
def buildBlockOn (session : Session) (now : UInt64) (previous : Digest)
    (transactions : List NamedTransaction) : Except BlockError Block :=
  Block.build (transactions.map NamedTransaction.transaction) previous now
    session.config.blockVersion 0 0

/-- Build a block on the tip, without accepting it. -/
def buildBlock (session : Session) (now : UInt64) (transactions : List NamedTransaction) :
    Except BlockError Block :=
  session.buildBlockOn now session.chain.tip transactions

/-- The announcements of the transactions of the block at a height, none if no block is
there. -/
def blockEvents (chain : Chain) (height : UInt64) : List Event :=
  match chain.blockAt? height with
  | none => []
  | some placed => placed.block.transactions.zipIdx.map fun (tx, position) =>
      ⟨chain, tx.id, tx, some placed, some position⟩

/-- Accept a block on the tip and announce its transactions in order. -/
def acceptBlock (session : Session) (block : Block) : Step Session SessionError UInt64 :=
  ((session.chain.accept block).within
    (fun chain => { session with chain := chain }) SessionError.block).andThen
      fun session height =>
        let events := blockEvents session.chain height
        ⟨{ session with announcer := session.announcer.announceAll events },
          [.chainAdvanced height], .ok height⟩

/-- Build a block on the tip and accept it. -/
def newBlock (session : Session) (now : UInt64) (transactions : List NamedTransaction) :
    Step Session SessionError Block :=
  match session.buildBlock now transactions with
  | .error error => .failed session (.block error)
  | .ok block => (session.acceptBlock block).andThen fun session _ => .done session block

end Session
end PocketLedger
