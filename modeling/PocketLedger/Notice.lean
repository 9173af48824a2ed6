import PocketLedger.Transaction.Output

/-!
# Notices and steps

What the ledger does is reported as notices, which are values: the trace of the output set,
the progress of the chain, and the addresses made. A step of a stateful part gives the new
state, the notices of what was done, and a result; a failed step may have changed the state,
and its notices say how.
-/

namespace PocketLedger

/-- How much a notice matters. -/
inductive Level where
  | trace
  | debug
  | info
  deriving DecidableEq, Repr

/-- The name of a level. -/
def Level.text : Level → String
  | .trace => "TRACE"
  | .debug => "DEBUG"
  | .info => "INFO"

/-- Something that was done. -/
inductive Notice where
  /-- An output became available. -/
  | outputAdded (point : OutPoint) (output : Output)
  /-- An output was spent. -/
  | outputSpent (point : OutPoint)
  /-- A block became the tip of a chain. -/
  | blockAccepted (id : Digest) (height : UInt64)
  /-- A session registered a transaction. -/
  | transactionAdded (name : String) (id : Digest)
  /-- A session's chain grew. -/
  | chainAdvanced (height : UInt64)
  /-- A keyring was filled with its configured accounts. -/
  | accountsGenerated (accounts addressesEach : Nat)
  /-- A relay heard of a new address. -/
  | addressGenerated (account address : String)
  /-- An address book was loaded. -/
  | recordsLoaded (count : Nat) (path : String)
  deriving DecidableEq

namespace Notice

/-- The level of a notice. -/
def level : Notice → Level
  | .outputAdded .. => .trace
  | .outputSpent _ => .trace
  | .blockAccepted .. => .debug
  | .transactionAdded .. => .debug
  | .chainAdvanced _ => .info
  | .accountsGenerated .. => .debug
  | .addressGenerated .. => .trace
  | .recordsLoaded .. => .info

/-- The wording of a notice. -/
def message : Notice → String
  | .outputAdded point output =>
    "Output added: " ++ point.text ++ " (" ++ toString output.amount.toNat ++ " to " ++
      output.owner.text ++ ")"
  | .outputSpent point => "Output spent: " ++ point.text
  | .blockAccepted id height =>
    "Block " ++ id.text ++ " accepted at height " ++ toString height.toNat
  | .transactionAdded name id => "Transaction " ++ name ++ " added: " ++ id.text
  | .chainAdvanced height => "Fixture chain advanced to height " ++ toString height.toNat
  | .accountsGenerated accounts addressesEach =>
    "Generated " ++ toString accounts ++ " fixture accounts with " ++ toString addressesEach ++
      " addresses each"
  | .addressGenerated account address =>
    "Address generated: account=" ++ account ++ ", address=" ++ address
  | .recordsLoaded count path =>
    "Loaded " ++ toString count ++ " fixture records from " ++ path

/-- The line of a notice in a log. -/
def line (notice : Notice) : String := notice.level.text ++ " " ++ notice.message

end Notice

/-- What an operation on a state of type `σ` did. -/
structure Step (σ ε α : Type) where
  /-- The state afterwards, also if the operation failed. -/
  state : σ
  /-- What was done, in order. -/
  notices : List Notice
  /-- The value of the operation, or why it failed. -/
  result : Except ε α

namespace Step

variable {σ τ ε δ α β : Type}

/-- A step that succeeds and reports nothing. -/
def done (state : σ) (value : α) : Step σ ε α := ⟨state, [], .ok value⟩

/-- A step that fails and changes nothing. -/
def failed (state : σ) (error : ε) : Step σ ε α := ⟨state, [], .error error⟩

/-- Go on after a step that succeeded. -/
def andThen (first : Step σ ε α) (next : σ → α → Step σ ε β) : Step σ ε β :=
  match first.result with
  | .error error => ⟨first.state, first.notices, .error error⟩
  | .ok value =>
    let second := next first.state value
    ⟨second.state, first.notices ++ second.notices, second.result⟩

/-- A step on a part as a step on the whole. -/
def within (place : σ → τ) (wrap : ε → δ) (step : Step σ ε α) : Step τ δ α where
  state := place step.state
  notices := step.notices
  result := step.result.mapError wrap

end Step
end PocketLedger
