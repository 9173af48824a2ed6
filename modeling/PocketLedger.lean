import PocketLedger.Hashing.Merkle
import PocketLedger.Hashing.Ripemd160
import PocketLedger.Keys.Address
import PocketLedger.Keys.Entropy
import PocketLedger.Decimal.Layout
import PocketLedger.Text.Glyph
import PocketLedger.Json.Scan
import PocketLedger.Json.Format
import PocketLedger.Transaction.Format
import PocketLedger.Block.Format
import PocketLedger.Session
import PocketLedger.Keys.Format
import PocketLedger.Keyring.Desk
import PocketLedger.AddressBook.Basic
import PocketLedger.Proofs.Digest
import PocketLedger.Proofs.TransactionIdentity
import PocketLedger.Proofs.ChainHistory
import PocketLedger.Proofs.HeaderIdentity
import PocketLedger.Proofs.UnspentMap
import PocketLedger.Proofs.UnspentListing
import PocketLedger.Proofs.Registration
import PocketLedger.Proofs.OrdinaryTransactions
import PocketLedger.Proofs.SessionRun
import PocketLedger.Proofs.SessionOutputs
import PocketLedger.Proofs.SessionChain
import PocketLedger.Proofs.Tips
import PocketLedger.Proofs.Journal
import PocketLedger.Proofs.BlockAcceptance
import PocketLedger.Proofs.BlockCommitment
import PocketLedger.Proofs.Reregistration
import PocketLedger.Proofs.KnownTransactions
import PocketLedger.Proofs.ClockIndependence
import PocketLedger.Proofs.Json.Numbers
import PocketLedger.Proofs.OutputTrace
import PocketLedger.Proofs.Json.Grammar
import PocketLedger.Proofs.Json.Containers
import PocketLedger.Proofs.Json.Formats
import PocketLedger.Proofs.Json.Records
import PocketLedger.Proofs.LedgerFormats
import PocketLedger.Proofs.Json.Values
import PocketLedger.Proofs.AddressFile
import PocketLedger.Proofs.Json.Alike
import PocketLedger.Proofs.ForgedIds
import PocketLedger.Proofs.KeyringAnswers
import PocketLedger.Proofs.GenerationNumbers
import PocketLedger.Proofs.RepeatedTail
import PocketLedger.Proofs.Balances
import PocketLedger.Proofs.IndependentTransactions
import PocketLedger.Proofs.AddressTexts
import PocketLedger.Proofs.Equivalence
import PocketLedger.Proofs.Hexadecimal
import PocketLedger.Proofs.KeyExport
import PocketLedger.Proofs.Relays
import PocketLedger.Proofs.DigestTexts
import PocketLedger.Proofs.AddressLookup
