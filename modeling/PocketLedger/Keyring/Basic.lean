import PocketLedger.Keys.Address
import PocketLedger.Keys.Entropy
import PocketLedger.Notice
import Std.Data.ExtTreeMap

/-!
# Keyrings

A keyring holds accounts, each with the addresses it owns and the addresses it only watches.
One internal account always exists and is not listed. Any address can be found by its coin
address, asset address or asset id; addresses that are owned come before addresses that are
watched. Listeners hear of every owned address that is added after them.
-/

namespace PocketLedger

/-- Why a question to a keyring has no answer, or a key was not imported. -/
inductive KeyringError where
  | unknownAccount (account : String)
  | unknownAddress (identifier : String)
  | noReceivingAddress (account : String)
  | key (error : KeyError)
  deriving DecidableEq

/-- The wording of a keyring error. -/
def KeyringError.message : KeyringError → String
  | .unknownAccount account => "Unknown account: " ++ account
  | .unknownAddress identifier => "Unknown address, asset address or asset id: " ++ identifier
  | .noReceivingAddress account => "Account has no receiving address: " ++ account
  | .key error => "Key error: " ++ error.message

/-- Which accounts a keyring is filled with. -/
structure KeyringConfig where
  version : AddressVersion
  /-- The accounts; one may be named several times. -/
  accounts : List String
  addressesEach : Nat

/-- Three accounts with two test addresses each. -/
def KeyringConfig.default : KeyringConfig :=
  ⟨Address.testNetwork, ["IMPORTER", "SENDER", "RECEIVER"], 2⟩

/-- An account. -/
structure Account where
  name : String
  /-- The addresses with keys, oldest first. -/
  owned : List AddressCard
  /-- The addresses without keys, oldest first. -/
  watched : List AddressCard

/-- A new owned address, as listeners hear of it. -/
structure GeneratedAddress where
  account : String
  address : String
  privateKey : Option String
  deriving DecidableEq

/-- Someone who hears of new owned addresses. -/
inductive KeyListener where
  /-- A subscriber that reports each address as a notice. -/
  | reporter
  /-- A subscriber with a tag. -/
  | subscriber (tag : String)
  deriving DecidableEq

/-- The state of a keyring. -/
structure Keyring where
  version : AddressVersion
  /-- Where new keys come from. -/
  entropy : Entropy
  /-- The first address of the internal account. -/
  internalCard : AddressCard
  internalAccount : Account
  /-- The other accounts, in order of their first mention. -/
  others : List Account
  /-- The card that each identifier leads to. -/
  directory : Std.ExtTreeMap String AddressCard
  listeners : List KeyListener
  /-- What the subscribers with tags have heard, oldest first. -/
  heard : List (String × GeneratedAddress)

namespace Keyring

/-- The name of the internal account. -/
def internalName : String := "_FOR_TEST_ONLY"

/-! ## Questions -/

/-- The names of the accounts, without the internal one. -/
def accounts (keyring : Keyring) : List String := keyring.others.map Account.name

/-- The account of a name. -/
def account? (keyring : Keyring) (name : String) : Option Account :=
  if name = internalName then some keyring.internalAccount
  else keyring.others.find? fun account => account.name = name

/-- The account of a name, or the error that there is none. -/
def account (keyring : Keyring) (name : String) : Except KeyringError Account :=
  match keyring.account? name with
  | none => .error (.unknownAccount name)
  | some account => .ok account

/-- The addresses that an account owns. -/
def addressesOf (keyring : Keyring) (name : String) : Except KeyringError (List AddressCard) :=
  (keyring.account name).map Account.owned

/-- The addresses that an account watches. -/
def watchedOf (keyring : Keyring) (name : String) : Except KeyringError (List AddressCard) :=
  (keyring.account name).map Account.watched

/-- The address that an account receives at: the last one it came to own. -/
def receivingAddressOf (keyring : Keyring) (name : String) : Except KeyringError AddressCard :=
  match keyring.addressesOf name with
  | .error error => .error error
  | .ok owned =>
    match owned.getLast? with
    | none => .error (.noReceivingAddress name)
    | some card => .ok card

/-- The secret keys of an account. -/
def privateKeysOf (keyring : Keyring) (name : String) : Except KeyringError (List String) :=
  (keyring.addressesOf name).map fun owned => owned.filterMap AddressCard.privateKey

/-- The address of an identifier. -/
def find (keyring : Keyring) (identifier : String) : Except KeyringError AddressCard :=
  match keyring.directory[identifier]? with
  | none => .error (.unknownAddress identifier)
  | some card => .ok card

/-! ## Changes -/

/-- Change the account of a name in a list of accounts; a new account comes last. -/
def changeIn (name : String) (change : Account → Account) : List Account → List Account
  | [] => [change ⟨name, [], []⟩]
  | account :: rest =>
    if account.name = name then change account :: rest
    else account :: changeIn name change rest

/-- Change the account of a name, which comes into being if it does not exist. -/
def changeAccount (keyring : Keyring) (name : String) (change : Account → Account) : Keyring :=
  if name = internalName then
    { keyring with internalAccount := change keyring.internalAccount }
  else { keyring with others := changeIn name change keyring.others }

/-- Let the identifiers of an owned address lead to it. -/
def index (keyring : Keyring) (card : AddressCard) : Keyring :=
  { keyring with
    directory := card.identifiers.foldl
      (fun directory identifier => directory.insert identifier card) keyring.directory }

/-- Let those identifiers of a watched address lead to it that lead nowhere. -/
def indexIfNew (keyring : Keyring) (card : AddressCard) : Keyring :=
  { keyring with
    directory := card.identifiers.foldl
      (fun directory identifier => directory.insertIfNew identifier card) keyring.directory }

/-- Tell the subscribers with tags of a new address. -/
def tell (keyring : Keyring) (generated : GeneratedAddress) : Keyring :=
  { keyring with
    heard := keyring.heard ++ keyring.listeners.filterMap fun
      | .reporter => none
      | .subscriber tag => some (tag, generated) }

/-- The notices of the subscribers that report. -/
def reports (keyring : Keyring) (generated : GeneratedAddress) : List Notice :=
  keyring.listeners.filterMap fun
    | .reporter => some (.addressGenerated generated.account generated.address)
    | .subscriber _ => none

/-- Add an address with its key to an account, and tell the listeners. -/
def addOwned (keyring : Keyring) (name : String) (card : AddressCard) :
    Step Keyring KeyringError AddressCard :=
  let generated : GeneratedAddress := ⟨name, card.address, card.privateKey⟩
  let changed := (keyring.index card).changeAccount name fun account =>
    { account with owned := account.owned ++ [card] }
  ⟨changed.tell generated, changed.reports generated, .ok card⟩

/-- Draw a key and add its address to an account. -/
def generate (keyring : Keyring) (name : String) : Step Keyring KeyringError AddressCard :=
  let (key, entropy) := keyring.entropy.drawKey
  { keyring with entropy := entropy }.addOwned name (.ofKey keyring.version key)

/-- Import a secret key and add its address to an account. -/
def importKey (keyring : Keyring) (name digits : String) : Step Keyring KeyringError AddressCard :=
  match SecretKey.ofHex digits with
  | .error error => .failed keyring (.key error)
  | .ok key => keyring.addOwned name (.ofKey keyring.version key)

/-- Watch an address from an account. -/
def watch (keyring : Keyring) (name : String) (card : AddressCard) : Keyring :=
  (keyring.indexIfNew card.watchOnly).changeAccount name fun account =>
    { account with watched := account.watched ++ [card.watchOnly] }

/-- Add a listener. -/
def listen (keyring : Keyring) (listener : KeyListener) : Keyring :=
  { keyring with listeners := keyring.listeners ++ [listener] }

/-! ## The start -/

/-- Draw several keys for an account. -/
def generateMany (keyring : Keyring) (name : String) : (count : Nat) → Keyring
  | 0 => keyring
  | count + 1 => (keyring.generate name).state.generateMany name count

/-- Draw the configured number of keys for each account, in order. -/
def fill (keyring : Keyring) (addressesEach : Nat) (names : List String) : Keyring :=
  names.foldl (fun keyring name =>
    (keyring.changeAccount name fun account => account).generateMany name addressesEach) keyring

/-- A keyring with its internal address only. -/
def bare (version : AddressVersion) (entropy : Entropy) : Keyring :=
  let (key, entropy) := entropy.drawKey
  let card := AddressCard.ofKey version key
  let keyring : Keyring :=
    { version := version, entropy := entropy, internalCard := card
      internalAccount := ⟨internalName, [card], []⟩, others := [], directory := ∅
      listeners := [], heard := [] }
  keyring.index card

/-- A keyring with its internal address and its configured accounts. -/
def start (config : KeyringConfig) (entropy : Entropy) : Step Keyring KeyringError Unit :=
  ⟨(bare config.version entropy).fill config.addressesEach config.accounts,
    [.accountsGenerated config.accounts.length config.addressesEach], .ok ()⟩

end Keyring
end PocketLedger
