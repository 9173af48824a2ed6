import PocketLedger.Bytes.Base58
import PocketLedger.Keys.SecretKey

/-!
# Addresses

A coin address names a public key on a network; an asset address names the same key in a
namespace of its own; an asset id names a script. All three are Base58 texts with a checksum.
-/

namespace PocketLedger

/-- The version byte of a network's coin addresses. -/
abbrev AddressVersion := UInt8

namespace Address

/-- The version of the public network. -/
def mainNetwork : AddressVersion := 0x00

/-- The version of the test network. -/
def testNetwork : AddressVersion := 0x6f

/-- The byte in front of every asset address. -/
def assetNamespace : UInt8 := 0x13

/-- The version byte of asset ids. -/
def assetVersion : UInt8 := 0x17

/-- The coin address of a public key's hash. -/
def coin (version : AddressVersion) (hash : Hash160) : String :=
  Base58.checked (version :: hash.bytes)

/-- The asset address of a public key's hash. -/
def asset (version : AddressVersion) (hash : Hash160) : String :=
  Base58.checked (assetNamespace :: version :: hash.bytes)

/-- The asset id of a script. -/
def assetId (script : Bytes) : String :=
  Base58.checked (assetVersion :: (Hashing.hash160 script).bytes)

/-- The script that pays to the holder of a key: duplicate, hash, compare with the given hash,
verify, check the signature. -/
def lockingScript (hash : Hash160) : Bytes :=
  [0x76, 0xa9, 0x14] ++ hash.bytes ++ [0x88, 0xac]

end Address

/-- All that is known about one address. The texts of imported addresses are taken as they
come, so they need not belong together. -/
structure AddressCard where
  /-- The exported secret key; absent if the address is only watched. -/
  privateKey : Option String
  /-- The public key in hexadecimal digits. -/
  publicKey : String
  /-- The short hash of the public key in hexadecimal digits. -/
  publicKeyHash : String
  /-- The coin address. -/
  address : String
  /-- The asset address. -/
  assetAddress : String
  /-- The asset id of the locking script. -/
  assetId : String
  /-- The script that pays to the address. -/
  lockingScript : Bytes
  deriving DecidableEq

namespace AddressCard

/-- The card of a secret key. -/
def ofKey (version : AddressVersion) (key : SecretKey) : AddressCard :=
  let publicKey := key.publicKey
  let hash := Hashing.hash160 publicKey
  let script := Address.lockingScript hash
  { privateKey := some key.hex
    publicKey := Hex.text publicKey
    publicKeyHash := Hex.text hash.bytes
    address := Address.coin version hash
    assetAddress := Address.asset version hash
    assetId := Address.assetId script
    lockingScript := script }

/-- The same address without its secret key. -/
def watchOnly (card : AddressCard) : AddressCard := { card with privateKey := none }

/-- Whether the card has no secret key. -/
def isWatchOnly (card : AddressCard) : Bool := card.privateKey.isNone

/-- The three texts that an address can be looked up by. -/
def identifiers (card : AddressCard) : List String :=
  [card.address, card.assetAddress, card.assetId]

instance : Text.Outline AddressCard where
  outline card := Text.record "AddressData" [
    Text.field "private_key" (Text.outline card.privateKey),
    Text.field "public_key" (Text.outline card.publicKey),
    Text.field "public_key_hash" (Text.outline card.publicKeyHash),
    Text.field "address" (Text.outline card.address),
    Text.field "asset_address" (Text.outline card.assetAddress),
    Text.field "asset_id" (Text.outline card.assetId),
    Text.field "locking_script" (Text.outline card.lockingScript)]

end AddressCard
end PocketLedger
