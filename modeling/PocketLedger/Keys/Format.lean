import PocketLedger.Json.Format
import PocketLedger.Keys.Address

/-!
# The JSON format of address cards

The secret key alone may be null or missing.
-/

namespace PocketLedger

open Json (Format)

/-- Address cards. -/
def AddressCard.format : Format AddressCard :=
  .record
    (.cons "private_key" .optionalText (some none)
      (.cons "public_key" .text none
        (.cons "public_key_hash" .text none
          (.cons "address" .text none
            (.cons "asset_address" .text none
              (.cons "asset_id" .text none (.cons "locking_script" .bytes none .nil)))))))
    (fun card => (card.privateKey, card.publicKey, card.publicKeyHash, card.address,
      card.assetAddress, card.assetId, card.lockingScript, ()))
    (fun (privateKey, publicKey, publicKeyHash, address, assetAddress, assetId, lockingScript, ()) =>
      ⟨privateKey, publicKey, publicKeyHash, address, assetAddress, assetId, lockingScript⟩)

end PocketLedger
