import PocketLedger.Keys.Address
import PocketLedger.Proofs.Outline
import PocketLedger.Proofs.Radix

/-!
# What an address text says

A Base58 text starts with a one for each leading zero byte, and the digits after these ones do
not start with a one, so both parts can be told apart and the bytes are read back from them. A
text with a checksum therefore names one payload. Coin addresses and asset ids have payloads of
21 bytes and asset addresses of 22, which keeps asset addresses apart from the other two; a coin
address can meet an asset id only where its version is that of asset ids.
-/

namespace PocketLedger

namespace Base58

/-! ## Digits -/

theorem length_alphabet : alphabet.length = 58 := by decide

theorem nodup_alphabet : alphabet.Nodup := by decide

/-- A digit is found in the alphabet at its value. -/
theorem idxOf_digit {value : Nat} (small : value < 58) : alphabet.idxOf (digit value) = value := by
  have bound : value < alphabet.length := by simpa [length_alphabet] using small
  rw [digit, List.getD_eq_getElem?_getD, List.getElem?_eq_getElem bound, Option.getD_some]
  exact nodup_alphabet.idxOf_getElem value bound

/-- A number is read back from its characters. -/
theorem map_idxOf_digits (twoLe : 2 ≤ 58) (number : Nat) :
    ((Radix.digits 58 twoLe number).map digit).map alphabet.idxOf =
      Radix.digits 58 twoLe number := by
  rw [List.map_map]
  refine (List.map_congr_left ?_).trans (List.map_id _)
  intro value mem
  exact idxOf_digit (Radix.lt_of_mem_digits mem)

/-- The characters of a number do not start with a one. -/
theorem head?_digits_ne_one (twoLe : 2 ≤ 58) (number : Nat) :
    ∀ first ∈ ((Radix.digits 58 twoLe number).map digit).head?, first ≠ '1' := by
  intro first leads isOne
  rw [List.head?_map] at leads
  obtain ⟨value, valueLeads, rfl⟩ := Option.map_eq_some_iff.mp leads
  have small : value < 58 := Radix.lt_of_mem_digits (List.mem_of_mem_head? valueLeads)
  have zero : value = 0 := (idxOf_digit small).symm.trans (by rw [isOne]; decide)
  exact Radix.head?_digits_ne_zero 58 twoLe number (zero ▸ valueLeads)

/-! ## Texts -/

/-- Bytes are determined by their Base58 characters. -/
theorem encode_injective {left right : Bytes} (same : encode left = encode right) :
    left = right := by
  have ones : ∀ bytes : Bytes, ∀ character ∈ (bytes.takeWhile (· == 0)).map fun _ => '1',
      character = '1' := by
    intro bytes character mem
    obtain ⟨_, _, rfl⟩ := List.mem_map.mp mem
    rfl
  -- No number is written with a leading one, so the ones in front stop where the digits begin.
  obtain ⟨leading, digits⟩ := Text.append_inj_of_run (· = '1') (ones left) (ones right)
    (head?_digits_ne_one _ _) (head?_digits_ne_one _ _) same
  apply Radix.ofBytes_injective
  · simpa using congrArg List.length leading
  · have numbers := congrArg (List.map alphabet.idxOf) digits
    rw [map_idxOf_digits, map_idxOf_digits] at numbers
    exact Radix.digits_injective numbers

/-- A checksum has four bytes. -/
theorem length_checksum (payload : Bytes) : (checksum payload).length = 4 := by
  simp [checksum, Digest.length_eq]

/-- Payloads are determined by their texts, whatever their checksums are. -/
theorem checked_inj (left right : Bytes) : checked left = checked right ↔ left = right := by
  constructor
  · intro same
    have bytes := encode_injective (String.ofList_injective same)
    exact List.append_inj_left' bytes (by simp [length_checksum])
  · rintro rfl
    rfl

end Base58

/-- A short hash is told by its bytes. -/
theorem Hash160.bytes_inj (left right : Hash160) : left.bytes = right.bytes ↔ left = right := by
  cases left; cases right
  simp

namespace Address

/-- The text of a coin address tells its version and its hash. -/
theorem coin_inj (version version' : AddressVersion) (hash hash' : Hash160) :
    coin version hash = coin version' hash' ↔ version = version' ∧ hash = hash' := by
  simp [coin, Base58.checked_inj, Hash160.bytes_inj]

/-- The text of an asset address tells its version and its hash. -/
theorem asset_inj (version version' : AddressVersion) (hash hash' : Hash160) :
    asset version hash = asset version' hash' ↔ version = version' ∧ hash = hash' := by
  simp [asset, Base58.checked_inj, Hash160.bytes_inj]

/-- An asset address has one byte more than a coin address. -/
theorem asset_ne_coin (version version' : AddressVersion) (hash hash' : Hash160) :
    asset version hash ≠ coin version' hash' := by
  intro same
  have payloads := (Base58.checked_inj _ _).mp same
  have lengths := congrArg List.length payloads
  simp [Hash160.length_eq] at lengths

/-- An asset id is built like a coin address. -/
theorem assetId_eq_coin (script : Bytes) :
    assetId script = coin assetVersion (Hashing.hash160 script) := rfl

/-- A text with a checksum names its payload, so an address names its version and its hash, and
an asset id the hash of its script. An asset address is never a coin address or an asset id; a
coin address is an asset id exactly if it has the version of asset ids and the hash of the
script. -/
theorem texts_told_apart :
    (∀ left right : Bytes, Base58.checked left = Base58.checked right ↔ left = right) ∧
    (∀ version version' hash hash',
      coin version hash = coin version' hash' ↔ version = version' ∧ hash = hash') ∧
    (∀ version version' hash hash',
      asset version hash = asset version' hash' ↔ version = version' ∧ hash = hash') ∧
    (∀ script script', assetId script = assetId script' ↔
      Hashing.hash160 script = Hashing.hash160 script') ∧
    (∀ version version' hash hash', asset version hash ≠ coin version' hash') ∧
    (∀ version hash script, asset version hash ≠ assetId script) ∧
    ∀ version hash script, coin version hash = assetId script ↔
      version = 0x17 ∧ hash = Hashing.hash160 script := by
  refine ⟨Base58.checked_inj, coin_inj, asset_inj, ?_, asset_ne_coin, ?_, ?_⟩
  · intro script script'
    simp [assetId_eq_coin, coin_inj]
  · intro version hash script
    simpa [assetId_eq_coin] using asset_ne_coin version assetVersion hash _
  · intro version hash script
    simp [assetId_eq_coin, coin_inj, assetVersion]

end Address
end PocketLedger
