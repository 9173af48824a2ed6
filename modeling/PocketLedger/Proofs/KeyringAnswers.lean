import PocketLedger.Proofs.FirstAndLast
import PocketLedger.Proofs.KeyringHistory

/-!
# What a keyring answers

Every question to a keyring is answered from its history. An identifier leads to the last owned
address that has it, before any watched one, in whatever order they came; an account answers
with the addresses that were put under its name. Owned addresses have their keys and watched
ones have none.
-/

namespace PocketLedger

/-! ## Identifiers -/

/-- A Base58 text is written in the alphabet. -/
theorem Base58.mem_alphabet {payload : Bytes} {character : Char}
    (mem : character ∈ (Base58.checked payload).toList) : character ∈ Base58.alphabet := by
  have one : '1' ∈ Base58.alphabet := by decide
  have ofDigit : ∀ value, Base58.digit value ∈ Base58.alphabet := by
    intro value
    rw [Base58.digit, List.getD_eq_getElem?_getD]
    cases found : Base58.alphabet[value]? with
    | none => exact one
    | some digit => exact List.mem_of_getElem? found
  rw [Base58.checked, String.toList_ofList, Base58.encode, List.mem_append] at mem
  rcases mem with zero | digit
  · obtain ⟨_, _, rfl⟩ := List.mem_map.mp zero
    exact one
  · obtain ⟨value, _, rfl⟩ := List.mem_map.mp digit
    exact ofDigit value

/-- A text with a zero is no identifier of a key's address. -/
theorem AddressCard.not_mem_identifiers_ofKey {identifier : String} (zero : '0' ∈ identifier.toList)
    (version : AddressVersion) (key : SecretKey) :
    identifier ∉ (AddressCard.ofKey version key).identifiers := by
  have notWritten : '0' ∉ Base58.alphabet := by decide
  intro mem
  simp only [AddressCard.identifiers, AddressCard.ofKey, Address.coin, Address.asset,
    Address.assetId, List.mem_cons, List.not_mem_nil, or_false] at mem
  rcases mem with rfl | rfl | rfl <;> exact notWritten (Base58.mem_alphabet zero)

namespace Keyring

/-! ## The address of an identifier -/

/-- The last of some addresses that has an identifier. -/
def IsLastWith (identifier : String) (cards : List AddressCard) (card : AddressCard) : Prop :=
  IsLast (fun other => identifier ∈ other.identifiers) cards card

/-- The first of some addresses that has an identifier. -/
def IsFirstWith (identifier : String) (cards : List AddressCard) (card : AddressCard) : Prop :=
  IsFirst (fun other => identifier ∈ other.identifiers) cards card

section Lookup

variable {identifier : String} {cards : List AddressCard} {card : AddressCard}

theorem firstWith?_eq_some_iff :
    firstWith? identifier cards = some card ↔ IsFirstWith identifier cards card :=
  find?_eq_some_iff_isFirst

theorem lastWith?_eq_some_iff :
    lastWith? identifier cards = some card ↔ IsLastWith identifier cards card :=
  find?_reverse_eq_some_iff_isLast

theorem firstWith?_eq_none_iff :
    firstWith? identifier cards = none ↔ ∀ card ∈ cards, identifier ∉ card.identifiers := by
  simp [firstWith?]

theorem lastWith?_eq_none_iff :
    lastWith? identifier cards = none ↔ ∀ card ∈ cards, identifier ∉ card.identifiers := by
  simp [lastWith?]

end Lookup

namespace Tells

variable {history : List Entry} {keyring : Keyring}

/-- An owned address has its key. -/
theorem hasKey_of_owned (tells : Tells history keyring) {card : AddressCard}
    (mem : card ∈ owned history) : card.privateKey.isSome := by
  obtain ⟨entry, entered, isOwned⟩ := List.mem_filterMap.mp mem
  have proper := tells.proper entry entered
  cases entry with
  | owned account card' =>
    cases isOwned
    exact proper
  | opened | watched => cases isOwned

/-- A watched address has no key. -/
theorem keyless_of_watched (tells : Tells history keyring) {card : AddressCard}
    (mem : card ∈ watched history) : card.privateKey = none := by
  obtain ⟨entry, entered, isWatched⟩ := List.mem_filterMap.mp mem
  have proper := tells.proper entry entered
  cases entry with
  | watched account card' =>
    cases isWatched
    exact proper
  | opened | owned => cases isWatched

/-- The last owned address of an identifier is found. -/
theorem find_of_owned (tells : Tells history keyring) {identifier : String} {card : AddressCard}
    (last : IsLastWith identifier (owned history) card) : keyring.find identifier = .ok card := by
  have found := tells.directory_eq identifier
  rw [lastWith?_eq_some_iff.mpr last, Option.some_or] at found
  rw [find, found]

/-- The first watched address of an identifier is found, if no owned address has it. -/
theorem find_of_watched (tells : Tells history keyring) {identifier : String} {card : AddressCard}
    (notOwned : ∀ card ∈ owned history, identifier ∉ card.identifiers)
    (first : IsFirstWith identifier (watched history) card) :
    keyring.find identifier = .ok card := by
  have found := tells.directory_eq identifier
  rw [lastWith?_eq_none_iff.mpr notOwned, firstWith?_eq_some_iff.mpr first, Option.none_or] at found
  rw [find, found]

/-- No other identifier is known. -/
theorem find_of_unknown (tells : Tells history keyring) {identifier : String}
    (notOwned : ∀ card ∈ owned history, identifier ∉ card.identifiers)
    (notWatched : ∀ card ∈ watched history, identifier ∉ card.identifiers) :
    keyring.find identifier = .error (.unknownAddress identifier) := by
  have found := tells.directory_eq identifier
  rw [lastWith?_eq_none_iff.mpr notOwned, firstWith?_eq_none_iff.mpr notWatched,
    Option.none_or] at found
  rw [find, found]

end Tells

/-- After any run of calls, an identifier leads to the last owned address that has it, with its
key; if no owned address has it, to the first watched address that has it, without a key; and
otherwise nowhere. -/
theorem find_prefers_last_owned (config : KeyringConfig) (entropy : Entropy) (calls : List Call)
    (identifier : String) :
    let keyring := (start config entropy).state.callAll calls
    let history := historyOf config entropy calls
    ((∃ card ∈ owned history, identifier ∈ card.identifiers) →
      ∃ card, IsLastWith identifier (owned history) card ∧ card.privateKey.isSome ∧
        keyring.find identifier = .ok card) ∧
    ((∀ card ∈ owned history, identifier ∉ card.identifiers) →
      (∃ card ∈ watched history, identifier ∈ card.identifiers) →
        ∃ card, IsFirstWith identifier (watched history) card ∧ card.privateKey = none ∧
          keyring.find identifier = .ok card) ∧
    ((∀ card ∈ owned history, identifier ∉ card.identifiers) →
      (∀ card ∈ watched history, identifier ∉ card.identifiers) →
        keyring.find identifier = .error (.unknownAddress identifier)) := by
  intro keyring history
  have tells : Tells history keyring := Tells.run config entropy calls
  refine ⟨?_, ?_, tells.find_of_unknown⟩
  · intro occurs
    obtain ⟨card, last⟩ := exists_isLast occurs
    exact ⟨card, last, tells.hasKey_of_owned last.mem, tells.find_of_owned last⟩
  · intro notOwned occurs
    obtain ⟨card, first⟩ := exists_isFirst occurs
    exact ⟨card, first, tells.keyless_of_watched first.mem, tells.find_of_watched notOwned first⟩

/-- An address that is first watched and then made, beside two watched addresses of one
identifier. -/
theorem find_prefers_last_owned_of_clashing :
    let config : KeyringConfig := ⟨Address.testNetwork, [], 0⟩
    let entropy := Entropy.start [Radix.toBytes 32 1, Radix.toBytes 32 2]
    let made := AddressCard.ofKey Address.testNetwork entropy.drawKey.2.drawKey.1
    let clashing : AddressCard := ⟨some "key", "", "", made.address, "0", "0", []⟩
    let later : AddressCard := ⟨none, "", "", "0", "", "", []⟩
    let calls : List Call := [.watch "W" clashing, .generate "A", .watch "W" later]
    let keyring := (start config entropy).state.callAll calls
    keyring.find made.address = .ok made ∧ keyring.find "0" = .ok clashing.watchOnly ∧
      keyring.find "00" = .error (.unknownAddress "00") := by
  intro config entropy made clashing later calls keyring
  have ownedCards : owned (historyOf config entropy calls) =
      [.ofKey Address.testNetwork entropy.drawKey.1] ++ [made] := rfl
  have watchedCards : watched (historyOf config entropy calls) =
      [clashing.watchOnly, later.watchOnly] := rfl
  have isOwned := (find_prefers_last_owned config entropy calls made.address).1
  have isWatched := (find_prefers_last_owned config entropy calls "0").2.1
  have isUnknown := (find_prefers_last_owned config entropy calls "00").2.2
  rw [ownedCards] at isOwned isWatched isUnknown
  rw [watchedCards] at isWatched isUnknown
  have notOwned : ∀ identifier : String, '0' ∈ identifier.toList → ∀ card ∈
      [.ofKey Address.testNetwork entropy.drawKey.1] ++ [made], identifier ∉ card.identifiers := by
    intro identifier zero card mem
    rcases List.mem_append.mp mem with first | second
    · exact List.mem_singleton.mp first ▸ AddressCard.not_mem_identifiers_ofKey zero _ _
    · exact List.mem_singleton.mp second ▸ AddressCard.not_mem_identifiers_ofKey zero _ _
  have hasAddress : made.address ∈ made.identifiers := List.mem_cons_self
  refine ⟨?_, ?_, isUnknown (notOwned "00" (by decide)) ?_⟩
  · obtain ⟨card, last, _, found⟩ := isOwned ⟨made, List.mem_concat_self, hasAddress⟩
    have latest := lastWith?_eq_some_iff.mpr last
    rw [lastWith?_concat, if_pos hasAddress] at latest
    rw [found, Option.some.inj latest]
  · obtain ⟨card, first, _, found⟩ := isWatched (notOwned "0" (by decide))
      ⟨clashing.watchOnly, List.mem_cons_self, List.mem_cons_of_mem _ List.mem_cons_self⟩
    have earliest :
        firstWith? "0" [clashing.watchOnly, later.watchOnly] = some clashing.watchOnly :=
      List.find?_cons_of_pos (by simp [AddressCard.identifiers, AddressCard.watchOnly, clashing])
    rw [firstWith?_eq_some_iff.mpr first] at earliest
    rw [found, Option.some.inj earliest]
  · have notMade : "00" ≠ made.address := fun same =>
      notOwned "00" (by decide) made List.mem_concat_self (same ▸ hasAddress)
    intro card mem
    rcases List.mem_cons.mp mem with rfl | single
    · simp [AddressCard.identifiers, AddressCard.watchOnly, clashing, notMade]
    · rw [List.mem_singleton.mp single]
      decide

/-! ## The addresses of an account -/

/-- What an account owns is owned. -/
theorem owned_about_subset (name : String) (history : List Entry) :
    owned (about name history) ⊆ owned history :=
  (List.filter_sublist.filterMap Entry.ownedCard?).subset

/-- What an account watches is watched. -/
theorem watched_about_subset (name : String) (history : List Entry) :
    watched (about name history) ⊆ watched history :=
  (List.filter_sublist.filterMap Entry.watchedCard?).subset

/-- Addresses that all have keys have one key each, in order. -/
theorem map_some_privateKeys {cards : List AddressCard}
    (haveKeys : ∀ card ∈ cards, card.privateKey.isSome) :
    (cards.filterMap AddressCard.privateKey).map some = cards.map AddressCard.privateKey := by
  induction cards with
  | nil => rfl
  | cons card cards ih =>
    obtain ⟨key, hasKey⟩ := Option.isSome_iff_exists.mp (haveKeys card List.mem_cons_self)
    rw [List.filterMap_cons_some hasKey, List.map_cons, List.map_cons, hasKey,
      ih fun other mem => haveKeys other (List.mem_cons_of_mem _ mem)]

namespace Tells

variable {history : List Entry} {keyring : Keyring} {name : String}

/-- The internal account and the listed accounts are known. -/
theorem account_of_known (tells : Tells history keyring)
    (known : name = internalName ∨ name ∈ keyring.accounts) :
    keyring.account name =
      .ok ⟨name, owned (about name history), watched (about name history)⟩ := by
  rw [tells.accounts_eq] at known
  rw [account, tells.account?_eq, if_pos known]

/-- No other account is known. -/
theorem account_of_unknown (tells : Tells history keyring)
    (unknown : ¬ (name = internalName ∨ name ∈ keyring.accounts)) :
    keyring.account name = .error (.unknownAccount name) := by
  rw [tells.accounts_eq] at unknown
  rw [account, tells.account?_eq, if_neg unknown]

/-- The internal account starts with the internal address. -/
theorem head?_internal (tells : Tells history keyring) :
    (owned (about internalName history)).head? = some keyring.internalCard := by
  obtain ⟨rest, rfl⟩ := List.head?_eq_some_iff.mp tells.head?_eq
  rfl

/-- An account receives at its last owned address. -/
theorem receivingAddressOf_eq_ok_iff (tells : Tells history keyring)
    (known : name = internalName ∨ name ∈ keyring.accounts) (card : AddressCard) :
    keyring.receivingAddressOf name = .ok card ↔
      (owned (about name history)).getLast? = some card := by
  rw [receivingAddressOf, addressesOf, tells.account_of_known known]
  cases last : (owned (about name history)).getLast? <;> simp [Except.map, last]

/-- An account that owns nothing does not receive. -/
theorem receivingAddressOf_eq_error_iff (tells : Tells history keyring)
    (known : name = internalName ∨ name ∈ keyring.accounts) :
    keyring.receivingAddressOf name = .error (.noReceivingAddress name) ↔
      owned (about name history) = [] := by
  rw [receivingAddressOf, addressesOf, tells.account_of_known known, ← List.getLast?_eq_none_iff]
  cases last : (owned (about name history)).getLast? <;> simp [Except.map, last]

end Tells

/-- After any run of calls, the accounts are those that were mentioned, each once, in order of
their first mention and without the internal one. The internal account and these are the ones
that can be asked for: they answer with the addresses that were put under their name, in order,
with a key for each owned address and none for a watched one, and receive at the last owned
address. The internal address stays what it was and comes first in its account. -/
theorem accounts_answer_from_history (config : KeyringConfig) (entropy : Entropy)
    (calls : List Call) :
    let keyring := (start config entropy).state.callAll calls
    let history := historyOf config entropy calls
    (keyring.accounts = mentioned history ∧ keyring.accounts.Nodup ∧
      internalName ∉ keyring.accounts) ∧
    (keyring.internalCard = (start config entropy).state.internalCard ∧
      (owned (about internalName history)).head? = some keyring.internalCard) ∧
    (∀ name, name = internalName ∨ name ∈ keyring.accounts →
      keyring.addressesOf name = .ok (owned (about name history)) ∧
      keyring.watchedOf name = .ok (watched (about name history)) ∧
      (∀ card ∈ watched (about name history), card.privateKey = none) ∧
      (∃ keys, keyring.privateKeysOf name = .ok keys ∧
        keys.map some = (owned (about name history)).map AddressCard.privateKey) ∧
      (∀ card, keyring.receivingAddressOf name = .ok card ↔
        (owned (about name history)).getLast? = some card) ∧
      (keyring.receivingAddressOf name = .error (.noReceivingAddress name) ↔
        owned (about name history) = [])) ∧
    ∀ name, ¬ (name = internalName ∨ name ∈ keyring.accounts) →
      keyring.addressesOf name = .error (.unknownAccount name) ∧
      keyring.watchedOf name = .error (.unknownAccount name) ∧
      keyring.privateKeysOf name = .error (.unknownAccount name) ∧
      keyring.receivingAddressOf name = .error (.unknownAccount name) := by
  intro keyring history
  have tells : Tells history keyring := Tells.run config entropy calls
  refine ⟨⟨tells.accounts_eq, ?_, ?_⟩, ⟨?_, tells.head?_internal⟩, ?_, ?_⟩
  · rw [tells.accounts_eq]
    exact nodup_mentioned history
  · rw [tells.accounts_eq, mem_mentioned_iff]
    exact fun internal => internal.1 rfl
  · have first := (Tells.start config entropy).head?_eq
    have same : some (Entry.owned internalName keyring.internalCard) =
        some (Entry.owned internalName (start config entropy).state.internalCard) :=
      tells.head?_eq.symm.trans first
    exact (Entry.owned.inj (Option.some.inj same)).2
  · intro name known
    have account := tells.account_of_known known
    refine ⟨?_, ?_, ?_, ⟨(owned (about name history)).filterMap AddressCard.privateKey, ?_, ?_⟩,
      tells.receivingAddressOf_eq_ok_iff known, tells.receivingAddressOf_eq_error_iff known⟩
    · rw [addressesOf, account]
      rfl
    · rw [watchedOf, account]
      rfl
    · exact fun card mem => tells.keyless_of_watched (watched_about_subset name history mem)
    · rw [privateKeysOf, addressesOf, account]
      rfl
    · exact map_some_privateKeys fun card mem =>
        tells.hasKey_of_owned (owned_about_subset name history mem)
  · intro name unknown
    have account := tells.account_of_unknown unknown
    refine ⟨?_, ?_, ?_, ?_⟩
    · rw [addressesOf, account]
      rfl
    · rw [watchedOf, account]
      rfl
    · rw [privateKeysOf, addressesOf, account]
      rfl
    · rw [receivingAddressOf, addressesOf, account]
      rfl

/-- Accounts that are mentioned without an address: twice, as the internal one, for an address to
watch, and by a key that is refused. A key that is accepted puts its address into another. -/
theorem accounts_answer_from_history_after_import :
    let config : KeyringConfig := ⟨Address.testNetwork, ["A", internalName, "A"], 0⟩
    let entropy := Entropy.start [Radix.toBytes 32 1]
    let card : AddressCard := ⟨some "key", "", "", "", "", "", []⟩
    let key : SecretKey := ⟨5, by decide, by decide⟩
    let imported := AddressCard.ofKey Address.testNetwork key
    let calls : List Call :=
      [.watch "W" card, .importKey "B" "not a key", .importKey "C" key.hex]
    let keyring := (start config entropy).state.callAll calls
    keyring.accounts = ["A", "W", "C"] ∧ keyring.watchedOf "W" = .ok [card.watchOnly] ∧
      keyring.receivingAddressOf "W" = .error (.noReceivingAddress "W") ∧
      keyring.addressesOf internalName = .ok [keyring.internalCard] ∧
      keyring.addressesOf "C" = .ok [imported] ∧ keyring.privateKeysOf "C" = .ok [key.hex] ∧
      keyring.receivingAddressOf "C" = .ok imported ∧
      keyring.addressesOf "B" = .error (.unknownAccount "B") := by
  intro config entropy card key imported calls keyring
  let earlier : List Call := [.watch "W" card, .importKey "B" "not a key"]
  have told : historyOf config entropy calls =
      historyOf config entropy earlier ++ [.owned "C" imported] :=
    historyOf_importKey_hex config entropy earlier "C" key
  have answers := accounts_answer_from_history config entropy calls
  rw [told] at answers
  obtain ⟨⟨accounts, _⟩, ⟨_, first⟩, known, unknown⟩ := answers
  rw [show mentioned _ = ["A", "W", "C"] from rfl] at accounts
  rw [accounts] at known unknown
  obtain ⟨_, watchedByW, _, _, _, receivesNot⟩ := known "W" (.inr (by decide))
  obtain ⟨ownedByC, _, _, ⟨keys, keysOfC, exported⟩, receives, _⟩ := known "C" (.inr (by decide))
  have internal : keyring.internalCard = .ofKey config.version entropy.drawKey.1 :=
    (Option.some.inj first).symm
  have oneKey : keys = [key.hex] := by
    apply List.map_injective_iff.mpr (Option.some_injective _)
    exact exported
  refine ⟨accounts, watchedByW, receivesNot.mpr rfl, ?_, ownedByC, oneKey ▸ keysOfC,
    (receives imported).mpr rfl, (unknown "B" (by decide)).1⟩
  rw [internal]
  exact (known internalName (.inl rfl)).1

end Keyring
end PocketLedger
