import PocketLedger.Proofs.KeyringAnswers

/-!
# Secret keys that leave and come back

Whichever way an owned address came into a keyring, it is the address of one key at the version of
the keyring. Its exported key therefore leads back to it, in whatever account it is imported. A
failed import leaves the keyring as it was.
-/

namespace PocketLedger

namespace Keyring

/-! ## Addresses and their keys -/

/-- If the entry has an owned address, it is that of a key. -/
def Entry.OfKey (version : AddressVersion) (entry : Entry) : Prop :=
  ∀ card ∈ entry.ownedCard?, ∃ key, card = .ofKey version key

theorem Entry.ofKey_opened (version : AddressVersion) (name : String) :
    (Entry.opened name).OfKey version := nofun

theorem Entry.ofKey_watched (version : AddressVersion) (name : String) (card : AddressCard) :
    (Entry.watched name card).OfKey version := nofun

/-- The address of a key makes an entry of a key. -/
theorem Entry.ofKey_owned (version : AddressVersion) (name : String) (key : SecretKey) :
    (Entry.owned name (.ofKey version key)).OfKey version := by
  intro card isOwned
  exact ⟨key, (Option.some.inj isOwned).symm⟩

/-- The configured accounts have addresses of keys. -/
theorem ofKey_of_mem_filling {version : AddressVersion} {addressesEach : Nat}
    {names : List String} {entropy : Entropy} {entry : Entry}
    (mem : entry ∈ filling version addressesEach names entropy) : entry.OfKey version := by
  induction names generalizing entropy with
  | nil => cases mem
  | cons name names ih =>
    rcases List.mem_append.mp mem with first | later
    · rcases List.mem_cons.mp first with rfl | drawn
      · exact Entry.ofKey_opened version name
      · obtain ⟨key, _, rfl⟩ := List.mem_map.mp drawn
        exact Entry.ofKey_owned version name key
    · exact ih later

/-- What a call makes owned is the address of a key. -/
theorem ofKey_of_mem_gained {keyring : Keyring} {call : Call} {entry : Entry}
    (mem : entry ∈ keyring.gained call) : entry.OfKey keyring.version := by
  cases call with
  | listen listener => cases mem
  | generate name =>
    obtain rfl := List.mem_singleton.mp mem
    exact Entry.ofKey_owned _ name _
  | importKey name digits =>
    rw [gained, importKey] at mem
    cases found : SecretKey.ofHex digits with
    | error error =>
      rw [found] at mem
      cases mem
    | ok key =>
      rw [found] at mem
      obtain rfl := List.mem_singleton.mp mem
      exact Entry.ofKey_owned _ name key
  | watch name card =>
    obtain rfl := List.mem_singleton.mp mem
    exact Entry.ofKey_watched _ name _

/-- What a run of calls makes owned are addresses of keys. -/
theorem ofKey_of_mem_gainedIn {keyring : Keyring} {calls : List Call} {entry : Entry}
    (mem : entry ∈ keyring.gainedIn calls) : entry.OfKey keyring.version := by
  induction calls generalizing keyring with
  | nil => cases mem
  | cons first rest ih =>
    rcases List.mem_append.mp mem with now | later
    · exact ofKey_of_mem_gained now
    · have ofKey := ih later
      rwa [version_call] at ofKey

/-- Every owned address is that of a key, whether it was there from the start, was made or was
imported. -/
theorem exists_key_of_owned {config : KeyringConfig} {entropy : Entropy} {calls : List Call}
    {card : AddressCard} (mem : card ∈ owned (historyOf config entropy calls)) :
    ∃ key, card = .ofKey config.version key := by
  obtain ⟨entry, entered, isOwned⟩ := List.mem_filterMap.mp mem
  have ofKey : entry.OfKey config.version := by
    rcases List.mem_append.mp entered with opened | gained
    · rcases List.mem_cons.mp opened with rfl | filled
      · exact Entry.ofKey_owned _ _ _
      · exact ofKey_of_mem_filling filled
    · have ofKey := ofKey_of_mem_gainedIn gained
      rwa [version_start] at ofKey
  exact ofKey card isOwned

/-! ## Importing an owned key -/

/-- Some account owns the address. -/
def Owns (keyring : Keyring) (card : AddressCard) : Prop :=
  ∃ name cards, keyring.addressesOf name = .ok cards ∧ card ∈ cards

/-- What the accounts own is what the history tells as owned. -/
theorem Tells.owns_iff {history : List Entry} {keyring : Keyring} (tells : Tells history keyring)
    (card : AddressCard) : keyring.Owns card ↔ card ∈ owned history := by
  constructor
  · rintro ⟨name, cards, answer, mem⟩
    by_cases known : name = internalName ∨ name ∈ keyring.accounts
    · rw [addressesOf, tells.account_of_known known] at answer
      obtain rfl : owned (about name history) = cards := Except.ok.inj answer
      exact owned_about_subset name history mem
    · rw [addressesOf, tells.account_of_unknown known] at answer
      cases answer
  · intro mem
    obtain ⟨entry, entered, isOwned⟩ := List.mem_filterMap.mp mem
    have known : entry.account = internalName ∨ entry.account ∈ keyring.accounts := by
      rw [tells.accounts_eq, mem_mentioned_iff]
      by_cases internal : entry.account = internalName
      · exact .inl internal
      · exact .inr ⟨internal, entry, entered, rfl⟩
    refine ⟨entry.account, owned (about entry.account history), ?_, ?_⟩
    · rw [addressesOf, tells.account_of_known known]
      rfl
    · refine List.mem_filterMap.mpr ⟨entry, List.mem_filter.mpr ⟨entered, ?_⟩, isOwned⟩
      simp

/-- An added address is found by its identifiers, and everything else as before. -/
theorem find_addOwned (keyring : Keyring) (name : String) (card : AddressCard)
    (identifier : String) : (keyring.addOwned name card).state.find identifier =
      if identifier ∈ card.identifiers then .ok card else keyring.find identifier := by
  have directory : (keyring.addOwned name card).state.directory =
      (keyring.index card).directory := by
    rw [addOwned_state, enter_eq]
    rfl
  rw [find, directory, getElem?_index]
  by_cases has : identifier ∈ card.identifiers
  · rw [if_pos has, if_pos has]
  · rw [if_neg has, if_neg has]
    rfl

/-- An identifier that one owned address alone has leads to it. -/
theorem Tells.find_of_only {history : List Entry} {keyring : Keyring}
    (tells : Tells history keyring) {card : AddressCard} {identifier : String}
    (owns : card ∈ owned history) (has : identifier ∈ card.identifiers)
    (only : ∀ other ∈ owned history, identifier ∈ other.identifiers → other = card) :
    keyring.find identifier = .ok card := by
  have occurs : ∃ other ∈ owned history, identifier ∈ other.identifiers := ⟨card, owns, has⟩
  obtain ⟨last, isLast⟩ := exists_isLast occurs
  have lastHas : identifier ∈ last.identifiers := by
    obtain ⟨_, _, _, lastHas, _⟩ := isLast
    exact lastHas
  rw [tells.find_of_owned isLast, only last isLast.mem lastHas]

/-- An import that fails changes nothing and reports nothing. -/
theorem importKey_of_error {keyring : Keyring} {name digits : String} {error : KeyringError}
    (failed : (keyring.importKey name digits).result = .error error) :
    (keyring.importKey name digits).state = keyring ∧
      (keyring.importKey name digits).notices = [] := by
  unfold importKey at *
  cases found : SecretKey.ofHex digits with
  | error keyError => exact ⟨rfl, rfl⟩
  | ok key =>
    rw [found] at failed
    cases failed

/-- A text is refused as not hexadecimal exactly if it has an odd number of bytes or a byte that
is no digit, and as out of range exactly if it writes bytes that are no key; otherwise it gives
the key that is exported as the text in lower case. After any run of calls, the exported key of
an owned address is imported into any account as that address, and identifiers lead where they
led, unless another owned address shares them with it. An import that fails changes nothing. -/
theorem exported_keys_return :
    (∀ text : String,
      (SecretKey.ofHex text = .error .notHex ↔ (Bytes.ofText text).length % 2 = 1 ∨
        ∃ byte ∈ Bytes.ofText text, ¬ Hex.IsDigit byte) ∧
      (SecretKey.ofHex text = .error .outOfRange ↔
        ∃ bytes, text.toLower = Hex.text bytes ∧ ¬ SecretKey.InRange bytes) ∧
      ∀ key, SecretKey.ofHex text = .ok key ↔ key.hex = text.toLower) ∧
    (∀ (config : KeyringConfig) (entropy : Entropy) (calls : List Call),
      let keyring := (start config entropy).state.callAll calls
      ∀ card, keyring.Owns card → ∃ digits, card.privateKey = some digits ∧ ∀ name,
        (keyring.importKey name digits).result = .ok card ∧
        ∀ identifier, (identifier ∈ card.identifiers →
            ∀ other, keyring.Owns other → identifier ∈ other.identifiers → other = card) →
          (keyring.importKey name digits).state.find identifier = keyring.find identifier) ∧
    ∀ (keyring : Keyring) (name digits : String) (error : KeyringError),
      (keyring.importKey name digits).result = .error error →
        (keyring.importKey name digits).state = keyring ∧
          (keyring.importKey name digits).notices = [] := by
  refine ⟨?_, ?_, ?_⟩
  · intro text
    exact ⟨SecretKey.ofHex_eq_notHex_iff text, SecretKey.ofHex_eq_outOfRange_iff text,
      SecretKey.ofHex_eq_ok_iff text⟩
  · intro config entropy calls keyring card owns
    have tells : Tells (historyOf config entropy calls) keyring := Tells.run config entropy calls
    have isOwned := (tells.owns_iff card).mp owns
    obtain ⟨key, rfl⟩ := exists_key_of_owned isOwned
    refine ⟨key.hex, rfl, ?_⟩
    intro name
    have version : keyring.version = config.version :=
      (version_callAll _ calls).trans (version_start config entropy)
    rw [importKey_hex, version]
    refine ⟨rfl, ?_⟩
    intro identifier only
    -- The import lets the identifiers of the address lead to it, where they led to it before
    -- unless another owned address had taken them over.
    rw [find_addOwned]
    by_cases has : identifier ∈ (AddressCard.ofKey config.version key).identifiers
    · rw [if_pos has]
      refine (tells.find_of_only isOwned has ?_).symm
      intro other otherOwned
      exact only has other ((tells.owns_iff other).mpr otherOwned)
    · rw [if_neg has]
  · intro keyring name digits error
    exact importKey_of_error

/-- The internal address is exported and imported into an account, and from there it comes back
into another, next to a key that is refused. -/
theorem exported_keys_return_to_another_account :
    let config : KeyringConfig := ⟨Address.testNetwork, [], 0⟩
    let entropy := Entropy.start [Radix.toBytes 32 1]
    let key := entropy.drawKey.1
    let card := AddressCard.ofKey Address.testNetwork key
    let calls : List Call :=
      [.watch "W" ⟨none, "", "", "0", "0", card.assetId, []⟩, .importKey "A" key.hex]
    let keyring := (start config entropy).state.callAll calls
    keyring.addressesOf "A" = .ok [card] ∧
      (keyring.importKey "B" key.hex).result = .ok card ∧
      (keyring.importKey "B" key.hex).state.find card.assetId = keyring.find card.assetId ∧
      SecretKey.ofHex "0g" = .error .notHex ∧ SecretKey.ofHex "0A" = .error .outOfRange ∧
      (keyring.importKey "B" "0g").state = keyring := by
  intro config entropy key card calls keyring
  obtain ⟨texts, returns, failures⟩ := exported_keys_return
  let watching : List Call := [.watch "W" ⟨none, "", "", "0", "0", card.assetId, []⟩]
  have told : historyOf config entropy calls =
      historyOf config entropy watching ++ [.owned "A" card] :=
    historyOf_importKey_hex config entropy watching "A" key
  have tells : Tells (historyOf config entropy calls) keyring := Tells.run config entropy calls
  rw [told] at tells
  have ownedByA : keyring.addressesOf "A" = .ok [card] := by
    have known : "A" ∈ keyring.accounts := by
      rw [tells.accounts_eq]
      decide
    rw [addressesOf, tells.account_of_known (.inr known)]
    rfl
  have ownedCards : owned (historyOf config entropy watching ++ [.owned "A" card]) =
      [card, card] := rfl
  have only : ∀ other, keyring.Owns other ↔ other = card := by
    intro other
    rw [tells.owns_iff, ownedCards]
    simp
  obtain ⟨digits, exported, imported⟩ := returns config entropy calls card ((only card).mpr rfl)
  obtain rfl : key.hex = digits := Option.some.inj exported
  have notHex : SecretKey.ofHex "0g" = .error .notHex := (texts "0g").1.mpr (.inr ⟨0x67, by decide⟩)
  have outOfRange : SecretKey.ofHex "0A" = .error .outOfRange := by
    refine (texts "0A").2.1.mpr ⟨[10], ?_, fun inside => absurd inside.1 (by decide)⟩
    rw [← String.toList_inj, Hex.toList_toLower]
    decide
  have refused : (keyring.importKey "B" "0g").result = .error (.key .notHex) := by
    rw [importKey, notHex]
    rfl
  refine ⟨ownedByA, (imported "B").1, (imported "B").2 card.assetId ?_, notHex, outOfRange,
    (failures keyring "B" "0g" _ refused).1⟩
  intro _ other owns _
  exact (only other).mp owns

end Keyring
end PocketLedger
