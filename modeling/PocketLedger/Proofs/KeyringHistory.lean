import Mathlib.Data.List.Induction
import PocketLedger.Proofs.SecretKeys

/-!
# The history of a keyring

A keyring keeps its internal account, its other accounts and its directory apart from each
other. Over any run of calls, all of them tell one history: the list of what was put into the
keyring, from the accounts it was started with to the last call. `Tells` is what each entry
keeps.
-/

namespace PocketLedger.Keyring

/-! ## Calls -/

/-- A call that can change a keyring. -/
inductive Call where
  | listen (listener : KeyListener)
  | generate (name : String)
  | importKey (name digits : String)
  | watch (name : String) (card : AddressCard)

/-- The keyring after a call, successful or not. -/
def call (keyring : Keyring) : Call → Keyring
  | .listen listener => keyring.listen listener
  | .generate name => (keyring.generate name).state
  | .importKey name digits => (keyring.importKey name digits).state
  | .watch name card => keyring.watch name card

/-- The keyring after calls in order. -/
def callAll (keyring : Keyring) (calls : List Call) : Keyring := calls.foldl call keyring

/-! ## Entries -/

/-- Something that was put into a keyring. -/
inductive Entry where
  /-- An account was asked for, without an address. -/
  | opened (account : String)
  | owned (account : String) (card : AddressCard)
  | watched (account : String) (card : AddressCard)

namespace Entry

/-- The account that an entry mentions. -/
def account : Entry → String
  | .opened account | .owned account _ | .watched account _ => account

/-- The address that an entry makes owned. -/
def ownedCard? : Entry → Option AddressCard
  | .owned _ card => some card
  | .opened _ | .watched .. => none

/-- The address that an entry makes watched. -/
def watchedCard? : Entry → Option AddressCard
  | .watched _ card => some card
  | .opened _ | .owned .. => none

/-- An owned address has its key, and a watched address has none. -/
def Proper : Entry → Prop
  | .opened _ => True
  | .owned _ card => card.privateKey.isSome
  | .watched _ card => card.privateKey = none

end Entry

/-- The owned addresses of a history, oldest first. -/
def owned (history : List Entry) : List AddressCard := history.filterMap Entry.ownedCard?

/-- The watched addresses of a history, oldest first. -/
def watched (history : List Entry) : List AddressCard := history.filterMap Entry.watchedCard?

/-- What a history says of one account. -/
def about (name : String) (history : List Entry) : List Entry :=
  history.filter fun entry => entry.account = name

/-- The accounts that a history mentions, each once, in order of their first mention, without
the internal one. -/
def mentioned (history : List Entry) : List String :=
  ((history.map Entry.account).filter fun name => name ≠ internalName).eraseDups

/-- What filling a keyring puts into it: each account in turn, with its new addresses. -/
def filling (version : AddressVersion) (addressesEach : Nat) : List String → Entropy → List Entry
  | [], _ => []
  | name :: rest, entropy =>
    .opened name :: ((entropy.drawKeys addressesEach).1.map fun key =>
      .owned name (.ofKey version key)) ++
      filling version addressesEach rest (entropy.drawKeys addressesEach).2

/-- What a keyring has at its start: the internal address, and then its configured accounts. -/
def opening (config : KeyringConfig) (entropy : Entropy) : List Entry :=
  .owned internalName (.ofKey config.version entropy.drawKey.1) ::
    filling config.version config.addressesEach config.accounts entropy.drawKey.2

/-- What a call puts into a keyring: the address that it answers with, if it succeeds, or the
address to watch, without its key. -/
def gained (keyring : Keyring) : Call → List Entry
  | .listen _ => []
  | .generate name => ((keyring.generate name).result.toOption.map (.owned name)).toList
  | .importKey name digits =>
    ((keyring.importKey name digits).result.toOption.map (.owned name)).toList
  | .watch name card => [.watched name card.watchOnly]

/-- What calls in order put into a keyring. -/
def gainedIn (keyring : Keyring) : List Call → List Entry
  | [] => []
  | first :: rest => keyring.gained first ++ (keyring.call first).gainedIn rest

/-- All that was put into a keyring from its start through a run of calls. -/
def historyOf (config : KeyringConfig) (entropy : Entropy) (calls : List Call) : List Entry :=
  opening config entropy ++ (start config entropy).state.gainedIn calls

section Concat

variable (history : List Entry) (entry : Entry)

@[simp]
theorem owned_concat : owned (history ++ [entry]) = owned history ++ entry.ownedCard?.toList := by
  cases found : entry.ownedCard? <;> simp [owned, found]

@[simp]
theorem watched_concat :
    watched (history ++ [entry]) = watched history ++ entry.watchedCard?.toList := by
  cases found : entry.watchedCard? <;> simp [watched, found]

/-- An entry is about its own account. -/
theorem about_concat_self : about entry.account (history ++ [entry]) =
    about entry.account history ++ [entry] := by
  simp [about]

/-- An entry is about no other account. -/
theorem about_concat_of_ne {name : String} (other : name ≠ entry.account) :
    about name (history ++ [entry]) = about name history := by
  simp [about, other.symm]

/-- Every mentioned account but the internal one is listed. -/
theorem mem_mentioned_iff (name : String) :
    name ∈ mentioned history ↔ name ≠ internalName ∧ ∃ entry ∈ history, entry.account = name := by
  simp only [mentioned, List.mem_eraseDups, List.mem_filter, List.mem_map, decide_eq_true_eq]
  exact and_comm

/-- An account is listed at its first mention. -/
theorem mentioned_concat : mentioned (history ++ [entry]) =
    if entry.account = internalName ∨ entry.account ∈ mentioned history then mentioned history
    else mentioned history ++ [entry.account] := by
  simp only [mentioned, List.mem_eraseDups, List.map_append, List.filter_append,
    List.eraseDups_append]
  by_cases internal : entry.account = internalName
  · simp [internal, List.removeAll]
  · by_cases listed : ∃ earlier ∈ history, earlier.account = entry.account
    · simp [internal, listed, List.removeAll]
    · simp [internal, listed, List.removeAll, List.eraseDups_cons]

end Concat

/-- What is not mentioned has no entries. -/
theorem about_eq_nil {history : List Entry} {name : String} (notInternal : name ≠ internalName)
    (unlisted : name ∉ mentioned history) : about name history = [] := by
  rw [about, List.filter_eq_nil_iff]
  intro entry mem ofName
  have account : entry.account = name := by simpa using ofName
  exact unlisted ((mem_mentioned_iff history name).mpr ⟨notInternal, entry, mem, account⟩)

/-- No account is mentioned twice. -/
theorem nodup_mentioned (history : List Entry) : (mentioned history).Nodup := by
  induction history using List.reverseRecOn with
  | nil => exact List.nodup_nil
  | append_singleton history entry ih =>
    rw [mentioned_concat]
    split
    next => exact ih
    next new =>
      rw [not_or] at new
      refine List.nodup_append.mpr ⟨ih, by simp, ?_⟩
      rintro name old _ single rfl
      exact new.2 (List.mem_singleton.mp single ▸ old)

/-! ## Accounts -/

section Accounts

variable {change : Account → Account}

/-- Changing an account lists it, if it was not listed. -/
theorem map_name_changeIn (keepsName : ∀ account, (change account).name = account.name)
    (name : String) (accounts : List Account) :
    (changeIn name change accounts).map Account.name =
      if name ∈ accounts.map Account.name then accounts.map Account.name
      else accounts.map Account.name ++ [name] := by
  induction accounts with
  | nil => simp [changeIn, keepsName]
  | cons account accounts ih =>
    rw [changeIn]
    split
    next same => simp [same, keepsName]
    next other =>
      have notFirst : name ≠ account.name := fun same => other same.symm
      simp only [List.map_cons, ih, List.mem_cons, notFirst, false_or]
      split <;> rfl

/-- The account of a name is the changed one, and all others stay. -/
theorem find?_changeIn (keepsName : ∀ account, (change account).name = account.name)
    (name other : String) (accounts : List Account) :
    (changeIn name change accounts).find? (fun account => account.name = other) =
      if other = name then
        some (change ((accounts.find? fun account => account.name = name).getD ⟨name, [], []⟩))
      else accounts.find? fun account => account.name = other := by
  induction accounts with
  | nil =>
    by_cases same : other = name
    · simp [changeIn, keepsName, same]
    · simp [changeIn, keepsName, same, Ne.symm same]
  | cons account accounts ih =>
    rw [changeIn]
    by_cases first : account.name = name
    · rw [if_pos first]
      by_cases same : other = name
      · simp [keepsName, first, same]
      · simp [keepsName, first, same, Ne.symm same]
    · rw [if_neg first, List.find?_cons, ih]
      by_cases same : other = name
      · simp [same, first]
      · simp [same, List.find?_cons]

/-- A change opens the account that it is for, and names no other. -/
theorem accounts_changeAccount (keepsName : ∀ account, (change account).name = account.name)
    (keyring : Keyring) (name : String) :
    (keyring.changeAccount name change).accounts =
      if name = internalName ∨ name ∈ keyring.accounts then keyring.accounts
      else keyring.accounts ++ [name] := by
  unfold changeAccount
  by_cases internal : name = internalName
  · rw [if_pos internal, if_pos (.inl internal)]
    rfl
  · rw [if_neg internal]
    simp only [internal, false_or]
    exact map_name_changeIn keepsName name keyring.others

/-- The account of a name is the changed one, which is new if there was none, and all others
stay. -/
theorem account?_changeAccount (keepsName : ∀ account, (change account).name = account.name)
    (keyring : Keyring) (name other : String) :
    (keyring.changeAccount name change).account? other =
      if other = name then some (change ((keyring.account? name).getD ⟨name, [], []⟩))
      else keyring.account? other := by
  unfold changeAccount account?
  by_cases internal : name = internalName
  · rw [if_pos internal, if_pos internal]
    by_cases same : other = name
    · simp [same, internal]
    · have notInternal : other ≠ internalName := internal ▸ same
      simp [same, notInternal]
  · rw [if_neg internal, if_neg internal]
    by_cases toInternal : other = internalName
    · have differ : other ≠ name := fun same => internal (same.symm.trans toInternal)
      rw [if_pos toInternal, if_pos toInternal, if_neg differ]
    · rw [if_neg toInternal, if_neg toInternal]
      exact find?_changeIn keepsName name other keyring.others

end Accounts

/-! ## The directory -/

/-- The last address with an identifier. -/
def lastWith? (identifier : String) (cards : List AddressCard) : Option AddressCard :=
  cards.reverse.find? fun card => identifier ∈ card.identifiers

/-- The first address with an identifier. -/
def firstWith? (identifier : String) (cards : List AddressCard) : Option AddressCard :=
  cards.find? fun card => identifier ∈ card.identifiers

/-- A further address is the last with its identifiers. -/
theorem lastWith?_concat (identifier : String) (cards : List AddressCard) (card : AddressCard) :
    lastWith? identifier (cards ++ [card]) =
      if identifier ∈ card.identifiers then some card else lastWith? identifier cards := by
  rw [lastWith?, List.reverse_concat, List.find?_cons]
  by_cases mem : identifier ∈ card.identifiers
  · simp [mem]
  · simp [mem, lastWith?]

/-- A further address is the first with an identifier only if no other has it. -/
theorem firstWith?_concat (identifier : String) (cards : List AddressCard) (card : AddressCard) :
    firstWith? identifier (cards ++ [card]) = (firstWith? identifier cards).or
      (if identifier ∈ card.identifiers then some card else none) := by
  rw [firstWith?, List.find?_append]
  by_cases mem : identifier ∈ card.identifiers
  · simp [mem, firstWith?]
  · simp [mem, firstWith?]

/-- An owned address takes its identifiers over. -/
theorem getElem?_index (keyring : Keyring) (card : AddressCard) (identifier : String) :
    (keyring.index card).directory[identifier]? =
      if identifier ∈ card.identifiers then some card else keyring.directory[identifier]? := by
  have each : ∀ (identifiers : List String) (directory : Std.ExtTreeMap String AddressCard),
      (identifiers.foldl (fun directory other => directory.insert other card)
          directory)[identifier]? =
        if identifier ∈ identifiers then some card else directory[identifier]? := by
    intro identifiers
    induction identifiers with
    | nil => simp
    | cons first rest ih =>
      intro directory
      rw [List.foldl_cons, ih, Std.ExtTreeMap.getElem?_insert]
      by_cases same : identifier = first
      · simp [same]
      · simp [same, Ne.symm same, Std.LawfulEqCmp.compare_eq_iff_eq]
  exact each card.identifiers keyring.directory

/-- A watched address takes over those of its identifiers that lead nowhere. -/
theorem getElem?_indexIfNew (keyring : Keyring) (card : AddressCard) (identifier : String) :
    (keyring.indexIfNew card).directory[identifier]? = keyring.directory[identifier]?.or
      (if identifier ∈ card.identifiers then some card else none) := by
  have each : ∀ (identifiers : List String) (directory : Std.ExtTreeMap String AddressCard),
      (identifiers.foldl (fun directory other => directory.insertIfNew other card)
          directory)[identifier]? =
        directory[identifier]?.or (if identifier ∈ identifiers then some card else none) := by
    intro identifiers
    induction identifiers with
    | nil => simp
    | cons first rest ih =>
      intro directory
      rw [List.foldl_cons, ih, Std.ExtTreeMap.getElem?_insertIfNew]
      by_cases same : identifier = first
      · subst same
        cases found : directory[identifier]? <;>
          simp [Std.ExtTreeMap.mem_iff_isSome_getElem?, found]
      · simp [same, Ne.symm same, Std.LawfulEqCmp.compare_eq_iff_eq]
  exact each card.identifiers keyring.directory

/-! ## Entering -/

/-- An account with what an entry adds to it. -/
def Entry.credit (entry : Entry) (account : Account) : Account :=
  { account with
    owned := account.owned ++ entry.ownedCard?.toList
    watched := account.watched ++ entry.watchedCard?.toList }

theorem Entry.name_credit (entry : Entry) (account : Account) :
    (entry.credit account).name = account.name := rfl

/-- Let the identifiers of the address of an entry lead to it, as it is owned or watched. -/
def indexEntry (keyring : Keyring) : Entry → Keyring
  | .opened _ => keyring
  | .owned _ card => keyring.index card
  | .watched _ card => keyring.indexIfNew card

/-- The keyring with one more entry, before anyone hears of it. -/
def enter (keyring : Keyring) (entry : Entry) : Keyring :=
  (keyring.indexEntry entry).changeAccount entry.account entry.credit

theorem enter_opened (keyring : Keyring) (name : String) :
    keyring.enter (.opened name) = keyring.changeAccount name fun account => account := by
  have nothing : (Entry.opened name).credit = fun account => account := by
    funext account
    simp [Entry.credit, Entry.ownedCard?, Entry.watchedCard?]
  rw [enter, nothing]
  rfl

theorem enter_owned (keyring : Keyring) (name : String) (card : AddressCard) :
    keyring.enter (.owned name card) = (keyring.index card).changeAccount name fun account =>
      { account with owned := account.owned ++ [card] } := by
  have one : (Entry.owned name card).credit = fun account =>
      { account with owned := account.owned ++ [card] } := by
    funext account
    simp [Entry.credit, Entry.ownedCard?, Entry.watchedCard?]
  rw [enter, one]
  rfl

theorem enter_watched (keyring : Keyring) (name : String) (card : AddressCard) :
    keyring.enter (.watched name card) = (keyring.indexIfNew card).changeAccount name fun account =>
      { account with watched := account.watched ++ [card] } := by
  have one : (Entry.watched name card).credit = fun account =>
      { account with watched := account.watched ++ [card] } := by
    funext account
    simp [Entry.credit, Entry.ownedCard?, Entry.watchedCard?]
  rw [enter, one]
  rfl

/-- Changing an account changes nothing else. -/
theorem changeAccount_eq (keyring : Keyring) (name : String) (change : Account → Account) :
    keyring.changeAccount name change =
      { keyring with
        internalAccount := (keyring.changeAccount name change).internalAccount
        others := (keyring.changeAccount name change).others } := by
  unfold changeAccount
  split <;> rfl

/-- An entry leads identifiers to an address and changes an account, and nothing else. -/
theorem enter_eq (keyring : Keyring) (entry : Entry) :
    keyring.enter entry =
      { keyring with
        internalAccount := (keyring.enter entry).internalAccount
        others := (keyring.enter entry).others
        directory := (keyring.indexEntry entry).directory } := by
  rw [enter, changeAccount_eq]
  cases entry <;> rfl

/-- An entry opens its account unless it is there. -/
theorem accounts_enter (keyring : Keyring) (entry : Entry) :
    (keyring.enter entry).accounts =
      if entry.account = internalName ∨ entry.account ∈ keyring.accounts then keyring.accounts
      else keyring.accounts ++ [entry.account] := by
  have same : (keyring.indexEntry entry).accounts = keyring.accounts := by cases entry <;> rfl
  rw [enter, accounts_changeAccount entry.name_credit, same]

/-- An entry credits its account and leaves the others. -/
theorem account?_enter (keyring : Keyring) (entry : Entry) (name : String) :
    (keyring.enter entry).account? name =
      if name = entry.account then
        some (entry.credit ((keyring.account? entry.account).getD ⟨entry.account, [], []⟩))
      else keyring.account? name := by
  have same : (keyring.indexEntry entry).account? = keyring.account? := by cases entry <;> rfl
  rw [enter, account?_changeAccount entry.name_credit, same]

/-! ## The history that a keyring tells -/

/-- The keyring tells this history. -/
structure Tells (history : List Entry) (keyring : Keyring) : Prop where
  /-- The internal address is the first of all. -/
  head?_eq : history.head? = some (.owned internalName keyring.internalCard)
  accounts_eq : keyring.accounts = mentioned history
  account?_eq : ∀ name, keyring.account? name =
    if name = internalName ∨ name ∈ mentioned history then
      some ⟨name, owned (about name history), watched (about name history)⟩
    else none
  /-- The last owned address of an identifier comes before the first watched one. -/
  directory_eq : ∀ identifier, keyring.directory[identifier]? =
    (lastWith? identifier (owned history)).or (firstWith? identifier (watched history))
  proper : ∀ entry ∈ history, entry.Proper

namespace Tells

variable {history : List Entry} {keyring : Keyring}

/-- What an account holds, also if it does not exist yet. -/
theorem getD_account? (tells : Tells history keyring) (name : String) :
    (keyring.account? name).getD ⟨name, [], []⟩ =
      ⟨name, owned (about name history), watched (about name history)⟩ := by
  rw [tells.account?_eq]
  split
  next => rfl
  next unknown =>
    rw [not_or] at unknown
    rw [about_eq_nil unknown.1 unknown.2]
    rfl

/-- An account is known after an entry if it was known or the entry mentions it. -/
theorem known_concat_iff (history : List Entry) (entry : Entry) (name : String) :
    name = internalName ∨ name ∈ mentioned (history ++ [entry]) ↔
      name = entry.account ∨ name = internalName ∨ name ∈ mentioned history := by
  by_cases internal : name = internalName
  · simp [internal]
  · simp [internal, mem_mentioned_iff, or_comm, eq_comm]

/-- What a history tells goes on with every proper entry. -/
protected theorem enter (tells : Tells history keyring) {entry : Entry} (proper : entry.Proper) :
    Tells (history ++ [entry]) (keyring.enter entry) where
  head?_eq := by
    rw [enter_eq, List.head?_append, tells.head?_eq]
    rfl
  accounts_eq := by rw [accounts_enter, mentioned_concat, tells.accounts_eq]
  account?_eq := by
    intro name
    simp only [account?_enter, tells.getD_account?, known_concat_iff]
    by_cases same : name = entry.account
    · rw [if_pos same, if_pos (.inl same), same, about_concat_self, owned_concat, watched_concat]
      rfl
    · simp only [same, if_false, false_or, tells.account?_eq, about_concat_of_ne history entry same]
  directory_eq := by
    intro identifier
    rw [enter_eq]
    have before := tells.directory_eq identifier
    cases entry with
    | opened account => simpa [indexEntry, Entry.ownedCard?, Entry.watchedCard?] using before
    | owned account card =>
      have after := keyring.getElem?_index card identifier
      rw [before] at after
      simp only [owned_concat, watched_concat, Entry.ownedCard?, Entry.watchedCard?,
        Option.toList_none, Option.toList_some, List.append_nil, lastWith?_concat]
      refine after.trans ?_
      split <;> rfl
    | watched account card =>
      have after := keyring.getElem?_indexIfNew card identifier
      rw [before, Option.or_assoc, ← firstWith?_concat] at after
      simpa [indexEntry, Entry.ownedCard?, Entry.watchedCard?] using after
  proper := by
    intro other mem
    rcases List.mem_append.mp mem with earlier | latest
    · exact tells.proper other earlier
    · exact List.mem_singleton.mp latest ▸ proper

/-- The source of keys, the listeners and what they heard are not part of the history. -/
theorem congr (tells : Tells history keyring) (entropy : Entropy) (listeners : List KeyListener)
    (heard : List (String × GeneratedAddress)) :
    Tells history { keyring with entropy := entropy, listeners := listeners, heard := heard } :=
  ⟨tells.head?_eq, tells.accounts_eq, tells.account?_eq, tells.directory_eq, tells.proper⟩

end Tells

/-! ## The start -/

/-- Adding an owned address enters it and tells the listeners. -/
theorem addOwned_state (keyring : Keyring) (name : String) (card : AddressCard) :
    (keyring.addOwned name card).state =
      (keyring.enter (.owned name card)).tell ⟨name, card.address, card.privateKey⟩ := by
  rw [enter_owned]
  rfl

/-- A new address is that of the next key. -/
theorem generate_eq (keyring : Keyring) (name : String) :
    keyring.generate name = addOwned { keyring with entropy := keyring.entropy.drawKey.2 } name
      (.ofKey keyring.version keyring.entropy.drawKey.1) := rfl

/-- Making an address draws one key, and keeps the version. -/
theorem generate_source (keyring : Keyring) (name : String) :
    (keyring.generate name).state.entropy = keyring.entropy.drawKey.2 ∧
      (keyring.generate name).state.version = keyring.version := by
  rw [generate_eq, addOwned_state, enter_eq]
  exact ⟨rfl, rfl⟩

/-- Making several addresses draws as many keys, and keeps the version. -/
theorem generateMany_source (keyring : Keyring) (name : String) (count : Nat) :
    (keyring.generateMany name count).entropy = (keyring.entropy.drawKeys count).2 ∧
      (keyring.generateMany name count).version = keyring.version := by
  induction count generalizing keyring with
  | zero => exact ⟨rfl, rfl⟩
  | succ count ih =>
    have rest := ih (keyring.generate name).state
    rw [(keyring.generate_source name).1, (keyring.generate_source name).2] at rest
    exact rest

/-- A keyring without configured accounts leads to its internal address only. -/
theorem bare_eq (version : AddressVersion) (entropy : Entropy) :
    let card := AddressCard.ofKey version entropy.drawKey.1
    bare version entropy = index ⟨version, entropy.drawKey.2, card, ⟨internalName, [card], []⟩, [],
      ∅, [], []⟩ card := rfl

namespace Tells

variable {history : List Entry} {keyring : Keyring}

/-- A keyring without configured accounts has its internal address. -/
protected theorem bare (version : AddressVersion) (entropy : Entropy) :
    Tells [.owned internalName (.ofKey version entropy.drawKey.1)] (bare version entropy) := by
  have hasKey : (AddressCard.ofKey version entropy.drawKey.1).privateKey.isSome := rfl
  rw [bare_eq]
  generalize AddressCard.ofKey version entropy.drawKey.1 = card at hasKey
  constructor
  case head?_eq => rfl
  case accounts_eq => simp [mentioned, Entry.account, accounts, index]
  case account?_eq =>
    intro name
    by_cases internal : name = internalName
    · simp [internal, account?, index, about, Entry.account, owned, watched, Entry.ownedCard?,
        Entry.watchedCard?]
    · simp [internal, account?, index, mentioned, Entry.account]
  case directory_eq =>
    intro identifier
    rw [getElem?_index]
    simp [owned, watched, Entry.ownedCard?, Entry.watchedCard?, lastWith?, firstWith?]
  case proper => simpa [Entry.Proper] using hasKey

/-- An address with a key is added to its account. -/
protected theorem addOwned (tells : Tells history keyring) (name : String) {card : AddressCard}
    (hasKey : card.privateKey.isSome) :
    Tells (history ++ [.owned name card]) (keyring.addOwned name card).state := by
  have proper : (Entry.owned name card).Proper := hasKey
  rw [addOwned_state]
  exact (tells.enter proper).congr _ _ _

/-- A new address is an entry of its account. -/
protected theorem generate (tells : Tells history keyring) (name : String) :
    Tells (history ++ [.owned name (.ofKey keyring.version keyring.entropy.drawKey.1)])
      (keyring.generate name).state :=
  (tells.congr _ _ _).addOwned name rfl

/-- Several new addresses are entries of one account, in order. -/
protected theorem generateMany (tells : Tells history keyring) (name : String) (count : Nat) :
    Tells (history ++ (keyring.entropy.drawKeys count).1.map fun key =>
      .owned name (.ofKey keyring.version key)) (keyring.generateMany name count) := by
  induction count generalizing keyring history with
  | zero =>
    rw [Entropy.drawKeys, List.map_nil, List.append_nil]
    exact tells
  | succ count ih =>
    have rest := ih (tells.generate name)
    rw [(keyring.generate_source name).1, (keyring.generate_source name).2,
      List.append_assoc] at rest
    exact rest

/-- The configured accounts are entries, each with its addresses. -/
protected theorem fill (tells : Tells history keyring) (addressesEach : Nat) (names : List String) :
    Tells (history ++ filling keyring.version addressesEach names keyring.entropy)
      (keyring.fill addressesEach names) := by
  induction names generalizing keyring history with
  | nil =>
    rw [filling, List.append_nil]
    exact tells
  | cons name names ih =>
    have opened : Tells (history ++ [.opened name]) (keyring.enter (.opened name)) :=
      tells.enter trivial
    have source : (keyring.enter (.opened name)).entropy = keyring.entropy ∧
        (keyring.enter (.opened name)).version = keyring.version := by
      rw [enter_eq]
      exact ⟨rfl, rfl⟩
    have rest := ih (opened.generateMany name addressesEach)
    rw [(generateMany_source _ name addressesEach).1, (generateMany_source _ name addressesEach).2,
      source.1, source.2, enter_opened, List.append_assoc, List.append_assoc] at rest
    exact rest

/-- A keyring tells its opening at the start. -/
protected theorem start (config : KeyringConfig) (entropy : Entropy) :
    Tells (opening config entropy) (start config entropy).state :=
  (Tells.bare config.version entropy).fill config.addressesEach config.accounts

/-! ## Runs -/

/-- A call adds what it gained to the history. -/
protected theorem call (tells : Tells history keyring) (call : Call) :
    Tells (history ++ keyring.gained call) (keyring.call call) := by
  cases call with
  | listen listener =>
    rw [gained, List.append_nil]
    exact tells.congr _ _ _
  | generate name => exact tells.generate name
  | importKey name digits =>
    rw [gained, Keyring.call, importKey]
    cases SecretKey.ofHex digits with
    | error error => exact (List.append_nil history).symm ▸ tells
    | ok key => exact tells.addOwned name rfl
  | watch name card =>
    have watched : Tells (history ++ [.watched name card.watchOnly])
        (keyring.enter (.watched name card.watchOnly)) := tells.enter rfl
    rw [enter_watched] at watched
    exact watched

/-- A run of calls adds all that it gained. -/
protected theorem callAll (tells : Tells history keyring) (calls : List Call) :
    Tells (history ++ keyring.gainedIn calls) (keyring.callAll calls) := by
  induction calls generalizing keyring history with
  | nil =>
    rw [gainedIn, List.append_nil]
    exact tells
  | cons first rest ih =>
    rw [gainedIn, ← List.append_assoc]
    exact ih (tells.call first)

/-- After any run of calls a keyring tells its whole history. -/
protected theorem run (config : KeyringConfig) (entropy : Entropy) (calls : List Call) :
    Tells (historyOf config entropy calls) ((start config entropy).state.callAll calls) :=
  (Tells.start config entropy).callAll calls

end Tells

/-! ## The version -/

/-- An entry keeps the version. -/
theorem version_enter (keyring : Keyring) (entry : Entry) :
    (keyring.enter entry).version = keyring.version := by
  rw [enter_eq]

/-- An added address keeps the version. -/
theorem version_addOwned (keyring : Keyring) (name : String) (card : AddressCard) :
    (keyring.addOwned name card).state.version = keyring.version := by
  rw [addOwned_state]
  exact version_enter keyring _

/-- No call changes the version. -/
theorem version_call (keyring : Keyring) (call : Call) :
    (keyring.call call).version = keyring.version := by
  cases call with
  | listen listener => rfl
  | generate name => exact (keyring.generate_source name).2
  | importKey name digits =>
    rw [Keyring.call, importKey]
    cases SecretKey.ofHex digits with
    | error error => rfl
    | ok key => exact keyring.version_addOwned name _
  | watch name card =>
    have entered := keyring.version_enter (.watched name card.watchOnly)
    rw [enter_watched] at entered
    exact entered

/-- No run of calls changes the version. -/
theorem version_callAll (keyring : Keyring) (calls : List Call) :
    (keyring.callAll calls).version = keyring.version := by
  induction calls generalizing keyring with
  | nil => rfl
  | cons first rest ih => exact (ih (keyring.call first)).trans (keyring.version_call first)

/-- The accounts of the start keep the version. -/
theorem version_fill (keyring : Keyring) (addressesEach : Nat) (names : List String) :
    (keyring.fill addressesEach names).version = keyring.version := by
  induction names generalizing keyring with
  | nil => rfl
  | cons name names ih =>
    have opened := keyring.version_enter (.opened name)
    rw [enter_opened] at opened
    have filled := (generateMany_source _ name addressesEach).2.trans opened
    exact (ih _).trans filled

/-- A keyring has the version that it was configured with. -/
theorem version_start (config : KeyringConfig) (entropy : Entropy) :
    (start config entropy).state.version = config.version :=
  version_fill (bare config.version entropy) config.addressesEach config.accounts

/-! ## Imported keys -/

/-- What two runs of calls put into a keyring, one after the other. -/
theorem gainedIn_append (keyring : Keyring) (before after : List Call) :
    keyring.gainedIn (before ++ after) =
      keyring.gainedIn before ++ (keyring.callAll before).gainedIn after := by
  induction before generalizing keyring with
  | nil => rfl
  | cons first rest ih =>
    rw [List.cons_append, gainedIn, ih, gainedIn, List.append_assoc]
    rfl

/-- The exported form of a key puts the address of the key into the account. -/
theorem historyOf_importKey_hex (config : KeyringConfig) (entropy : Entropy) (calls : List Call)
    (name : String) (key : SecretKey) :
    historyOf config entropy (calls ++ [.importKey name key.hex]) =
      historyOf config entropy calls ++ [.owned name (.ofKey config.version key)] := by
  have version := (version_callAll (start config entropy).state calls).trans
    (version_start config entropy)
  rw [historyOf, historyOf, gainedIn_append, gainedIn, gainedIn, gained, importKey_hex, version,
    List.append_nil, List.append_assoc]
  rfl

end PocketLedger.Keyring
