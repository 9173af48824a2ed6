import PocketLedger.Keyring.Desk
import PocketLedger.Proofs.KeyringHistory

/-!
# What passes through relays

A keyring can stand behind any number of relays, put there at any time, and be asked at any of
them. A run of requests at such desks comes to calls at the keyring itself, and every desk
answers as the keyring does. A listener hears once of each owned address that is added after it
was registered. The relays are listeners too: an address is reported once for each relay that
was made before it, whether or not the relay still stands.
-/

namespace PocketLedger

/-! ## Listeners -/

namespace KeyListener

/-- The tag of a subscriber. -/
def tag? : KeyListener → Option String
  | .reporter => none
  | .subscriber tag => some tag

/-- The tags of the subscribers among listeners, in order. -/
def tags (listeners : List KeyListener) : List String := listeners.filterMap tag?

@[simp]
theorem tags_nil : tags [] = [] := rfl

/-- A relay has no tag. -/
@[simp]
theorem tags_reporter (listeners : List KeyListener) :
    tags (.reporter :: listeners) = tags listeners := rfl

@[simp]
theorem tags_subscriber (tag : String) (listeners : List KeyListener) :
    tags (.subscriber tag :: listeners) = tag :: tags listeners := rfl

/-- Tags stand in the order of the listeners. -/
@[simp]
theorem tags_append (left right : List KeyListener) :
    tags (left ++ right) = tags left ++ tags right :=
  List.filterMap_append

end KeyListener

/-- What listeners hear of an attempt to add an owned address to an account. -/
def GeneratedAddress.heardOf (account : String) :
    Except KeyringError AddressCard → List GeneratedAddress
  | .ok card => [⟨account, card.address, card.privateKey⟩]
  | .error _ => []

namespace Keyring

open KeyListener (tags)
open GeneratedAddress (heardOf)

/-- What listeners hear of an entry, if it makes an address owned. -/
def Entry.generated? : Entry → Option GeneratedAddress
  | .owned account card => some ⟨account, card.address, card.privateKey⟩
  | .opened _ | .watched .. => none

/-- Every subscriber is told of a new address, in the order of their registration. -/
theorem heard_tell (keyring : Keyring) (generated : GeneratedAddress) :
    (keyring.tell generated).heard =
      keyring.heard ++ (tags keyring.listeners).map fun tag => (tag, generated) := by
  refine congrArg (keyring.heard ++ ·) ?_
  induction keyring.listeners with
  | nil => rfl
  | cons listener listeners ih => cases listener <;> simpa using ih

/-- Every reporter reports a new address. -/
theorem reports_eq (keyring : Keyring) (generated : GeneratedAddress) :
    keyring.reports generated = List.replicate (keyring.listeners.count .reporter)
      (.addressGenerated generated.account generated.address) := by
  unfold reports
  induction keyring.listeners with
  | nil => rfl
  | cons listener listeners ih => cases listener <;> simp [ih, List.replicate_succ]

/-- A step that may add an owned address to an account keeps the listeners, tells each subscriber
once of the address, and is reported once by each reporter. -/
structure Announces (keyring : Keyring) (account : String)
    (step : Step Keyring KeyringError AddressCard) : Prop where
  listeners : step.state.listeners = keyring.listeners
  heard : step.state.heard = keyring.heard ++ (heardOf account step.result).flatMap
    fun generated => (tags keyring.listeners).map fun tag => (tag, generated)
  notices : step.notices = (heardOf account step.result).flatMap fun generated =>
    List.replicate (keyring.listeners.count .reporter)
      (.addressGenerated generated.account generated.address)

/-- An entry leaves the listeners and what they heard. -/
theorem audience_enter (keyring : Keyring) (entry : Entry) :
    (keyring.enter entry).listeners = keyring.listeners ∧
      (keyring.enter entry).heard = keyring.heard := by
  rw [enter_eq]
  exact ⟨rfl, rfl⟩

/-- Nobody hears of a watched address. -/
theorem audience_watch (keyring : Keyring) (name : String) (card : AddressCard) :
    (keyring.watch name card).listeners = keyring.listeners ∧
      (keyring.watch name card).heard = keyring.heard := by
  have entered := keyring.audience_enter (.watched name card.watchOnly)
  rwa [enter_watched] at entered

/-- Adding an owned address announces it. -/
theorem announces_addOwned (keyring : Keyring) (account : String) (card : AddressCard) :
    Announces keyring account (keyring.addOwned account card) := by
  have entered := keyring.audience_enter (.owned account card)
  have added : (keyring.addOwned account card).result = .ok card := rfl
  constructor
  case listeners =>
    rw [addOwned_state]
    exact entered.1
  case heard =>
    rw [addOwned_state, heard_tell, entered.1, entered.2, added]
    simp [heardOf]
  case notices =>
    rw [added, ← entered.1, enter_owned]
    simp [addOwned, heardOf, reports_eq]

/-- A new address is announced. -/
theorem announces_generate (keyring : Keyring) (account : String) :
    Announces keyring account (keyring.generate account) := by
  have added := announces_addOwned { keyring with entropy := keyring.entropy.drawKey.2 } account
    (.ofKey keyring.version keyring.entropy.drawKey.1)
  exact ⟨added.listeners, added.heard, added.notices⟩

/-- An imported key announces its address, and a refused one announces nothing. -/
theorem announces_importKey (keyring : Keyring) (account digits : String) :
    Announces keyring account (keyring.importKey account digits) := by
  unfold importKey
  cases SecretKey.ofHex digits with
  | error error =>
    constructor <;> simp [Step.failed, heardOf]
  | ok key => exact keyring.announces_addOwned account _

/-- Nobody listens, and nobody has heard of anything. -/
structure Silent (keyring : Keyring) : Prop where
  listeners : keyring.listeners = []
  heard : keyring.heard = []

namespace Silent

variable {keyring : Keyring}

/-- Addresses that are made where nobody listens are not heard of. -/
protected theorem generateMany (silent : keyring.Silent) (name : String) (count : Nat) :
    (keyring.generateMany name count).Silent := by
  induction count generalizing keyring with
  | zero => exact silent
  | succ count ih =>
    have announces := keyring.announces_generate name
    refine ih ⟨announces.listeners.trans silent.listeners, ?_⟩
    rw [announces.heard, silent.heard, silent.listeners]
    simp

/-- The configured accounts are filled where nobody listens. -/
protected theorem fill (silent : keyring.Silent) (addressesEach : Nat) (names : List String) :
    (keyring.fill addressesEach names).Silent := by
  induction names generalizing keyring with
  | nil => exact silent
  | cons name names ih =>
    have audience := keyring.audience_enter (.opened name)
    rw [enter_opened] at audience
    have opened : (keyring.changeAccount name fun account => account).Silent :=
      ⟨audience.1.trans silent.listeners, audience.2.trans silent.heard⟩
    exact ih (opened.generateMany name addressesEach)

/-- Nobody hears of the addresses that a keyring starts with. -/
protected theorem start (config : KeyringConfig) (entropy : Entropy) :
    (start config entropy).state.Silent := by
  have bare : (bare config.version entropy).Silent := ⟨rfl, rfl⟩
  exact bare.fill config.addressesEach config.accounts

end Silent

end Keyring

namespace Desk

open GeneratedAddress (heardOf)
open KeyListener (tags)

/-! ## Relays -/

/-- The desk and all desks behind it, the keyring last. -/
def layers : Desk → List Desk
  | .direct keyring => [.direct keyring]
  | .relay inner => .relay inner :: inner.layers

/-- The number of relays in front of the keyring. -/
def relays : Desk → Nat
  | .direct _ => 0
  | .relay inner => inner.relays + 1

/-- The desk answers every question as the keyring does. -/
structure AnswersAs (desk : Desk) (keyring : Keyring) : Prop where
  internalName : desk.internalName = Keyring.internalName
  internalCard : desk.internalCard = keyring.internalCard
  accounts : desk.accounts = keyring.accounts
  addressesOf : ∀ name, desk.addressesOf name = keyring.addressesOf name
  watchedOf : ∀ name, desk.watchedOf name = keyring.watchedOf name
  receivingAddressOf : ∀ name, desk.receivingAddressOf name = keyring.receivingAddressOf name
  privateKeysOf : ∀ name, desk.privateKeysOf name = keyring.privateKeysOf name
  find : ∀ identifier, desk.find identifier = keyring.find identifier

/-- A desk answers as the keyring behind it, since each relay passes the question on. -/
theorem answersAs_source (desk : Desk) : desk.AnswersAs desk.source := by
  induction desk with
  | direct keyring =>
    exact ⟨rfl, rfl, rfl, fun _ => rfl, fun _ => rfl, fun _ => rfl, fun _ => rfl, fun _ => rfl⟩
  | relay inner ih =>
    exact ⟨ih.internalName, ih.internalCard, ih.accounts, ih.addressesOf, ih.watchedOf,
      ih.receivingAddressOf, ih.privateKeysOf, ih.find⟩

/-- All layers have one keyring behind them. -/
theorem source_of_mem_layers {desk layer : Desk} (mem : layer ∈ desk.layers) :
    layer.source = desk.source := by
  induction desk with
  | direct keyring =>
    obtain rfl := List.mem_singleton.mp mem
    rfl
  | relay inner ih =>
    rcases List.mem_cons.mp mem with rfl | behind
    · rfl
    · exact ih behind

/-- A change reaches the keyring behind the relays. -/
@[simp]
theorem source_change (f : Keyring → Keyring) (desk : Desk) :
    (desk.change f).source = f desk.source := by
  induction desk with
  | direct keyring => rfl
  | relay inner ih => exact ih

/-- A change at the keyring leaves the relays. -/
@[simp]
theorem relays_change (f : Keyring → Keyring) (desk : Desk) :
    (desk.change f).relays = desk.relays := by
  induction desk with
  | direct keyring => rfl
  | relay inner ih => exact congrArg (· + 1) ih

/-- Relays pass a listener on to the keyring. -/
theorem listen_eq_change (listener : KeyListener) (desk : Desk) :
    desk.listen listener = desk.change fun keyring => keyring.listen listener := by
  induction desk with
  | direct keyring => rfl
  | relay inner ih => exact congrArg Desk.relay ih

/-! ## Requests -/

/-- A request at a desk, which stands behind a number of relays. -/
inductive Request where
  /-- Put a relay in front of all others. -/
  | front
  /-- Take the foremost relay off. -/
  | leave
  | listen (depth : Nat) (tag : String)
  | generate (depth : Nat) (name : String)
  | importKey (depth : Nat) (name digits : String)
  | watch (depth : Nat) (name : String) (card : AddressCard)
  deriving DecidableEq

/-- Act at the desk behind a number of relays, or at the keyring if there are not as many. -/
def actBehind {α : Type} (act : Desk → Step Desk KeyringError α) :
    (depth : Nat) → Desk → Step Desk KeyringError α
  | depth + 1, .relay inner => (actBehind act depth inner).within .relay id
  | _, desk => act desk

/-- A step that answers with an address, among steps that need not. -/
def answering {σ : Type} (step : Step σ KeyringError AddressCard) :
    Step σ KeyringError (Option AddressCard) :=
  ⟨step.state, step.notices, step.result.map some⟩

/-- What a request does. -/
def request (desk : Desk) : Request → Step Desk KeyringError (Option AddressCard)
  | .front => .done desk.front none
  | .leave => .done desk.behind none
  | .listen depth tag =>
    desk.actBehind (fun desk => .done (desk.listen (.subscriber tag)) none) depth
  | .generate depth name =>
    desk.actBehind (fun desk => answering (desk.perform fun keyring => keyring.generate name)) depth
  | .importKey depth name digits =>
    desk.actBehind
      (fun desk => answering (desk.perform fun keyring => keyring.importKey name digits)) depth
  | .watch depth name card =>
    desk.actBehind (fun desk => .done (desk.change fun keyring => keyring.watch name card) none)
      depth

/-- The desk after requests in order. -/
def requestAll (desk : Desk) (requests : List Request) : Desk :=
  requests.foldl (fun desk request => (desk.request request).state) desk

/-- It makes no difference behind how many relays something is done that relays pass on. -/
theorem actBehind_eq {α : Type} {act : Desk → Step Desk KeyringError α}
    (passedOn : ∀ inner, (act inner).within .relay id = act (.relay inner)) (depth : Nat)
    (desk : Desk) : desk.actBehind act depth = act desk := by
  induction depth generalizing desk with
  | zero => rfl
  | succ depth ih =>
    cases desk with
    | direct keyring => rfl
    | relay inner => rw [actBehind, ih, passedOn]

section Perform

variable (desk : Desk) (action : Keyring → Step Keyring KeyringError AddressCard)

/-- What is done at a desk is done at its keyring. -/
@[simp]
theorem source_perform : (desk.perform action).state.source = (action desk.source).state :=
  source_change _ desk

/-- What is done at the keyring leaves the relays. -/
@[simp]
theorem relays_perform : (desk.perform action).state.relays = desk.relays :=
  relays_change _ desk

/-- A desk reports what its keyring reports. -/
@[simp]
theorem notices_perform : (desk.perform action).notices = (action desk.source).notices := rfl

/-- A desk answers what its keyring answers. -/
@[simp]
theorem result_perform : (desk.perform action).result = (action desk.source).result := by
  simp only [perform, Step.within]
  cases (action desk.source).result <;> rfl

/-- Relays pass on what is done at the keyring. -/
theorem perform_passedOn (inner : Desk) :
    (answering (inner.perform action)).within .relay id =
      answering ((Desk.relay inner).perform action) := by
  simp only [answering, perform, Step.within, source, change]
  cases (action inner.source).result <;> rfl

end Perform

section Request

variable (desk : Desk) (depth : Nat)

/-- Listening behind any number of relays is listening at the keyring. -/
@[simp]
theorem request_listen (tag : String) : desk.request (.listen depth tag) =
    .done (desk.change fun keyring => keyring.listen (.subscriber tag)) none := by
  rw [request, actBehind_eq fun _ => rfl, listen_eq_change]

/-- An address is made at the keyring, behind however many relays it is asked for. -/
@[simp]
theorem request_generate (name : String) : desk.request (.generate depth name) =
    answering (desk.perform fun keyring => keyring.generate name) := by
  rw [request, actBehind_eq (perform_passedOn _)]

/-- A key is imported at the keyring, behind however many relays it is asked for. -/
@[simp]
theorem request_importKey (name digits : String) : desk.request (.importKey depth name digits) =
    answering (desk.perform fun keyring => keyring.importKey name digits) := by
  rw [request, actBehind_eq (perform_passedOn _)]

/-- An address is watched at the keyring, behind however many relays it is asked for. -/
@[simp]
theorem request_watch (name : String) (card : AddressCard) :
    desk.request (.watch depth name card) =
      .done (desk.change fun keyring => keyring.watch name card) none := by
  rw [request, actBehind_eq fun _ => rfl]

end Request

/-- A new relay subscribes at the keyring. -/
@[simp]
theorem source_front (desk : Desk) : desk.front.source = desk.source.listen .reporter := by
  rw [front, listen_eq_change]
  exact source_change _ desk

/-- A new relay is one more. -/
@[simp]
theorem relays_front (desk : Desk) : desk.front.relays = desk.relays + 1 := by
  rw [front, listen_eq_change, relays, relays_change]

/-- Leaving a relay leaves the keyring as it is, with the subscription of the relay. -/
@[simp]
theorem source_behind (desk : Desk) : desk.behind.source = desk.source := by
  cases desk <;> rfl

/-! ## What a request does -/

namespace Request

/-- The account that a request is to add an owned address to. -/
def account? : Request → Option String
  | .generate _ name | .importKey _ name _ => some name
  | .front | .leave | .listen .. | .watch .. => none

/-- The calls at the keyring that a request comes to. -/
def calls : Request → List Keyring.Call
  | .front => [.listen .reporter]
  | .leave => []
  | .listen _ tag => [.listen (.subscriber tag)]
  | .generate _ name => [.generate name]
  | .importKey _ name digits => [.importKey name digits]
  | .watch _ name card => [.watch name card]

/-- The listeners that a request registers. -/
def listeners : Request → List KeyListener
  | .front => [.reporter]
  | .listen _ tag => [.subscriber tag]
  | .leave | .generate .. | .importKey .. | .watch .. => []

end Request

/-- The owned address that a request adds to its account, as its answer tells. -/
def added (desk : Desk) (request : Request) : List GeneratedAddress :=
  match request.account?, (desk.request request).result with
  | some account, .ok (some card) => [⟨account, card.address, card.privateKey⟩]
  | _, _ => []

/-- A request for no account adds no owned address. -/
theorem added_of_no_account (desk : Desk) {request : Request}
    (noAccount : request.account? = none) : desk.added request = [] := by
  rw [added, noAccount]

/-- A request for an account adds the address that it answers with. -/
theorem added_of_account {desk : Desk} {request : Request} {account : String}
    {action : Keyring → Step Keyring KeyringError AddressCard}
    (forAccount : request.account? = some account)
    (asked : desk.request request = answering (desk.perform action)) :
    desk.added request = heardOf account (action desk.source).result := by
  rw [added, forAccount, asked]
  simp only [answering, result_perform]
  cases (action desk.source).result <;> rfl

/-- A request comes to its calls at the keyring, adds its listeners, and lets the listeners that
were there before hear of the address that it adds. -/
structure Effect (desk : Desk) (request : Request) : Prop where
  source : (desk.request request).state.source = desk.source.callAll request.calls
  gained : desk.added request =
    (desk.source.gainedIn request.calls).filterMap Keyring.Entry.generated?
  listeners : (desk.request request).state.source.listeners =
    desk.source.listeners ++ request.listeners
  heard : (desk.request request).state.source.heard =
    desk.source.heard ++ (desk.added request).flatMap fun generated =>
      (tags desk.source.listeners).map fun tag => (tag, generated)
  notices : (desk.request request).notices = (desk.added request).flatMap fun generated =>
    List.replicate (desk.source.listeners.count .reporter)
      (.addressGenerated generated.account generated.address)

/-- The effect of a request that adds an owned address or fails to. -/
theorem Effect.of_announces {desk : Desk} {request : Request} {account : String}
    {action : Keyring → Step Keyring KeyringError AddressCard}
    (forAccount : request.account? = some account)
    (asked : desk.request request = answering (desk.perform action))
    (announces : desk.source.Announces account (action desk.source))
    (source : (action desk.source).state = desk.source.callAll request.calls)
    (gained : heardOf account (action desk.source).result =
      (desk.source.gainedIn request.calls).filterMap Keyring.Entry.generated?)
    (listeners : request.listeners = []) : desk.Effect request := by
  have added := added_of_account forAccount asked
  constructor
  case source => simpa [asked, answering] using source
  case gained => exact added.trans gained
  case listeners => simpa [asked, answering, listeners] using announces.listeners
  case heard => simpa [asked, answering, added] using announces.heard
  case notices => simpa [asked, answering, added] using announces.notices

/-- Every request has its effect, of which the relays in front make no part. -/
theorem effect (desk : Desk) (request : Request) : desk.Effect request := by
  cases request with
  | front =>
    have nothing : desk.added .front = [] := desk.added_of_no_account rfl
    constructor <;> simp [nothing, Desk.request, Step.done, Request.calls, Request.listeners,
      Keyring.callAll, Keyring.call, Keyring.gainedIn, Keyring.gained, Keyring.listen]
  | leave =>
    have nothing : desk.added .leave = [] := desk.added_of_no_account rfl
    constructor <;> simp [nothing, Desk.request, Step.done, Request.calls, Request.listeners,
      Keyring.callAll, Keyring.gainedIn]
  | listen depth tag =>
    have nothing : desk.added (.listen depth tag) = [] := desk.added_of_no_account rfl
    constructor <;> simp [nothing, Step.done, Request.calls, Request.listeners,
      Keyring.callAll, Keyring.call, Keyring.gainedIn, Keyring.gained, Keyring.listen]
  | generate depth name =>
    exact .of_announces rfl (desk.request_generate depth name) (desk.source.announces_generate name)
      rfl rfl rfl
  | importKey depth name digits =>
    refine .of_announces rfl (desk.request_importKey depth name digits)
      (desk.source.announces_importKey name digits) rfl ?_ rfl
    -- A refused key is no entry, and nothing is heard of it.
    simp only [Request.calls, Keyring.gainedIn, Keyring.gained, List.append_nil]
    cases (desk.source.importKey name digits).result <;> rfl
  | watch depth name card =>
    have nothing : desk.added (.watch depth name card) = [] := desk.added_of_no_account rfl
    have audience := desk.source.audience_watch name card
    constructor <;> simp [nothing, audience, Step.done, Request.calls, Request.listeners,
      Keyring.callAll, Keyring.call, Keyring.gainedIn, Keyring.gained, Keyring.Entry.generated?]

/-! ## Runs -/

/-- The owned addresses that requests add, in order. -/
def addedIn (desk : Desk) : List Request → List GeneratedAddress
  | [] => []
  | first :: rest => desk.added first ++ (desk.request first).state.addedIn rest

/-- What requests give to hear, with subscribers of these tags there before: each address that is
added goes to every subscriber that is there by then. -/
def told (present : List String) (desk : Desk) : List Request → List (String × GeneratedAddress)
  | [] => []
  | first :: rest =>
    ((desk.added first).flatMap fun generated => present.map fun tag => (tag, generated)) ++
      told (present ++ tags first.listeners) (desk.request first).state rest

/-- What the subscribers of a tag have heard. -/
def heardBy (desk : Desk) (tag : String) : List GeneratedAddress :=
  (desk.source.heard.filter fun entry => entry.1 = tag).map Prod.snd

theorem requestAll_cons (desk : Desk) (first : Request) (rest : List Request) :
    desk.requestAll (first :: rest) = (desk.request first).state.requestAll rest := rfl

/-- Runs of requests go on from where the ones before them ended. -/
theorem requestAll_append (desk : Desk) (before after : List Request) :
    desk.requestAll (before ++ after) = (desk.requestAll before).requestAll after :=
  List.foldl_append

/-- A run of requests comes to calls at the keyring. -/
theorem source_requestAll (desk : Desk) (requests : List Request) :
    (desk.requestAll requests).source = desk.source.callAll (requests.flatMap Request.calls) := by
  induction requests generalizing desk with
  | nil => rfl
  | cons first rest ih =>
    rw [requestAll_cons, ih, (desk.effect first).source, List.flatMap_cons, Keyring.callAll,
      Keyring.callAll, Keyring.callAll, List.foldl_append]

/-- What requests add is what the keyring gains of owned addresses. -/
theorem addedIn_eq (desk : Desk) (requests : List Request) :
    desk.addedIn requests = (desk.source.gainedIn (requests.flatMap Request.calls)).filterMap
      Keyring.Entry.generated? := by
  induction requests generalizing desk with
  | nil => rfl
  | cons first rest ih =>
    rw [addedIn, ih, (desk.effect first).gained, (desk.effect first).source, List.flatMap_cons,
      Keyring.gainedIn_append, List.filterMap_append]

/-- A run adds its listeners to those before it, in order. -/
theorem listeners_requestAll (desk : Desk) (requests : List Request) :
    (desk.requestAll requests).source.listeners =
      desk.source.listeners ++ requests.flatMap Request.listeners := by
  induction requests generalizing desk with
  | nil => simp [requestAll]
  | cons first rest ih => simp [requestAll_cons, ih, (desk.effect first).listeners]

/-- A run adds what it gives to hear to what was heard before. -/
theorem heard_requestAll (desk : Desk) (requests : List Request) :
    (desk.requestAll requests).source.heard =
      desk.source.heard ++ desk.told (tags desk.source.listeners) requests := by
  induction requests generalizing desk with
  | nil => simp [requestAll, told]
  | cons first rest ih =>
    simp [requestAll_cons, told, ih, (desk.effect first).listeners, (desk.effect first).heard]

/-- The subscribers of a tag hear of an address once each. -/
theorem heardBy_request (desk : Desk) (tag : String) (request : Request) :
    (desk.request request).state.heardBy tag = desk.heardBy tag ++
      (desk.added request).flatMap (List.replicate ((tags desk.source.listeners).count tag)) := by
  have each : ∀ (present : List String) (generated : GeneratedAddress),
      ((present.map fun other => (other, generated)).filter fun entry => entry.1 = tag).map
        Prod.snd = List.replicate (present.count tag) generated := by
    intro present generated
    simp [List.filter_map, Function.comp_def, List.count_eq_length_filter, List.map_const',
      beq_eq_decide]
  rw [heardBy, (desk.effect request).heard, List.filter_append, List.map_append,
    List.filter_flatMap, List.map_flatMap]
  simp only [each]
  rfl

/-- Other requests leave the subscribers of a tag. -/
theorem count_tags_request (desk : Desk) {tag : String} {request : Request}
    (other : ∀ depth, request ≠ .listen depth tag) :
    (tags (desk.request request).state.source.listeners).count tag =
      (tags desk.source.listeners).count tag := by
  have notNew : tag ∉ tags request.listeners := by
    cases request with
    | listen depth tag' =>
      have differ : tag ≠ tag' := fun same => other depth (same ▸ rfl)
      simpa [Request.listeners] using differ
    | front | leave | generate | importKey | watch => simp [Request.listeners]
  rw [(desk.effect request).listeners, KeyListener.tags_append, List.count_append,
    List.count_eq_zero_of_not_mem notNew, Nat.add_zero]

/-- A run in which nobody subscribes under a tag leaves the subscribers of the tag. -/
theorem count_tags_requestAll (desk : Desk) {tag : String} {requests : List Request}
    (others : ∀ request ∈ requests, ∀ depth, request ≠ .listen depth tag) :
    (tags (desk.requestAll requests).source.listeners).count tag =
      (tags desk.source.listeners).count tag := by
  induction requests generalizing desk with
  | nil => rfl
  | cons first rest ih =>
    obtain ⟨now, later⟩ := List.forall_mem_cons.mp others
    rw [requestAll_cons, ih _ later, count_tags_request desk now]

/-- While nobody subscribes under a tag, its subscribers hear of all that is added. -/
theorem heardBy_requestAll (desk : Desk) {tag : String} {requests : List Request}
    (others : ∀ request ∈ requests, ∀ depth, request ≠ .listen depth tag) :
    (desk.requestAll requests).heardBy tag = desk.heardBy tag ++
      (desk.addedIn requests).flatMap
        (List.replicate ((tags desk.source.listeners).count tag)) := by
  induction requests generalizing desk with
  | nil => simp [requestAll, addedIn]
  | cons first rest ih =>
    obtain ⟨now, later⟩ := List.forall_mem_cons.mp others
    rw [requestAll_cons, ih _ later, heardBy_request, count_tags_request desk now, addedIn,
      List.flatMap_append, List.append_assoc]

/-- A subscriber that is alone with its tag hears once of all that is added after it. -/
theorem heardBy_of_listen {desk : Desk} (silent : desk.source.Silent) {before after : List Request}
    (depth : Nat) {tag : String}
    (alone : ∀ request ∈ before ++ after, ∀ other, request ≠ .listen other tag) :
    (desk.requestAll (before ++ .listen depth tag :: after)).heardBy tag =
      (desk.requestAll (before ++ [.listen depth tag])).addedIn after := by
  obtain ⟨aloneBefore, aloneAfter⟩ := List.forall_mem_append.mp alone
  -- Up to its registration nobody has its tag, so nobody heard anything under it.
  have nobody : (tags (desk.requestAll before).source.listeners).count tag = 0 := by
    rw [count_tags_requestAll desk aloneBefore, silent.listeners]
    rfl
  have unheard : (desk.requestAll before).heardBy tag = [] := by
    rw [heardBy_requestAll desk aloneBefore, silent.listeners, heardBy, silent.heard]
    simp
  have nothing : (desk.requestAll before).added (.listen depth tag) = [] :=
    added_of_no_account _ rfl
  have one : List.count tag
      (tags ((desk.requestAll before).request (.listen depth tag)).state.source.listeners) = 1 := by
    rw [(effect _ _).listeners, KeyListener.tags_append, List.count_append, nobody]
    simp [Request.listeners]
  rw [requestAll_append, requestAll_append, requestAll_cons, heardBy_requestAll _ aloneAfter,
    heardBy_request, unheard, nothing, one]
  exact List.flatMap_singleton' _

/-! ## The number of relays -/

/-- Every relay that was put in front reports. -/
theorem count_reporter (requests : List Request) :
    (requests.flatMap Request.listeners).count .reporter = requests.count .front := by
  induction requests with
  | nil => rfl
  | cons first rest ih => cases first <;> simp [Request.listeners, ih]

/-- If none is taken off, the relays that were put in front stand. -/
theorem relays_requestAll (desk : Desk) {requests : List Request} (kept : .leave ∉ requests) :
    (desk.requestAll requests).relays = desk.relays + requests.count .front := by
  induction requests generalizing desk with
  | nil => rfl
  | cons first rest ih =>
    rw [requestAll_cons, ih _ fun mem => kept (List.mem_cons_of_mem _ mem), List.count_cons]
    cases first with
    | leave => exact absurd List.mem_cons_self kept
    | front => simp [request, Step.done, Nat.add_assoc, Nat.add_comm]
    | listen depth tag => simp [Step.done]
    | generate depth name => simp [answering]
    | importKey depth name digits => simp [answering]
    | watch depth name card => simp [Step.done]

/-! ## Main statement -/

/-- Relays put in front of a keyring at any time pass everything on: requests at any desks come to
calls at the keyring, and all desks answer as it does. Whoever subscribes hears once of each owned
address that is added from then on, in order, and of nothing else. Each of these addresses is
reported once for each relay that was made before, and nobody hears of the addresses of the
start. -/
theorem relays_pass_on_and_report (config : KeyringConfig) (entropy : Entropy)
    (requests : List Request) :
    let start := Keyring.start config entropy
    let desk := (direct start.state).requestAll requests
    (desk.source = start.state.callAll (requests.flatMap Request.calls) ∧
      (direct start.state).addedIn requests =
        (start.state.gainedIn (requests.flatMap Request.calls)).filterMap
          Keyring.Entry.generated?) ∧
    (∀ layer ∈ desk.layers, layer.AnswersAs desk.source) ∧
    desk.source.heard = (direct start.state).told [] requests ∧
    (∀ before after depth tag, requests = before ++ .listen depth tag :: after →
      (∀ request ∈ before ++ after, ∀ other, request ≠ .listen other tag) →
      desk.heardBy tag =
        ((direct start.state).requestAll (before ++ [.listen depth tag])).addedIn after) ∧
    (∀ next, (desk.request next).notices = (desk.added next).flatMap fun generated =>
      List.replicate (requests.count .front)
        (.addressGenerated generated.account generated.address)) ∧
    (.leave ∉ requests → desk.relays = requests.count .front) ∧
    (∀ account address, .addressGenerated account address ∉ start.notices) := by
  intro start desk
  have silent : (direct start.state).source.Silent := .start config entropy
  refine ⟨⟨source_requestAll _ requests, addedIn_eq _ requests⟩, ?_, ?_, ?_, ?_, ?_, ?_⟩
  · intro layer mem
    rw [← source_of_mem_layers mem]
    exact layer.answersAs_source
  · have heard := (direct start.state).heard_requestAll requests
    rw [silent.heard, silent.listeners] at heard
    exact heard
  · rintro before after depth tag rfl alone
    exact heardBy_of_listen silent depth alone
  · intro next
    rw [(desk.effect next).notices, listeners_requestAll, silent.listeners, List.nil_append,
      count_reporter]
  · intro kept
    rw [relays_requestAll _ kept, relays, Nat.zero_add]
  · intro account address mem
    cases List.mem_singleton.mp mem

/-- A subscriber behind a relay hears of an imported and of a new address, but neither of the
address before it nor of a refused key or a watched address, and two relays report the last
address. -/
theorem relays_pass_on_and_report_behind_two :
    let entropy := Entropy.start ([1, 2, 3, 4].map (Radix.toBytes 32))
    let start := (Keyring.start ⟨Address.testNetwork, [], 0⟩ entropy).state
    let second := entropy.drawKey.2.drawKey
    let third := second.2.drawKey
    let key : SecretKey := ⟨5, by decide, by decide⟩
    let imported := AddressCard.ofKey Address.testNetwork key
    let card := AddressCard.ofKey Address.testNetwork third.1
    let last := AddressCard.ofKey Address.testNetwork third.2.drawKey.1
    let requests : List Request := [.front, .generate 0 "A", .listen 1 "T",
      .importKey 1 "C" key.hex, .importKey 0 "A" "0g", .watch 1 "W" last, .front, .generate 1 "B"]
    let desk := (direct start).requestAll requests
    desk.heardBy "T" = [⟨"C", imported.address, imported.privateKey⟩,
        ⟨"B", card.address, card.privateKey⟩] ∧ desk.relays = 2 ∧
      (desk.request (.generate 2 "A")).notices =
        [.addressGenerated "A" last.address, .addressGenerated "A" last.address] := by
  intro entropy start second third key imported card last requests desk
  obtain ⟨_, _, _, heard, reported, standing, _⟩ :=
    relays_pass_on_and_report ⟨Address.testNetwork, [], 0⟩ entropy requests
  let before : List Request := [.front, .generate 0 "A"]
  let after : List Request := [.importKey 1 "C" key.hex, .importKey 0 "A" "0g", .watch 1 "W" last,
    .front, .generate 1 "B"]
  let listening := (direct start).requestAll (before ++ [.listen 1 "T"])
  have alone : ∀ request ∈ before ++ after, ∀ other, request ≠ .listen other "T" := by
    simp [before, after]
  -- Nothing below evaluates the digits of the key: they stand for it by `importKey_hex`.
  have imports : listening.source.importKey "C" key.hex =
      listening.source.addOwned "C" imported := listening.source.importKey_hex "C" key
  have called : listening.source.call (.importKey "C" key.hex) =
      (listening.source.addOwned "C" imported).state := congrArg Step.state imports
  have addedAfter : listening.addedIn after = [⟨"C", imported.address, imported.privateKey⟩,
      ⟨"B", card.address, card.privateKey⟩] := by
    rw [addedIn_eq]
    simp only [after, Request.calls, List.flatMap_cons, List.cons_append, List.nil_append]
    rw [Keyring.gainedIn, Keyring.gained, imports, called]
    rfl
  have goesOn : desk = listening.requestAll after :=
    requestAll_append (direct start) (before ++ [.listen 1 "T"]) after
  have source : desk.source = (listening.source.addOwned "C" imported).state.callAll
      [.importKey "A" "0g", .watch "W" last, .listen .reporter, .generate "B"] := by
    rw [goesOn, source_requestAll]
    simp only [after, Request.calls, List.flatMap_cons, List.flatMap_nil, List.cons_append,
      List.nil_append]
    rw [Keyring.callAll, List.foldl_cons, called, ← Keyring.callAll]
  have addedLast : desk.added (.generate 2 "A") = [⟨"A", last.address, last.privateKey⟩] := by
    rw [added_of_account rfl (desk.request_generate 2 "A"), source]
    rfl
  have fronts : requests.count .front = 2 := rfl
  have kept : .leave ∉ requests := by simp [requests]
  refine ⟨(heard before after 1 "T" rfl alone).trans addedAfter, (standing kept).trans fronts, ?_⟩
  rw [reported, addedLast, fronts]
  rfl

end Desk
end PocketLedger
