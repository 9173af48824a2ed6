import PocketLedger.Keyring.Basic

/-!
# Desks

A desk is where a keyring is asked: at the keyring itself, or at a relay in front of another
desk. A relay passes every question on, and reports the addresses that are made after it was put
there. It goes on reporting when the desk behind it is used without it. Changes reach the keyring
behind all relays.
-/

namespace PocketLedger

/-- A keyring behind any number of relays. -/
inductive Desk where
  | direct (keyring : Keyring)
  | relay (inner : Desk)

namespace Desk

/-- The keyring behind the relays. -/
def source : Desk → Keyring
  | .direct keyring => keyring
  | .relay inner => inner.source

/-- The desk with its keyring changed. -/
def change (f : Keyring → Keyring) : Desk → Desk
  | .direct keyring => .direct (f keyring)
  | .relay inner => .relay (inner.change f)

/-- Make a change at the keyring that can fail. -/
def perform {α : Type} (desk : Desk) (action : Keyring → Step Keyring KeyringError α) :
    Step Desk KeyringError α :=
  (action desk.source).within (fun keyring => desk.change fun _ => keyring) fun error => error

/-- Add a listener. -/
def listen (listener : KeyListener) : Desk → Desk
  | .direct keyring => .direct (keyring.listen listener)
  | .relay inner => .relay (inner.listen listener)

/-- Put a relay in front of a desk. It subscribes to the addresses made from then on. -/
def front (desk : Desk) : Desk := .relay (desk.listen .reporter)

/-- The desk behind the foremost relay; its subscription stays. -/
def behind : Desk → Desk
  | .direct keyring => .direct keyring
  | .relay inner => inner

/-! ## Questions -/

/-- The name of the internal account. -/
def internalName : Desk → String
  | .direct _ => Keyring.internalName
  | .relay inner => inner.internalName

/-- The first address of the internal account. -/
def internalCard : Desk → AddressCard
  | .direct keyring => keyring.internalCard
  | .relay inner => inner.internalCard

/-- The names of the accounts, without the internal one. -/
def accounts : Desk → List String
  | .direct keyring => keyring.accounts
  | .relay inner => inner.accounts

/-- The addresses that an account owns. -/
def addressesOf (name : String) : Desk → Except KeyringError (List AddressCard)
  | .direct keyring => keyring.addressesOf name
  | .relay inner => inner.addressesOf name

/-- The addresses that an account watches. -/
def watchedOf (name : String) : Desk → Except KeyringError (List AddressCard)
  | .direct keyring => keyring.watchedOf name
  | .relay inner => inner.watchedOf name

/-- The address that an account receives at. -/
def receivingAddressOf (name : String) : Desk → Except KeyringError AddressCard
  | .direct keyring => keyring.receivingAddressOf name
  | .relay inner => inner.receivingAddressOf name

/-- The secret keys of an account. -/
def privateKeysOf (name : String) : Desk → Except KeyringError (List String)
  | .direct keyring => keyring.privateKeysOf name
  | .relay inner => inner.privateKeysOf name

/-- The address of an identifier. -/
def find (identifier : String) : Desk → Except KeyringError AddressCard
  | .direct keyring => keyring.find identifier
  | .relay inner => inner.find identifier

end Desk
end PocketLedger
