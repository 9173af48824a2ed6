import PocketLedger.Bytes.Hex

/-!
# Words and padded blocks

The two hash functions work on blocks of sixteen 32-bit words. A message is closed by a one
bit, filled with zero bits and ended by its length in bits, so that it fills whole blocks.
They differ in the order of bytes inside a word.
-/

namespace PocketLedger.Hashing

/-- The order of the bytes of a word. -/
inductive ByteOrder where
  | bigEndian
  | littleEndian

/-- The word made of four bytes. -/
def ByteOrder.word (order : ByteOrder) (b₀ b₁ b₂ b₃ : UInt8) : UInt32 :=
  match order with
  | .bigEndian =>
    (b₀.toUInt32 <<< 24) ||| (b₁.toUInt32 <<< 16) ||| (b₂.toUInt32 <<< 8) ||| b₃.toUInt32
  | .littleEndian =>
    (b₃.toUInt32 <<< 24) ||| (b₂.toUInt32 <<< 16) ||| (b₁.toUInt32 <<< 8) ||| b₀.toUInt32

/-- The four bytes of a word. -/
def ByteOrder.bytes (order : ByteOrder) (word : UInt32) : Bytes :=
  let b₀ := (word >>> 24).toUInt8
  let b₁ := (word >>> 16).toUInt8
  let b₂ := (word >>> 8).toUInt8
  let b₃ := word.toUInt8
  match order with
  | .bigEndian => [b₀, b₁, b₂, b₃]
  | .littleEndian => [b₃, b₂, b₁, b₀]

@[simp]
theorem ByteOrder.length_bytes (order : ByteOrder) (word : UInt32) :
    (order.bytes word).length = 4 := by
  cases order <;> rfl

/-- A rotation to the left, by an amount below 32. -/
def rotateLeft (word amount : UInt32) : UInt32 :=
  (word <<< amount) ||| (word >>> (32 - amount))

/-- A rotation to the right, by an amount below 32. -/
def rotateRight (word amount : UInt32) : UInt32 :=
  (word >>> amount) ||| (word <<< (32 - amount))

/-- The length of a message in bits, as the eight bytes that end its last block. -/
def lengthField (order : ByteOrder) (bits : Nat) : Bytes :=
  let high := order.bytes (bits >>> 32).toUInt32
  let low := order.bytes bits.toUInt32
  match order with
  | .bigEndian => high ++ low
  | .littleEndian => low ++ high

/-- A message with its closing bit, fill and length. -/
def padded (order : ByteOrder) (message : Bytes) : Bytes :=
  let fill := (119 - message.length % 64) % 64
  message ++ (0x80 :: (List.replicate fill 0 ++ lengthField order (8 * message.length)))

/-- The words of a byte string; bytes after the last whole word are dropped. -/
def words (order : ByteOrder) : Bytes → List UInt32
  | b₀ :: b₁ :: b₂ :: b₃ :: rest => order.word b₀ b₁ b₂ b₃ :: words order rest
  | _ => []

/-- The sixteen-word blocks of a padded message. -/
def blocks (order : ByteOrder) (message : Bytes) : List (Array UInt32) :=
  let all := (words order (padded order message)).toArray
  (List.range (all.size / 16)).map fun index => all.extract (16 * index) (16 * index + 16)

end PocketLedger.Hashing
