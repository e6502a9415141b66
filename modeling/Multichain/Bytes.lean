/-!
Byte strings: as texts, as numbers, and as words and blocks of a message. Main statement:
`text?_ofText`, the bytes of a text read back as that text.
-/

set_option autoImplicit false

namespace Multichain

abbrev Bytes := List UInt8

namespace Bytes

def ofText (text : String) : Bytes :=
  text.toByteArray.data.toList

def text? (bytes : Bytes) : Option String :=
  String.fromUTF8? ⟨bytes.toArray⟩

@[simp]
theorem text?_ofText (text : String) : text? (ofText text) = some text := by
  have valid : (⟨text.toByteArray.data.toList.toArray⟩ : ByteArray) = text.toByteArray := by
    simp
  simp only [text?, ofText, valid, String.fromUTF8?, text.isValidUTF8, dite_true]
  rfl

def toNat (bytes : Bytes) : Nat :=
  bytes.foldl (fun total byte => total * 256 + byte.toNat) 0

def ofNat : Nat → Nat → Bytes
  | 0, _ => []
  | count + 1, number => ofNat count (number / 256) ++ [UInt8.ofNat number]

end Bytes

end Multichain

namespace Multichain.Hash

open Multichain

def blocks (size : Nat) : Nat → Bytes → List Bytes
  | 0, _ => []
  | count + 1, bytes => bytes.take size :: blocks size count (bytes.drop size)

def allBlocks (size : Nat) (bytes : Bytes) : List Bytes :=
  blocks size (bytes.length / size) bytes

/-- A marker byte and zeros up to eight bytes before the end of a block of 64, where the length in
bits goes. -/
def padding (length : Nat) : Bytes :=
  0x80 :: List.replicate ((119 - length % 64) % 64) 0

def wordBig (bytes : Bytes) : UInt32 :=
  UInt32.ofNat (Bytes.toNat bytes)

def wordLittle (bytes : Bytes) : UInt32 :=
  UInt32.ofNat (Bytes.toNat bytes.reverse)

def bytesBig (word : UInt32) : Bytes :=
  Bytes.ofNat 4 word.toNat

def bytesLittle (word : UInt32) : Bytes :=
  (Bytes.ofNat 4 word.toNat).reverse

def rotateLeft (word amount : UInt32) : UInt32 :=
  (word <<< amount) ||| (word >>> (32 - amount))

def rotateRight (word amount : UInt32) : UInt32 :=
  (word >>> amount) ||| (word <<< (32 - amount))

end Multichain.Hash
