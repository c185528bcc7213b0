/-!
# Text from bytes

`Lossy.decode` reads bytes as UTF-8. Bytes that cannot be part of a character are replaced : each
longest start of a character that breaks off, and each byte that starts none, becomes one
replacement character.
-/

namespace CallAtlas.Text.Lossy

/-- What stands for bytes that are no character. -/
def replacement : Char :=
  '�'

/-- The ranges of the bytes that may follow a first byte of more than one, if it is one. -/
def followers (b : UInt8) : List (UInt8 × UInt8) :=
  if 0xc2 ≤ b && b ≤ 0xdf then [(0x80, 0xbf)]
  else if b = 0xe0 then [(0xa0, 0xbf), (0x80, 0xbf)]
  else if b = 0xed then [(0x80, 0x9f), (0x80, 0xbf)]
  else if 0xe1 ≤ b && b ≤ 0xef then [(0x80, 0xbf), (0x80, 0xbf)]
  else if b = 0xf0 then [(0x90, 0xbf), (0x80, 0xbf), (0x80, 0xbf)]
  else if 0xf1 ≤ b && b ≤ 0xf3 then [(0x80, 0xbf), (0x80, 0xbf), (0x80, 0xbf)]
  else if b = 0xf4 then [(0x80, 0x8f), (0x80, 0xbf), (0x80, 0xbf)]
  else []

/-- The bytes in front that lie in the given ranges, one after another. -/
def fitting : List (UInt8 × UInt8) → List UInt8 → List UInt8
  | (low, high) :: ranges, b :: bs => if low ≤ b && b ≤ high then b :: fitting ranges bs else []
  | _, _ => []

/-- The bits that a first byte gives, when it has a number of followers. -/
def leadingBits (b : UInt8) : Nat → Nat
  | 1 => b.toNat % 32
  | 2 => b.toNat % 16
  | _ => b.toNat % 8

/-- Read bytes, at most a number of characters. -/
def decodeUpTo : Nat → List UInt8 → List Char
  | 0, _ => []
  | _, [] => []
  | n + 1, b :: bs =>
    if b < 0x80 then Char.ofNat b.toNat :: decodeUpTo n bs
    else
      let ranges := followers b
      let more := fitting ranges bs
      let c :=
        if ranges.isEmpty || more.length < ranges.length then replacement
        else Char.ofNat (more.foldl (fun v m => v * 64 + m.toNat % 64) (leadingBits b more.length))
      c :: decodeUpTo n (bs.drop more.length)

/-- The text of bytes. -/
def decode (bytes : ByteArray) : String :=
  let bs := bytes.toList
  String.ofList (decodeUpTo bs.length bs)

end CallAtlas.Text.Lossy
