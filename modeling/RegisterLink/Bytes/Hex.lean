/-!
# Hexadecimal text of bytes

Two lower-case digits for each byte, high half first.
-/
namespace RegisterLink.Hex

def digits (byte : UInt8) : List Char :=
  [Nat.digitChar (byte.toNat / 16), Nat.digitChar (byte.toNat % 16)]

def encode (bytes : List UInt8) : String :=
  String.ofList (bytes.flatMap digits)

end RegisterLink.Hex
