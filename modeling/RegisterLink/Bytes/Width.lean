/-!
# Access widths

Registers are accessed one, two, four or eight bytes at a time.
-/
namespace RegisterLink

/-- The width of one access, named by its bits. -/
inductive Width where
  | w8
  | w16
  | w32
  | w64
  deriving DecidableEq, Repr

namespace Width

/-- Bytes moved by an access of this width. -/
def bytes : Width → Nat
  | w8 => 1
  | w16 => 2
  | w32 => 4
  | w64 => 8

/-- Bits moved by an access of this width. -/
def bits (width : Width) : Nat := 8 * width.bytes

end Width

end RegisterLink
