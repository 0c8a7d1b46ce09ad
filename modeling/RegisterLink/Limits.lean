/-!
# Sizes of the protocol

The widths and limits every layout is built from. A frame's length field has sixteen bits, which
bounds its body; all other limits either follow from that bound or are fixed by a layout.
-/
namespace RegisterLink

/-- Bytes in front of a frame's body: the command and a two-byte length. -/
def headerSize : Nat := 3

def maxBodySize : Nat := 65535

/-- Bytes in front of a write's payload, and the whole of a read request. -/
def accessHeaderSize : Nat := 7

/-- The longest payload a single write can carry. -/
def maxPayloadSize : Nat := maxBodySize - accessHeaderSize

/-- Bytes in the answer to a read, whatever width was asked for. -/
def readResponseSize : Nat := 4

/-- Bytes of text an error report carries at most. -/
def maxReportTextSize : Nat := 1024

/-- Bytes reserved for each text field of a descriptor. -/
def fieldWidth : Nat := 128

def versionSize : Nat := 12

/-- Bytes of a descriptor: three text fields and a version. -/
def descriptorSize : Nat := 3 * fieldWidth + versionSize

end RegisterLink
