/-!
# Commands

Every frame begins with the byte of a command. Requests and answers share the same codes, and
codes outside the list are carried but not understood.
-/
namespace RegisterLink

inductive Command where
  | read
  /-- Answer to a read, always one 32-bit word. -/
  | readResponse
  /-- Write to a register; never acknowledged. -/
  | write
  /-- Ask for a sign of life. -/
  | echoRequest
  /-- The sign of life, with an empty body. -/
  | echoReply
  /-- Ask for the devices that satisfy descriptors. -/
  | query
  | queryResponse
  /-- End the conversation; never answered. -/
  | bye
  | errorReport
  deriving DecidableEq, Repr

namespace Command

def byte : Command → UInt8
  | read => 1
  | readResponse => 2
  | write => 3
  | echoRequest => 4
  | echoReply => 5
  | query => 6
  | queryResponse => 7
  | bye => 8
  | errorReport => 9

def all : List Command :=
  [read, readResponse, write, echoRequest, echoReply, query, queryResponse, bye, errorReport]

def ofByte? (byte : UInt8) : Option Command :=
  all.find? fun command => command.byte == byte

@[simp] theorem ofByte?_byte (command : Command) : ofByte? command.byte = some command := by
  cases command <;> rfl

end Command

end RegisterLink
