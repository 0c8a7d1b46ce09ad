import RegisterLink.Bytes.Width
import RegisterLink.Limits
import RegisterLink.Text.Quoted

/-!
# Arguments that are refused

A caller's value is refused when it does not fit the layout it is meant for, or when a text is not
of the form it should have. Nothing is sent or changed when that happens.
-/
namespace RegisterLink

/-- The text fields of a descriptor, in the order in which they are laid out. -/
inductive DescriptorField where
  | name
  | vendor
  | deviceType
  deriving DecidableEq, Repr

def DescriptorField.label : DescriptorField → String
  | name => "name"
  | vendor => "vendor"
  | deviceType => "type"

inductive AddressFault where
  | unterminatedLiteral
  | badPort
  | missingHost
  deriving DecidableEq, Repr

def AddressFault.detail : AddressFault → String
  | unterminatedLiteral => "unterminated IPv6 literal"
  | badPort => "bad port"
  | missingHost => "missing host"

/-- A refused argument, with what is wrong with it. -/
inductive InvalidArgument where
  | versionFormat (text : String)
  | fieldTooLong (field : DescriptorField) (size : Nat)
  | tooManyDescriptors (count : Nat)
  | payloadTooLong (size : Nat)
  | wrongWidth (width : Width) (size : Nat)
  | address (fault : AddressFault) (text : String)
  deriving DecidableEq, Repr

def InvalidArgument.detail : InvalidArgument → String
  | versionFormat text => "wrong version format: " ++ Quoted.quote text
  | fieldTooLong field size => s!"{field.label} is {size} bytes, limit is {fieldWidth}"
  | tooManyDescriptors count => s!"{count} descriptors do not fit in one query"
  | payloadTooLong size => s!"write payload is {size} bytes, limit is {maxPayloadSize}"
  | wrongWidth width size => s!"{width.bits}-bit write needs {width.bytes} bytes, got {size}"
  | address fault text => fault.detail ++ ": " ++ Quoted.quote text

end RegisterLink
