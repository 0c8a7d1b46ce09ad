import RegisterLink.Fault.InvalidArgument
import RegisterLink.Text.Decimal
import RegisterLink.Text.Split

/-!
# Server endpoints

A server is reached at a host and a port. An address is a host, `host:port`, an IPv6 literal in
brackets with or without `:port`, or a bare IPv6 literal, which is recognised by its second colon.
Without a port the default port is meant.
-/
namespace RegisterLink

structure Endpoint where
  host : String
  port : UInt16
  deriving DecidableEq, Repr

namespace Endpoint

/-- The port servers listen on unless told otherwise. -/
def defaultPort : UInt16 := 8896

def maxPort : Nat := 65535

/-- A port: digits, which may follow one plus sign. -/
def port? (text : List Char) : Option UInt16 :=
  let digits := match text with
    | '+' :: digits => digits
    | _ => text
  (Decimal.value? maxPort digits).map UInt16.ofNat

/-- What may follow a literal in brackets. -/
def portAfterLiteral : List Char → Except AddressFault UInt16
  | [] => .ok defaultPort
  | ':' :: port => (port? port).elim (.error .badPort) .ok
  | _ => .error .badPort

/-- An endpoint whose host must not be empty. -/
def named (host : List Char) (port : UInt16) : Except AddressFault Endpoint :=
  if host = [] then .error .missingHost else .ok ⟨String.ofList host, port⟩

/-- An address in brackets, without the opening one. -/
def ofLiteral (text : List Char) : Except AddressFault Endpoint :=
  match Text.splitFirst ']' text with
  | none => .error .unterminatedLiteral
  | some (host, tail) => do return ⟨String.ofList host, ← portAfterLiteral tail⟩

/-- An address without brackets. Its port is looked at before its host. -/
def ofPlain (text : List Char) : Except AddressFault Endpoint :=
  match Text.splitFirst ':' text with
  | none => named text defaultPort
  | some (host, tail) =>
    if ':' ∈ tail then .ok ⟨String.ofList text, defaultPort⟩
    else match port? tail with
      | none => .error .badPort
      | some port => named host port

def ofChars : List Char → Except AddressFault Endpoint
  | '[' :: text => ofLiteral text
  | text => ofPlain text

def parse (address : String) : Except InvalidArgument Endpoint :=
  (ofChars address.toList).mapError fun fault => .address fault address

end Endpoint

/-- How to reach a server. The limit for setting up the connection is in milliseconds. -/
structure ConnectionSettings where
  address : String := "127.0.0.1:8896"
  connectLimit : Option Nat := none
  noDelay : Bool := true
  deriving DecidableEq, Repr

namespace ConnectionSettings

def withConnectLimit (settings : ConnectionSettings) (limit : Nat) : ConnectionSettings :=
  { settings with connectLimit := some limit }

/-- Chooses whether small requests go out at once. -/
def withNoDelay (settings : ConnectionSettings) (noDelay : Bool) : ConnectionSettings :=
  { settings with noDelay }

/-- The endpoint a connection is opened to. Opening one fails first of all with the fault of a
malformed address. -/
def endpoint (settings : ConnectionSettings) : Except InvalidArgument Endpoint :=
  Endpoint.parse settings.address

end ConnectionSettings

end RegisterLink
