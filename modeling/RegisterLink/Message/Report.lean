import RegisterLink.Fault.Malformed
import RegisterLink.Frame
import RegisterLink.Text.Decimal
import RegisterLink.Text.Utf8

/-!
# Error reports

A server reports an error by a code and a text. The text ends at the first zero byte or where its
room ends. `Frame.describe` shows a received frame in messages: a report by its contents, any other
frame by its bytes.
-/
namespace RegisterLink

inductive ReportCode where
  | unknownCommand
  | malformedPacket
  | deviceCountExceeded
  | accessDenied
  | ioError
  deriving DecidableEq, Repr

namespace ReportCode

/-- The number a code is sent as. -/
def code : ReportCode → Int32
  | unknownCommand => 1
  | malformedPacket => 2
  | deviceCountExceeded => 3
  | accessDenied => 4
  | ioError => 5

def all : List ReportCode :=
  [unknownCommand, malformedPacket, deviceCountExceeded, accessDenied, ioError]

def ofCode? (code : Int32) : Option ReportCode :=
  all.find? fun known => known.code == code

def name : ReportCode → String
  | unknownCommand => "UnknownCommand"
  | malformedPacket => "MalformedPacket"
  | deviceCountExceeded => "DeviceCountExceeded"
  | accessDenied => "AccessDenied"
  | ioError => "IoError"

end ReportCode

structure ErrorReport where
  code : Int32
  text : String
  deriving DecidableEq, Repr

namespace ErrorReport

def kind (report : ErrorReport) : Option ReportCode := ReportCode.ofCode? report.code

/-- The code, and as much of the text as there is room for. The cut counts bytes, not characters. -/
def encode (report : ErrorReport) : List UInt8 :=
  Word.encodeInt32 report.code ++ (Utf8.encode report.text).take maxReportTextSize

/-- Reads a body. Bytes beyond the room of the text, and behind a zero byte in it, are ignored. -/
def decode (body : List UInt8) : Except Malformed ErrorReport :=
  if body.length < 4 then
    .error (.reportTooShort body.length)
  else
    let text := (body.drop 4).take maxReportTextSize
    .ok ⟨Word.decodeInt32 (body.take 4), Utf8.decode (text.takeWhile (· != 0))⟩

/-- Shows code and text, and the name of a known code. -/
def display (report : ErrorReport) : String :=
  let code := String.ofList (Decimal.ofInt report.code.toInt)
  match report.kind with
  | some kind => kind.name ++ " (" ++ code ++ "): " ++ report.text
  | none => code ++ ": " ++ report.text

end ErrorReport

/-- How a received frame is shown in messages. -/
def Frame.describe (frame : Frame) : String :=
  if frame.kind = some .errorReport then
    match ErrorReport.decode frame.body with
    | .ok report => "server error " ++ report.display
    | .error _ => frame.display
  else
    frame.display

end RegisterLink
