import RegisterLink.Link.Handshake
import RegisterLink.Script.Call

/-!
# Scripts

A script is a list of steps on one stream: binding a session, calls on it, and frames read or
written directly. At most one session is bound at a time. Each step is recorded with its answer and
with what it did to the stream; a step that waits for ever ends the script.
-/
namespace RegisterLink

/-- A stream and the session bound on it, if any. -/
structure Client where
  stream : Stream
  session : Option Session := none
  deriving DecidableEq, Repr

inductive Step where
  | connect (descriptors : List Descriptor) (options : ConnectOptions)
  | readFrame
  | writeFrame (command : UInt8) (body : List UInt8)
  | call (request : Call)
  deriving DecidableEq, Repr

inductive Answer where
  | ok (reply : Reply)
  | failed (error : Error)
  /-- The step waits for ever. -/
  | blocked
  /-- A call without a session. -/
  | noSession
  deriving DecidableEq, Repr

/-- What one step answered and did. -/
structure StepRecord where
  answer : Answer
  /-- Bytes accepted during the step. -/
  sent : List UInt8
  /-- Flushes that succeeded during the step. -/
  flushes : Nat
  /-- How many bytes have not been taken after the step. -/
  unread : Nat
  session : Option SessionStatus
  deriving DecidableEq, Repr

/-- The answer to a step by the outcome of its action. -/
def Answer.ofOutcome : Outcome Reply → Answer
  | .done reply => ok reply
  | .failed error => failed error
  | .blocked => blocked

namespace Client

/-- Drops any session and binds a new one; if that fails, none is left. -/
def connect (descriptors : List Descriptor) (options : ConnectOptions) (client : Client) :
    Answer × Client :=
  match Session.connect descriptors options client.stream with
  | (.done session, stream) => (.ok (.devices session.devices), { stream, session := some session })
  | (.failed error, stream) => (.failed error, { stream })
  | (.blocked, stream) => (.blocked, { stream })

def direct (act : Action Stream Reply) (client : Client) : Answer × Client :=
  let (outcome, stream) := act client.stream
  (.ofOutcome outcome, { client with stream })

/-- Writes a frame directly, if its body fits. -/
def writeFrame (command : UInt8) (body : List UInt8) : Action Stream Reply := do
  let frame ← Action.ofExcept ((Frame.ofBody command body).mapError .frame)
  Stream.writeFrame frame
  return .nothing

def call (request : Call) (client : Client) : Answer × Client :=
  match client.session with
  | none => (.noSession, client)
  | some session =>
    let (outcome, link) := request.perform { stream := client.stream, session }
    let session := if request.endsSession then none else some link.session
    (.ofOutcome outcome, { stream := link.stream, session })

def perform (step : Step) (client : Client) : Answer × Client :=
  match step with
  | .connect descriptors options => client.connect descriptors options
  | .readFrame => client.direct (do return .frame (← Stream.readFrame none))
  | .writeFrame command body => client.direct (writeFrame command body)
  | .call request => client.call request

def record (step : Step) (client : Client) : StepRecord × Client :=
  let (answer, after) := client.perform step
  ({ answer
     sent := after.stream.outbound.sent.drop client.stream.outbound.sent.length
     flushes := after.stream.outbound.flushes - client.stream.outbound.flushes
     unread := after.stream.inbound.unread.length
     session := after.session.map Session.status }, after)

/-- Performs steps in order, up to and including the first that waits for ever. Returns a record of
every step performed, and the client they leave. -/
def run (client : Client) : List Step → List StepRecord × Client
  | [] => ([], client)
  | step :: rest =>
    let (record, after) := client.record step
    if record.answer = .blocked then
      ([record], after)
    else
      let (records, last) := after.run rest
      (record :: records, last)

end Client

end RegisterLink
