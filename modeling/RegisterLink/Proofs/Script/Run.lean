import RegisterLink.Script.Run

/-!
# Runs step by step

A run is its first step and, unless that waits for ever, the run of the others from where it left
the client. A call is its action on the link of the session.
-/
namespace RegisterLink

namespace Client

variable {client : Client} {step : Step}

theorem run_cons_of_blocked (h : (client.perform step).1 = .blocked) (rest : List Step) :
    client.run (step :: rest) = ([(client.record step).1], (client.perform step).2) := by
  show (if (client.perform step).1 = .blocked then _ else _) = _
  rw [if_pos h]
  rfl

theorem run_cons_of_completes (h : (client.perform step).1 ≠ .blocked) (rest : List Step) :
    client.run (step :: rest) =
      ((client.record step).1 :: ((client.perform step).2.run rest).1,
        ((client.perform step).2.run rest).2) := by
  show (if (client.perform step).1 = .blocked then _ else _) = _
  rw [if_neg h]
  rfl

theorem perform_call_of_perform {call : Call} {session : Session} {stream : Stream}
    {outcome : Outcome Reply} {link : Link}
    (h : call.perform { stream, session } = (outcome, link)) :
    Client.perform (.call call) { stream, session := some session } =
      (.ofOutcome outcome,
        { stream := link.stream
          session := if call.endsSession then none else some link.session }) := by
  unfold Client.perform Client.call
  simp only [h]

section Connecting

variable {descriptors : List Descriptor} {options : ConnectOptions} {stream : Stream}

theorem connect_of_done {session : Session}
    (h : Session.connect descriptors options client.stream = (.done session, stream)) :
    client.connect descriptors options =
      (.ok (.devices session.devices), { stream, session := some session }) := by
  rw [Client.connect, h]

theorem connect_of_failed {error : Error}
    (h : Session.connect descriptors options client.stream = (.failed error, stream)) :
    client.connect descriptors options = (.failed error, { stream }) := by
  rw [Client.connect, h]

theorem connect_of_blocked
    (h : Session.connect descriptors options client.stream = (.blocked, stream)) :
    client.connect descriptors options = (.blocked, { stream }) := by
  rw [Client.connect, h]

end Connecting

/-- What is left of a session that a call does not end. -/
theorem session_of_ends {call : Call} {session found : Session}
    (h : (if call.endsSession then none else some session) = some found) : found = session := by
  split at h
  · cases h
  · exact (Option.some.inj h).symm

end Client

end RegisterLink
