import RegisterLink.Proofs.Action
import RegisterLink.Proofs.Call.Verdict
import RegisterLink.Proofs.Message.Query

/-!
# How a handshake ends

Two exchanges follow each other, and the second is begun only after the first has brought an empty
echo. A failure of the stream in either ends the handshake with that failure, a wrong answer in
either ends it with a reason of its own, and only an answer to the query that lists the chosen
device binds a session. In each case it is known what has been sent, flushed and taken by then. Descriptors that no query can carry are refused before all this.
-/
namespace RegisterLink

/-- The answer to a query lists the chosen device. -/
structure Binding (options : ConnectOptions) (answer : Frame) : Prop where
  command : answer.command = Command.queryResponse.byte
  even : answer.body.length % 2 = 0
  found : answer.body.length ≠ 0
  index : options.deviceIndex < answer.body.length / 2

/-- The session is bound to the chosen one of the devices in an answer. -/
structure BoundBy (options : ConnectOptions) (answer : Frame) (session : Session) : Prop where
  devices : session.devices = QueryResponse.pairs answer.body
  device : session.devices[options.deviceIndex]? = some session.device
  limit : session.limit = options.limit
  synchronized : session.desynchronized = false

/-- The server has answered the sign of life with an empty echo. -/
def Greeted (options : ConnectOptions) (before middle : Stream) : Prop :=
  Stream.exchange options.limit (Frame.empty .echoRequest) before =
    (.done (Frame.empty .echoReply), middle)

/-- The server was asked for a sign of life, how that ended, and what it has moved. -/
abbrev Echoed (options : ConnectOptions) : Stream → Outcome Frame → Stream → Prop :=
  Exchanged options.limit (Frame.empty .echoRequest)

/-- How a handshake with a query can end, and what it has moved by then. -/
inductive Handshake (options : ConnectOptions) (query : Frame) (before : Stream) :
    Outcome Session → Stream → Prop
  | echoFailed {fault : TransportFault} {after : Stream}
      (echoed : Echoed options before (.failed (.transport fault)) after) :
      Handshake options query before (.failed (.transport fault)) after
  | echoWaits {after : Stream} (echoed : Echoed options before .blocked after) :
      Handshake options query before .blocked after
  | notResponding {answer : Frame} {after : Stream}
      (echoed : Echoed options before (.done answer) after)
      (other : answer ≠ Frame.empty .echoReply) :
      Handshake options query before (.failed (.handshake (.notResponding answer))) after
  | queryFailed {fault : TransportFault} {middle after : Stream}
      (echoed : Echoed options before (.done (Frame.empty .echoReply)) middle)
      (asked : Exchanged options.limit query middle (.failed (.transport fault)) after) :
      Handshake options query before (.failed (.transport fault)) after
  | queryWaits {middle after : Stream}
      (echoed : Echoed options before (.done (Frame.empty .echoReply)) middle)
      (asked : Exchanged options.limit query middle .blocked after) :
      Handshake options query before .blocked after
  | unbound {answer : Frame} {fault : HandshakeFault} {middle after : Stream}
      (echoed : Echoed options before (.done (Frame.empty .echoReply)) middle)
      (asked : Exchanged options.limit query middle (.done answer) after)
      (reason : Session.ofReply options answer = .error fault)
      (unlisted : ¬ Binding options answer) :
      Handshake options query before (.failed (.handshake fault)) after
  | bound {answer : Frame} {session : Session} {middle after : Stream}
      (echoed : Echoed options before (.done (Frame.empty .echoReply)) middle)
      (asked : Exchanged options.limit query middle (.done answer) after)
      (listed : Binding options answer) (binds : BoundBy options answer session) :
      Handshake options query before (.done session) after

/-! ## The answer to the query -/

namespace Session

variable {options : ConnectOptions} {answer : Frame} {session : Session}

theorem ofDevices_eq_ok_iff {devices : List DeviceEntry} :
    ofDevices options devices = .ok session ↔
      devices[options.deviceIndex]? = some session.device ∧ session.devices = devices ∧
        session.limit = options.limit ∧ session.desynchronized = false := by
  unfold ofDevices
  constructor
  · intro h
    split at h
    · cases h
    · split at h
      · obtain rfl := Except.ok.inj h
        exact ⟨‹_›, rfl, rfl, rfl⟩
      · cases h
  · rintro ⟨hdevice, rfl, hlimit, hplace⟩
    have hsome : session.devices ≠ [] := by
      intro hnone
      rw [hnone] at hdevice
      cases hdevice
    rw [if_neg hsome, hdevice, ← hlimit, ← hplace]

theorem ofReply_eq_ok_iff :
    ofReply options answer = .ok session ↔
      Binding options answer ∧ BoundBy options answer session := by
  unfold ofReply
  constructor
  · intro h
    split at h
    · unfold QueryResponse.decode at h
      by_cases heven : answer.body.length % 2 = 0
      · rw [if_pos heven, QueryResponse.entries_eq_pairs] at h
        obtain ⟨hdevice, hdevices, hlimit, hplace⟩ := ofDevices_eq_ok_iff.mp h
        obtain ⟨hindex, -⟩ := List.getElem?_eq_some_iff.mp hdevice
        rw [QueryResponse.length_pairs] at hindex
        have hfound : answer.body.length ≠ 0 := by omega
        exact ⟨⟨Frame.kind_eq_some_iff.mp ‹_›, heven, hfound, hindex⟩,
          ⟨hdevices, hdevices ▸ hdevice, hlimit, hplace⟩⟩
      · rw [if_neg heven] at h
        cases h
    · cases h
  · rintro ⟨hbinding, hbound⟩
    rw [if_pos (Frame.kind_eq_some_iff.mpr hbinding.command), QueryResponse.decode,
      if_pos hbinding.even, QueryResponse.entries_eq_pairs]
    exact ofDevices_eq_ok_iff.mpr
      ⟨hbound.devices ▸ hbound.device, hbound.devices, hbound.limit, hbound.synchronized⟩

theorem exists_of_binding (h : Binding options answer) :
    ∃ session, BoundBy options answer session := by
  have hindex : options.deviceIndex < (QueryResponse.pairs answer.body).length := by
    rw [QueryResponse.length_pairs]
    exact h.index
  exact ⟨{ devices := QueryResponse.pairs answer.body, device := _, limit := options.limit },
    rfl, List.getElem?_eq_getElem hindex, rfl, rfl⟩

/-! ## Step by step -/

section Connecting

variable {descriptors : List Descriptor} {query : Frame} {before middle after : Stream}

theorem connect_of_refused {error : Error} (h : Query.frame descriptors = .error error) :
    connect descriptors options before = (.failed error, before) := by
  rw [connect, h]
  rfl

theorem connect_of_query (h : Query.frame descriptors = .ok query) :
    connect descriptors options = (do
      let echo ← Stream.exchange options.limit (Frame.empty .echoRequest)
      if echo.isEmptyOf .echoReply then
        let reply ← Stream.exchange options.limit query
        Action.ofExcept ((ofReply options reply).mapError .handshake)
      else
        Action.fail (.handshake (.notResponding echo))) := by
  rw [connect, h, Action.ofExcept_ok, pure_bind]

theorem connect_of_echo_failed {error : Error} (hquery : Query.frame descriptors = .ok query)
    (h : Stream.exchange options.limit (Frame.empty .echoRequest) before =
      (.failed error, after)) :
    connect descriptors options before = (.failed error, after) := by
  rw [connect_of_query hquery, Action.bind_of_failed h]

theorem connect_of_echo_waits (hquery : Query.frame descriptors = .ok query)
    (h : Stream.exchange options.limit (Frame.empty .echoRequest) before = (.blocked, after)) :
    connect descriptors options before = (.blocked, after) := by
  rw [connect_of_query hquery, Action.bind_of_blocked h]

theorem connect_of_not_responding (hquery : Query.frame descriptors = .ok query)
    (h : Stream.exchange options.limit (Frame.empty .echoRequest) before = (.done answer, after))
    (hother : answer ≠ Frame.empty .echoReply) :
    connect descriptors options before = (.failed (.handshake (.notResponding answer)), after) := by
  have hnot : ¬ answer.isEmptyOf .echoReply = true := fun hempty =>
    hother (Frame.isEmptyOf_iff.mp hempty)
  rw [connect_of_query hquery, Action.bind_of_done h, if_neg hnot]
  rfl

theorem connect_of_greeted (hquery : Query.frame descriptors = .ok query)
    (h : Greeted options before middle) :
    connect descriptors options before = (do
      let reply ← Stream.exchange options.limit query
      Action.ofExcept ((ofReply options reply).mapError .handshake) : Action Stream Session)
        middle := by
  rw [connect_of_query hquery, Action.bind_of_done h]
  rfl

theorem connect_of_query_failed {error : Error} (hquery : Query.frame descriptors = .ok query)
    (hgreeted : Greeted options before middle)
    (h : Stream.exchange options.limit query middle = (.failed error, after)) :
    connect descriptors options before = (.failed error, after) := by
  rw [connect_of_greeted hquery hgreeted, Action.bind_of_failed h]

theorem connect_of_query_waits (hquery : Query.frame descriptors = .ok query)
    (hgreeted : Greeted options before middle)
    (h : Stream.exchange options.limit query middle = (.blocked, after)) :
    connect descriptors options before = (.blocked, after) := by
  rw [connect_of_greeted hquery hgreeted, Action.bind_of_blocked h]

theorem connect_of_answer (hquery : Query.frame descriptors = .ok query)
    (hgreeted : Greeted options before middle)
    (h : Stream.exchange options.limit query middle = (.done answer, after)) :
    connect descriptors options before =
      Action.ofExcept ((ofReply options answer).mapError .handshake) after := by
  rw [connect_of_greeted hquery hgreeted, Action.bind_of_done h]

theorem handshake_of_greeted {outcome : Outcome Session}
    (hquery : Query.frame descriptors = .ok query) (hgreeted : Greeted options before middle)
    (h : connect descriptors options before = (outcome, after)) :
    Handshake options query before outcome after := by
  have hechoed : Echoed options before (.done (Frame.empty .echoReply)) middle :=
    Stream.exchanged hgreeted
  rcases hask : Stream.exchange options.limit query middle with ⟨asked, last⟩
  have hasked := Stream.exchanged hask
  cases asked with
  | failed error =>
    obtain ⟨fault, rfl⟩ := Stream.exchange_failed hask
    rw [connect_of_query_failed hquery hgreeted hask] at h
    obtain ⟨rfl, rfl⟩ := Prod.mk.inj h
    exact .queryFailed hechoed hasked
  | blocked =>
    rw [connect_of_query_waits hquery hgreeted hask] at h
    obtain ⟨rfl, rfl⟩ := Prod.mk.inj h
    exact .queryWaits hechoed hasked
  | done answer =>
    rw [connect_of_answer hquery hgreeted hask] at h
    cases hreply : ofReply options answer with
    | ok session =>
      rw [hreply] at h
      obtain ⟨rfl, rfl⟩ := Prod.mk.inj h
      obtain ⟨hlisted, hbinds⟩ := ofReply_eq_ok_iff.mp hreply
      exact .bound hechoed hasked hlisted hbinds
    | error fault =>
      rw [hreply] at h
      obtain ⟨rfl, rfl⟩ := Prod.mk.inj h
      -- An answer that lists the device binds it, so this one does not.
      refine .unbound hechoed hasked hreply ?_
      intro hlisted
      obtain ⟨session, hbinds⟩ := exists_of_binding hlisted
      cases hreply.symm.trans (ofReply_eq_ok_iff.mpr ⟨hlisted, hbinds⟩)

/-- Every handshake with a query that can be sent ends in one of the seven ways. -/
theorem connect_handshake {outcome : Outcome Session} (hquery : Query.frame descriptors = .ok query)
    (h : connect descriptors options before = (outcome, after)) :
    Handshake options query before outcome after := by
  rcases hecho : Stream.exchange options.limit (Frame.empty .echoRequest) before with
    ⟨echoed, middle⟩
  have hechoed := Stream.exchanged hecho
  cases echoed with
  | failed error =>
    obtain ⟨fault, rfl⟩ := Stream.exchange_failed hecho
    rw [connect_of_echo_failed hquery hecho] at h
    obtain ⟨rfl, rfl⟩ := Prod.mk.inj h
    exact .echoFailed hechoed
  | blocked =>
    rw [connect_of_echo_waits hquery hecho] at h
    obtain ⟨rfl, rfl⟩ := Prod.mk.inj h
    exact .echoWaits hechoed
  | done echo =>
    by_cases hempty : echo = Frame.empty .echoReply
    · subst hempty
      exact handshake_of_greeted hquery hecho h
    · rw [connect_of_not_responding hquery hecho hempty] at h
      obtain ⟨rfl, rfl⟩ := Prod.mk.inj h
      exact .notResponding hechoed hempty

end Connecting

end Session

end RegisterLink
