import RegisterLink.Proofs.Session.Handshake

/-!
# What binding a device comes to

Descriptors that no query can carry are refused with the stream as it was. Every other handshake
sends the echo first and the query only behind the server's sign of life. It binds a session
exactly when both exchanges complete and the second answer lists the chosen device; a failure of
the stream is reported as such and a wrong answer as a failed handshake.
-/
namespace RegisterLink

/-- What a handshake with a query has sent and taken, in order. -/
inductive Asking (query : Frame) (before after : Stream) : Prop
  | greeting {part taken : List UInt8} (begun : part <+: (Frame.empty .echoRequest).encode)
      (sent : after.outbound.sent = before.outbound.sent ++ part)
      (taken : before.inbound.unread = taken ++ after.inbound.unread)
  | asking {part taken : List UInt8} (begun : part <+: query.encode)
      (sent : after.outbound.sent =
        before.outbound.sent ++ (Frame.empty .echoRequest).encode ++ part)
      (taken : before.inbound.unread =
        (Frame.empty .echoReply).encode ++ taken ++ after.inbound.unread)

/-- What binding a device comes to, and what becomes of the stream. -/
structure ConnectVerdict (descriptors : List Descriptor) (options : ConnectOptions)
    (before : Stream) (outcome : Outcome Session) (after : Stream) : Prop where
  refused_iff : (∃ fault, outcome = .failed (.invalidArgument fault)) ↔ Unpackable descriptors
  untouched : Unpackable descriptors → after = before
  course : ¬ Unpackable descriptors → ∃ query, Query.Carries query descriptors ∧
    Handshake options query before outcome after ∧ Asking query before after
  bound_iff : ∀ session, outcome = .done session ↔ ∃ query answer middle,
    Query.Carries query descriptors ∧ Greeted options before middle ∧
      Stream.exchange options.limit query middle = (.done answer, after) ∧
        Binding options answer ∧ BoundBy options answer session
  moved : ∀ session, outcome = .done session → ∃ query answer,
    Query.Carries query descriptors ∧ BoundBy options answer session ∧
      after.outbound.sent =
        before.outbound.sent ++ (Frame.empty .echoRequest).encode ++ query.encode ∧
      after.outbound.flushes = before.outbound.flushes + 2 ∧
      before.inbound.unread =
        (Frame.empty .echoReply).encode ++ answer.encode ++ after.inbound.unread
  transport_iff : ∀ error, (outcome = .failed error ∧ error.kind = .transport) ↔
    ∃ query, Query.Carries query descriptors ∧
      (Stream.exchange options.limit (Frame.empty .echoRequest) before = (.failed error, after) ∨
        ∃ middle, Greeted options before middle ∧
          Stream.exchange options.limit query middle = (.failed error, after))
  handshake_iff : (∃ fault, outcome = .failed (.handshake fault)) ↔
    ∃ query answer, Query.Carries query descriptors ∧
      ((answer ≠ Frame.empty .echoReply ∧
          Stream.exchange options.limit (Frame.empty .echoRequest) before = (.done answer, after)) ∨
        ∃ middle, Greeted options before middle ∧ ¬ Binding options answer ∧
          Stream.exchange options.limit query middle = (.done answer, after))
  kinds : ∀ error, outcome = .failed error →
    error.kind = .transport ∨ error.kind = .handshake ∨ error.kind = .invalidArgument

namespace Handshake

variable {options : ConnectOptions} {query : Frame} {before middle after : Stream}
  {outcome : Outcome Session}

theorem asking_of_echo {reply : Outcome Frame} (h : Echoed options before reply after) :
    Asking query before after := by
  obtain ⟨part, hbegun, hsent⟩ := h.moved.sent_prefix
  obtain ⟨taken, htaken⟩ := h.moved.taken_prefix
  exact .greeting hbegun hsent htaken

theorem asking_of_query {reply : Outcome Frame}
    (hecho : Echoed options before (.done (Frame.empty .echoReply)) middle)
    (hask : Exchanged options.limit query middle reply after) : Asking query before after := by
  obtain ⟨hgreeted, -, hreply⟩ := hecho.swapped
  obtain ⟨part, hbegun, hsent⟩ := hask.moved.sent_prefix
  obtain ⟨taken, htaken⟩ := hask.moved.taken_prefix
  have hall : before.inbound.unread =
      (Frame.empty .echoReply).encode ++ taken ++ after.inbound.unread := by
    rw [hreply, htaken, List.append_assoc]
  exact .asking hbegun (by rw [hsent, hgreeted]) hall

/-- The query is sent only behind an empty echo. -/
theorem asking (h : Handshake options query before outcome after) : Asking query before after := by
  cases h with
  | echoFailed echoed | echoWaits echoed | notResponding echoed => exact asking_of_echo echoed
  | queryFailed echoed asked | queryWaits echoed asked | unbound echoed asked
  | bound echoed asked => exact asking_of_query echoed asked

theorem kind_of_failed {error : Error} (h : Handshake options query before (.failed error) after) :
    error.kind = .transport ∨ error.kind = .handshake := by
  cases h with
  | echoFailed | queryFailed => exact Or.inl rfl
  | notResponding | unbound => exact Or.inr rfl

end Handshake

namespace Session

variable {descriptors : List Descriptor} {options : ConnectOptions} {before after : Stream}
  {outcome : Outcome Session}

theorem handshake_of_outcome (h : connect descriptors options before = (outcome, after))
    (hgoes : ∀ fault, outcome ≠ .failed (.invalidArgument fault)) :
    ∃ query, Query.Carries query descriptors ∧ Handshake options query before outcome after := by
  by_cases hunpackable : Unpackable descriptors
  · obtain ⟨fault, hfault⟩ := Query.frame_of_unpackable hunpackable
    rw [connect_of_refused hfault] at h
    obtain ⟨rfl, rfl⟩ := Prod.mk.inj h
    exact absurd rfl (hgoes fault)
  · obtain ⟨query, hquery⟩ := Query.exists_carries hunpackable
    exact ⟨query, hquery, connect_handshake (Query.frame_of_carries hquery) h⟩

theorem refused_iff_unpackable (h : connect descriptors options before = (outcome, after)) :
    (∃ fault, outcome = .failed (.invalidArgument fault)) ↔ Unpackable descriptors := by
  constructor
  · rintro ⟨fault, rfl⟩
    apply Classical.byContradiction
    intro hpackable
    obtain ⟨query, hquery⟩ := Query.exists_carries hpackable
    rcases (connect_handshake (Query.frame_of_carries hquery) h).kind_of_failed with hkind | hkind
    · cases hkind
    · cases hkind
  · intro hunpackable
    obtain ⟨fault, hfault⟩ := Query.frame_of_unpackable hunpackable
    rw [connect_of_refused hfault] at h
    obtain ⟨rfl, rfl⟩ := Prod.mk.inj h
    exact ⟨fault, rfl⟩

theorem untouched_of_unpackable (h : connect descriptors options before = (outcome, after))
    (hunpackable : Unpackable descriptors) : after = before := by
  obtain ⟨fault, hfault⟩ := Query.frame_of_unpackable hunpackable
  rw [connect_of_refused hfault] at h
  exact (Prod.mk.inj h).2.symm

theorem bound_iff_listed (h : connect descriptors options before = (outcome, after))
    (session : Session) :
    outcome = .done session ↔ ∃ query answer middle,
      Query.Carries query descriptors ∧ Greeted options before middle ∧
        Stream.exchange options.limit query middle = (.done answer, after) ∧
          Binding options answer ∧ BoundBy options answer session := by
  constructor
  · rintro rfl
    obtain ⟨query, hquery, hhandshake⟩ := handshake_of_outcome h nofun
    cases hhandshake with
    | bound echoed asked listed binds =>
      exact ⟨query, _, _, hquery, echoed.result, asked.result, listed, binds⟩
  · rintro ⟨query, answer, middle, hquery, hgreeted, hask, hlisted, hbinds⟩
    rw [connect_of_answer (Query.frame_of_carries hquery) hgreeted hask,
      ofReply_eq_ok_iff.mpr ⟨hlisted, hbinds⟩] at h
    exact (Prod.mk.inj h).1.symm

theorem moved_of_bound {session : Session}
    (h : connect descriptors options before = (.done session, after)) :
    ∃ query answer, Query.Carries query descriptors ∧ BoundBy options answer session ∧
      after.outbound.sent =
        before.outbound.sent ++ (Frame.empty .echoRequest).encode ++ query.encode ∧
      after.outbound.flushes = before.outbound.flushes + 2 ∧
      before.inbound.unread =
        (Frame.empty .echoReply).encode ++ answer.encode ++ after.inbound.unread := by
  obtain ⟨query, answer, middle, hquery, hgreeted, hask, -, hbinds⟩ :=
    (bound_iff_listed h session).mp rfl
  obtain ⟨hecho, hflush, hreply⟩ := (Stream.exchanged hgreeted).swapped
  obtain ⟨hsent, hflushes, htaken⟩ := (Stream.exchanged hask).swapped
  refine ⟨query, answer, hquery, hbinds, ?_, ?_, ?_⟩
  · rw [hsent, hecho]
  · rw [hflushes, hflush]
  · rw [hreply, htaken, List.append_assoc]

theorem transport_iff_exchange_failed
    (h : connect descriptors options before = (outcome, after)) (error : Error) :
    (outcome = .failed error ∧ error.kind = .transport) ↔
      ∃ query, Query.Carries query descriptors ∧
        (Stream.exchange options.limit (Frame.empty .echoRequest) before = (.failed error, after) ∨
          ∃ middle, Greeted options before middle ∧
            Stream.exchange options.limit query middle = (.failed error, after)) := by
  constructor
  · rintro ⟨rfl, hkind⟩
    obtain ⟨query, hquery, hhandshake⟩ := handshake_of_outcome h fun fault hrefused => by
      cases hrefused
      cases hkind
    cases hhandshake with
    | echoFailed echoed => exact ⟨query, hquery, Or.inl echoed.result⟩
    | queryFailed echoed asked =>
      exact ⟨query, hquery, Or.inr ⟨_, echoed.result, asked.result⟩⟩
    | notResponding | unbound => cases hkind
  · rintro ⟨query, hquery, hecho | ⟨middle, hgreeted, hask⟩⟩
    · obtain ⟨fault, rfl⟩ := Stream.exchange_failed hecho
      rw [connect_of_echo_failed (Query.frame_of_carries hquery) hecho] at h
      exact ⟨(Prod.mk.inj h).1.symm, rfl⟩
    · obtain ⟨fault, rfl⟩ := Stream.exchange_failed hask
      rw [connect_of_query_failed (Query.frame_of_carries hquery) hgreeted hask] at h
      exact ⟨(Prod.mk.inj h).1.symm, rfl⟩

theorem handshake_iff_wrong_answer
    (h : connect descriptors options before = (outcome, after)) :
    (∃ fault, outcome = .failed (.handshake fault)) ↔
      ∃ query answer, Query.Carries query descriptors ∧
        ((answer ≠ Frame.empty .echoReply ∧
            Stream.exchange options.limit (Frame.empty .echoRequest) before =
              (.done answer, after)) ∨
          ∃ middle, Greeted options before middle ∧ ¬ Binding options answer ∧
            Stream.exchange options.limit query middle = (.done answer, after)) := by
  constructor
  · rintro ⟨fault, rfl⟩
    obtain ⟨query, hquery, hhandshake⟩ := handshake_of_outcome h nofun
    cases hhandshake with
    | notResponding echoed other => exact ⟨query, _, hquery, Or.inl ⟨other, echoed.result⟩⟩
    | unbound echoed asked reason unlisted =>
      exact ⟨query, _, hquery, Or.inr ⟨_, echoed.result, unlisted, asked.result⟩⟩
  · rintro ⟨query, answer, hquery, ⟨hother, hecho⟩ | ⟨middle, hgreeted, hunlisted, hask⟩⟩
    · rw [connect_of_not_responding (Query.frame_of_carries hquery) hecho hother] at h
      exact ⟨_, (Prod.mk.inj h).1.symm⟩
    · rw [connect_of_answer (Query.frame_of_carries hquery) hgreeted hask] at h
      cases hreply : ofReply options answer with
      | ok session => exact absurd (ofReply_eq_ok_iff.mp hreply).1 hunlisted
      | error fault =>
        rw [hreply] at h
        exact ⟨fault, (Prod.mk.inj h).1.symm⟩

theorem kind_of_failed {error : Error}
    (h : connect descriptors options before = (.failed error, after)) :
    error.kind = .transport ∨ error.kind = .handshake ∨ error.kind = .invalidArgument := by
  by_cases hunpackable : Unpackable descriptors
  · obtain ⟨fault, hfault⟩ := (refused_iff_unpackable h).mpr hunpackable
    obtain rfl := Outcome.failed.inj hfault
    exact Or.inr (Or.inr rfl)
  · obtain ⟨query, hquery⟩ := Query.exists_carries hunpackable
    rcases (connect_handshake (Query.frame_of_carries hquery) h).kind_of_failed with hkind | hkind
    · exact Or.inl hkind
    · exact Or.inr (Or.inl hkind)

end Session

/-- The verdict on every handshake, whatever is asked for and however the stream behaves. -/
theorem connect_verdict (descriptors : List Descriptor) (options : ConnectOptions)
    (stream : Stream) :
    ConnectVerdict descriptors options stream (Session.connect descriptors options stream).1
      (Session.connect descriptors options stream).2 := by
  rcases h : Session.connect descriptors options stream with ⟨outcome, after⟩
  constructor
  · exact Session.refused_iff_unpackable h
  · exact Session.untouched_of_unpackable h
  · intro hpackable
    obtain ⟨query, hquery⟩ := Query.exists_carries hpackable
    have hhandshake := Session.connect_handshake (Query.frame_of_carries hquery) h
    exact ⟨query, hquery, hhandshake, hhandshake.asking⟩
  · exact Session.bound_iff_listed h
  · rintro session rfl
    exact Session.moved_of_bound h
  · exact Session.transport_iff_exchange_failed h
  · exact Session.handshake_iff_wrong_answer h
  · rintro error rfl
    exact Session.kind_of_failed h

end RegisterLink
