import RegisterLink.Action
import RegisterLink.Endpoint

/-!
# Opening a connection

The settings name a server by its address; the network does the rest. What the network does is
taken as given: how an attempt to reach an endpoint ends, and what becomes of one that is cut short
after a time. Only an address that is one of an endpoint gets as far as the network.
-/
namespace RegisterLink

/-- What lies beyond the settings: `ω` is the state of the network, `σ` the streams it opens. -/
structure Network (ω σ : Type) where
  /-- Resolves the host and opens a stream, however long that takes. -/
  attempt : Endpoint → Action ω σ
  /-- Goes on with an attempt for so many milliseconds at most; no stream if that was too short. -/
  cutShort : Nat → Action ω σ → Action ω (Option σ)
  /-- Asks for small requests to go out at once, or not to. It does not matter if that fails. -/
  setNoDelay : Bool → σ → ω → ω

namespace ConnectionSettings

variable {ω σ : Type}

/-- A stream within the limit for setting it up, if there is one. -/
def attemptWithin (settings : ConnectionSettings) (network : Network ω σ) (endpoint : Endpoint) :
    Action ω σ :=
  match settings.connectLimit with
  | none => network.attempt endpoint
  | some limit => do
    match ← network.cutShort limit (network.attempt endpoint) with
    | some stream => return stream
    | none => Action.fail (.transport (.noConnection settings.address))

/-- Opens a stream to the server. A malformed address is refused before the network is asked. -/
def connect (settings : ConnectionSettings) (network : Network ω σ) : Action ω σ := do
  let endpoint ← Action.ofExcept (settings.endpoint.mapError .invalidArgument)
  let stream ← settings.attemptWithin network endpoint
  fun world => (.done stream, network.setNoDelay settings.noDelay stream world)

end ConnectionSettings

end RegisterLink
