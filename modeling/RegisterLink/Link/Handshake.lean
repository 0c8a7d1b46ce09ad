import RegisterLink.Link.Session

/-!
# Binding a device

The handshake asks the server for a sign of life, then for the devices that satisfy a list of
descriptors, and binds one of them. Descriptors that cannot be packed are refused before anything
is sent.
-/
namespace RegisterLink

def Query.frame (descriptors : List Descriptor) : Except Error Frame := do
  let body ← (Query.encode descriptors).mapError .invalidArgument
  Command.query.frame body

/-- Binds one of the devices that satisfy the descriptors. -/
def Session.connect (descriptors : List Descriptor) (options : ConnectOptions) :
    Action Stream Session := do
  let query ← Action.ofExcept (Query.frame descriptors)
  let echo ← Stream.exchange options.limit (Frame.empty .echoRequest)
  if echo.isEmptyOf .echoReply then
    let reply ← Stream.exchange options.limit query
    Action.ofExcept ((Session.ofReply options reply).mapError .handshake)
  else
    Action.fail (.handshake (.notResponding echo))

end RegisterLink
