import RegisterLink.Descriptor

/-!
# Queries

A query lists descriptors one behind the other, each packed to the same size, so that the number
of descriptors follows from the length. The answer lists the devices found, two bytes for each.
-/
namespace RegisterLink

namespace Query

/-- Packs descriptors one behind the other; the first that is refused decides. -/
def encodeItems : List Descriptor → Except InvalidArgument (List UInt8)
  | [] => .ok []
  | descriptor :: rest => do
    let item ← descriptor.encode
    let items ← encodeItems rest
    return item ++ items

/-- The body of a query. Refuses more descriptors than one frame can carry, before it looks at any
of them. -/
def encode (descriptors : List Descriptor) : Except InvalidArgument (List UInt8) :=
  if maxBodySize < descriptors.length * descriptorSize then
    .error (.tooManyDescriptors descriptors.length)
  else
    encodeItems descriptors

/-- Reads descriptors until no byte is left. -/
def decodeItems (body : List UInt8) : Except Malformed (List Descriptor) :=
  if body = [] then
    .ok []
  else
    match _ : Descriptor.consume body with
    | (.error fault, _) => .error fault
    | (.ok descriptor, rest) => do
      let descriptors ← decodeItems rest
      return descriptor :: descriptors
termination_by body.length
decreasing_by
  exact Descriptor.length_lt_of_consume ‹_›

/-- Reads the body of a query: a whole number of descriptors. -/
def decode (body : List UInt8) : Except Malformed (List Descriptor) :=
  if body.length % descriptorSize = 0 then
    decodeItems body
  else
    .error (.partialDescriptor body.length)

end Query

/-- A device the server found: the index of its type and the id to address it by. -/
structure DeviceEntry where
  typeIndex : UInt8
  deviceId : UInt8
  deriving DecidableEq, Repr

namespace QueryResponse

/-- The body that lists the given devices. -/
def encode (entries : List DeviceEntry) : List UInt8 :=
  entries.flatMap fun entry => [entry.typeIndex, entry.deviceId]

/-- The entries of a body, in order; a byte left over is dropped. -/
def entries : List UInt8 → List DeviceEntry
  | typeIndex :: deviceId :: rest => ⟨typeIndex, deviceId⟩ :: entries rest
  | _ => []

/-- Reads a body: a whole number of entries. -/
def decode (body : List UInt8) : Except Malformed (List DeviceEntry) :=
  if body.length % 2 = 0 then .ok (entries body) else .error (.partialEntry body.length)

end QueryResponse

end RegisterLink
