import RegisterLink.Limits

/-!
# Malformed bodies

The reasons for which received bytes are not the body they should be. Each names the sizes that
disagree.
-/
namespace RegisterLink

inductive Malformed where
  | versionTooShort (size : Nat)
  | descriptorTooShort (size : Nat)
  | wrongReadRequestSize (size : Nat)
  | writeRequestTooShort (size : Nat)
  | writeRequestMismatch (declared carried : Nat)
  | wrongReadResponseSize (size : Nat)
  | partialDescriptor (size : Nat)
  | partialEntry (size : Nat)
  | reportTooShort (size : Nat)
  deriving DecidableEq, Repr

def Malformed.detail : Malformed → String
  | versionTooShort size => s!"version too short: {size} bytes"
  | descriptorTooShort size => s!"query item too short: {size} bytes"
  | wrongReadRequestSize size => s!"read request must be {accessHeaderSize} bytes, got {size}"
  | writeRequestTooShort size => s!"write request too short: {size} bytes"
  | writeRequestMismatch declared carried =>
    s!"write request declares {declared} bytes, carries {carried}"
  | wrongReadResponseSize size => s!"read response must be {readResponseSize} bytes, got {size}"
  | partialDescriptor size => s!"query body of {size} bytes is not a whole number of items"
  | partialEntry size => s!"query response of {size} bytes is not a whole number of pairs"
  | reportTooShort size => s!"error message too short: {size} bytes"

end RegisterLink
