import Mathlib.Data.List.Basic
import RegisterLink.Connection
import RegisterLink.Proofs.Text.Numeral

/-!
# Addresses of endpoints

An address is read as an endpoint exactly when it has one of three forms: a literal in brackets, a
host without a colon, either of them with or without a port, or a bare literal with two colons or
more. Only the host without brackets is checked not to be missing. Every other text is refused, and
then no connection is attempted.
-/
namespace RegisterLink.Endpoint

/-- A port in digits; zeros and one plus sign may come before. -/
inductive PortText : List Char → UInt16 → Prop
  | plain {text : List Char} {port : UInt16} (numeral : Numeral text port.toNat) :
      PortText text port
  | signed {text : List Char} {port : UInt16} (numeral : Numeral text port.toNat) :
      PortText ('+' :: text) port

/-- What may follow a host: nothing, or a colon and a port. -/
inductive PortPart : List Char → UInt16 → Prop
  | absent : PortPart [] 8896
  | given {text : List Char} {port : UInt16} (port_text : PortText text port) :
      PortPart (':' :: text) port

/-- The addresses of a host and a port. -/
inductive Addresses : List Char → List Char → UInt16 → Prop
  | literal {host tail : List Char} {port : UInt16} (closed : ']' ∉ host)
      (port_part : PortPart tail port) : Addresses ('[' :: (host ++ ']' :: tail)) host port
  | host {host tail : List Char} {port : UInt16} (given : host ≠ [])
      (unbracketed : host.head? ≠ some '[') (no_colon : ':' ∉ host)
      (port_part : PortPart tail port) : Addresses (host ++ tail) host port
  | bare {host : List Char} (unbracketed : host.head? ≠ some '[')
      (colons : 2 ≤ host.count ':') : Addresses host host 8896

/-! ## Ports -/

theorem ofNat_value?_eq_some_iff {text : List Char} {port : UInt16} :
    (Decimal.value? maxPort text).map UInt16.ofNat = some port ↔ Numeral text port.toNat := by
  rw [Option.map_eq_some_iff]
  constructor
  · rintro ⟨value, hvalue, rfl⟩
    obtain ⟨hnumeral, hfits⟩ := Decimal.value?_eq_some_iff.mp hvalue
    rw [maxPort] at hfits
    rwa [UInt16.toNat_ofNat', Nat.mod_eq_of_lt (by omega)]
  · intro hnumeral
    have hfits : port.toNat ≤ maxPort := Nat.le_of_lt_succ port.toNat_lt
    exact ⟨_, Decimal.value?_eq_some_iff.mpr ⟨hnumeral, hfits⟩, UInt16.ofNat_toNat⟩

theorem port?_eq_some_iff {text : List Char} {port : UInt16} :
    port? text = some port ↔ PortText text port := by
  unfold port?
  split
  · rw [ofNat_value?_eq_some_iff]
    constructor
    · exact .signed
    · rintro (hnumeral | hnumeral)
      · exact absurd List.mem_cons_self (hnumeral.not_mem (c := '+') rfl)
      · exact hnumeral
  · rename_i hunsigned
    rw [ofNat_value?_eq_some_iff]
    constructor
    · exact .plain
    · rintro (hnumeral | hnumeral)
      · exact hnumeral
      · exact absurd rfl (hunsigned _)

theorem PortText.no_colon {text : List Char} {port : UInt16} (h : PortText text port) :
    ':' ∉ text := by
  cases h with
  | plain numeral => exact numeral.not_mem rfl
  | signed numeral =>
    rw [List.mem_cons, not_or]
    exact ⟨by decide, numeral.not_mem rfl⟩

theorem portText_digits (port : UInt16) : PortText (Decimal.digits port.toNat) port :=
  .plain (Decimal.numeral_digits _)

theorem portAfterLiteral_colon {text : List Char} {port : UInt16} :
    portAfterLiteral (':' :: text) = .ok port ↔ PortText text port := by
  rw [← port?_eq_some_iff, portAfterLiteral]
  cases port? text <;> simp

theorem portAfterLiteral_eq_ok_iff {tail : List Char} {port : UInt16} :
    portAfterLiteral tail = .ok port ↔ PortPart tail port := by
  constructor
  · intro h
    rcases tail with _ | ⟨c, text⟩
    · obtain rfl := Except.ok.inj h
      exact .absent
    · by_cases hcolon : c = ':'
      · subst hcolon
        exact .given (portAfterLiteral_colon.mp h)
      · have hbad : portAfterLiteral (c :: text) = .error .badPort := by
          simp [portAfterLiteral, hcolon]
        rw [hbad] at h
        cases h
  · intro h
    cases h with
    | absent => rfl
    | given port_text => exact portAfterLiteral_colon.mpr port_text

/-! ## Literals in brackets -/

theorem ofLiteral_of_unclosed {text : List Char} (h : ']' ∉ text) :
    ofLiteral text = .error .unterminatedLiteral := by
  rw [ofLiteral, Text.splitFirst_eq_none_iff.mpr h]

theorem ofLiteral_of_closed {host : List Char} (tail : List Char) (h : ']' ∉ host) :
    ofLiteral (host ++ ']' :: tail) =
      (portAfterLiteral tail).map fun port => ⟨String.ofList host, port⟩ := by
  rw [ofLiteral, Text.splitFirst_append tail h]
  show (do return Endpoint.mk (String.ofList host) (← portAfterLiteral tail)) = _
  cases portAfterLiteral tail <;> rfl

theorem addresses_of_ofLiteral {text : List Char} {endpoint : Endpoint}
    (h : ofLiteral text = .ok endpoint) :
    Addresses ('[' :: text) endpoint.host.toList endpoint.port := by
  cases hsplit : Text.splitFirst ']' text with
  | none =>
    rw [ofLiteral_of_unclosed (Text.splitFirst_eq_none_iff.mp hsplit)] at h
    cases h
  | some halves =>
    obtain ⟨host, tail⟩ := halves
    obtain ⟨rfl, hclosed⟩ := Text.eq_of_splitFirst hsplit
    rw [ofLiteral_of_closed tail hclosed] at h
    cases hport : portAfterLiteral tail with
    | error fault =>
      rw [hport] at h
      cases h
    | ok port =>
      rw [hport] at h
      obtain rfl := Except.ok.inj h
      rw [String.toList_ofList]
      exact .literal hclosed (portAfterLiteral_eq_ok_iff.mp hport)

/-! ## Hosts and bare literals -/

theorem ofPlain_of_no_colon {text : List Char} (h : ':' ∉ text) :
    ofPlain text = named text defaultPort := by
  rw [ofPlain, Text.splitFirst_eq_none_iff.mpr h]

theorem ofPlain_of_colon {host tail : List Char} (hhost : ':' ∉ host) (htail : ':' ∉ tail) :
    ofPlain (host ++ ':' :: tail) = (port? tail).elim (.error .badPort) (named host) := by
  rw [ofPlain, Text.splitFirst_append tail hhost]
  show (if ':' ∈ tail then _ else _) = _
  rw [if_neg htail]
  cases port? tail <;> rfl

theorem ofPlain_of_colons {host tail : List Char} (hhost : ':' ∉ host) (htail : ':' ∈ tail) :
    ofPlain (host ++ ':' :: tail) = .ok ⟨String.ofList (host ++ ':' :: tail), 8896⟩ := by
  rw [ofPlain, Text.splitFirst_append tail hhost]
  show (if ':' ∈ tail then _ else _) = _
  rw [if_pos htail]
  rfl

theorem named_eq_ok_iff {host : List Char} {port : UInt16} {endpoint : Endpoint} :
    named host port = .ok endpoint ↔ host ≠ [] ∧ endpoint = ⟨String.ofList host, port⟩ := by
  rw [named]
  by_cases hhost : host = [] <;> simp [hhost, eq_comm]

theorem addresses_of_ofPlain {text : List Char} {endpoint : Endpoint}
    (hplain : text.head? ≠ some '[') (h : ofPlain text = .ok endpoint) :
    Addresses text endpoint.host.toList endpoint.port := by
  cases hsplit : Text.splitFirst ':' text with
  | none =>
    have hcolon := Text.splitFirst_eq_none_iff.mp hsplit
    rw [ofPlain_of_no_colon hcolon] at h
    obtain ⟨hgiven, rfl⟩ := named_eq_ok_iff.mp h
    have haddress := Addresses.host hgiven hplain hcolon .absent
    rw [List.append_nil] at haddress
    rw [String.toList_ofList]
    exact haddress
  | some halves =>
    obtain ⟨host, tail⟩ := halves
    obtain ⟨rfl, hhost⟩ := Text.eq_of_splitFirst hsplit
    by_cases htail : ':' ∈ tail
    · rw [ofPlain_of_colons hhost htail] at h
      obtain rfl := Except.ok.inj h
      have hcount : 0 < tail.count ':' := List.count_pos_iff.mpr htail
      rw [String.toList_ofList]
      refine .bare hplain ?_
      rw [List.count_append, List.count_cons_self]
      omega
    · rw [ofPlain_of_colon hhost htail] at h
      cases hport : port? tail with
      | none =>
        rw [hport] at h
        cases h
      | some port =>
        rw [hport] at h
        obtain ⟨hgiven, rfl⟩ := named_eq_ok_iff.mp h
        rw [List.head?_append_of_ne_nil _ hgiven] at hplain
        rw [String.toList_ofList]
        exact .host hgiven hplain hhost (.given (port?_eq_some_iff.mp hport))

theorem ofPlain_of_part {host tail : List Char} {port : UInt16} (hgiven : host ≠ [])
    (hcolon : ':' ∉ host) (hpart : PortPart tail port) :
    ofPlain (host ++ tail) = .ok ⟨String.ofList host, port⟩ := by
  cases hpart with
  | absent =>
    rw [List.append_nil, ofPlain_of_no_colon hcolon]
    exact named_eq_ok_iff.mpr ⟨hgiven, rfl⟩
  | given port_text =>
    rw [ofPlain_of_colon hcolon port_text.no_colon, port?_eq_some_iff.mpr port_text]
    exact named_eq_ok_iff.mpr ⟨hgiven, rfl⟩

theorem ofPlain_of_count {text : List Char} (h : 2 ≤ text.count ':') :
    ofPlain text = .ok ⟨String.ofList text, 8896⟩ := by
  have hcolon : ':' ∈ text := List.count_pos_iff.mp (Nat.lt_of_lt_of_le (by decide) h)
  cases hsplit : Text.splitFirst ':' text with
  | none => exact absurd hcolon (Text.splitFirst_eq_none_iff.mp hsplit)
  | some halves =>
    obtain ⟨host, tail⟩ := halves
    obtain ⟨rfl, hhost⟩ := Text.eq_of_splitFirst hsplit
    rw [List.count_append, List.count_cons_self, List.count_eq_zero.mpr hhost] at h
    exact ofPlain_of_colons hhost (List.count_pos_iff.mp (by omega))

/-! ## All addresses -/

theorem ofChars_of_unbracketed {text : List Char} (h : text.head? ≠ some '[') :
    ofChars text = ofPlain text := by
  rcases text with _ | ⟨c, rest⟩
  · rfl
  · have hbracket : c ≠ '[' := fun heq => h (congrArg some heq)
    simp [ofChars, hbracket]

theorem addresses_of_ofChars {text : List Char} {endpoint : Endpoint}
    (h : ofChars text = .ok endpoint) :
    Addresses text endpoint.host.toList endpoint.port := by
  by_cases hbracket : text.head? = some '['
  · obtain ⟨rest, rfl⟩ := List.head?_eq_some_iff.mp hbracket
    exact addresses_of_ofLiteral h
  · rw [ofChars_of_unbracketed hbracket] at h
    exact addresses_of_ofPlain hbracket h

theorem ofChars_of_addresses {text host : List Char} {port : UInt16}
    (h : Addresses text host port) : ofChars text = .ok ⟨String.ofList host, port⟩ := by
  cases h with
  | literal closed port_part =>
    show ofLiteral _ = _
    rw [ofLiteral_of_closed _ closed, portAfterLiteral_eq_ok_iff.mpr port_part]
    rfl
  | host given unbracketed no_colon port_part =>
    rw [← List.head?_append_of_ne_nil _ given] at unbracketed
    rw [ofChars_of_unbracketed unbracketed, ofPlain_of_part given no_colon port_part]
  | bare unbracketed colons =>
    rw [ofChars_of_unbracketed unbracketed, ofPlain_of_count colons]

theorem parse_eq_ok_iff {address : String} {endpoint : Endpoint} :
    parse address = .ok endpoint ↔
      Addresses address.toList endpoint.host.toList endpoint.port := by
  rw [parse]
  constructor
  · intro h
    cases hchars : ofChars address.toList with
    | error fault =>
      rw [hchars] at h
      cases h
    | ok found =>
      rw [hchars] at h
      obtain rfl := Except.ok.inj h
      exact addresses_of_ofChars hchars
  · intro h
    rw [ofChars_of_addresses h, String.ofList_toList]
    rfl

theorem exists_fault {address : String}
    (h : ∀ host port, ¬ Addresses address.toList host port) :
    ∃ fault, parse address = .error (.address fault address) := by
  rw [parse]
  cases hchars : ofChars address.toList with
  | error fault => exact ⟨fault, rfl⟩
  | ok endpoint => exact absurd (addresses_of_ofChars hchars) (h _ _)

theorem parse_of_addresses {text host : List Char} {port : UInt16} (h : Addresses text host port) :
    parse (String.ofList text) = .ok ⟨String.ofList host, port⟩ := by
  rw [parse_eq_ok_iff, String.toList_ofList, String.toList_ofList]
  exact h

theorem connect_of_malformed {ω σ : Type} (network : Network ω σ) {settings : ConnectionSettings}
    {fault : InvalidArgument} (h : settings.endpoint = .error fault) (world : ω) :
    settings.connect network world = (.failed (.invalidArgument fault), world) := by
  rw [ConnectionSettings.connect, h]
  exact Action.bind_of_failed rfl

/-- An address is read as an endpoint exactly if it is one of the endpoint's host and port. Any
other is refused, and a connection to it fails with that same fault before the network is asked. In
particular a port in decimal may follow every host, with or without brackets. -/
theorem address_accepted_exactly :
    (∀ address endpoint, parse address = .ok endpoint ↔
      Addresses address.toList endpoint.host.toList endpoint.port) ∧
    (∀ address, (∀ host port, ¬ Addresses address.toList host port) →
      ∃ fault, parse address = .error (.address fault address) ∧
        ∀ (ω σ : Type) (network : Network ω σ) (settings : ConnectionSettings) (world : ω),
          settings.address = address → settings.connect network world =
            (.failed (.invalidArgument (.address fault address)), world)) ∧
    ∀ (host : List Char) (port : UInt16),
      (host ≠ [] → host.head? ≠ some '[' → ':' ∉ host →
        parse (String.ofList (host ++ ':' :: Decimal.digits port.toNat)) =
          .ok ⟨String.ofList host, port⟩) ∧
      (']' ∉ host →
        parse (String.ofList ('[' :: (host ++ ']' :: ':' :: Decimal.digits port.toNat))) =
          .ok ⟨String.ofList host, port⟩) := by
  refine ⟨fun address endpoint => parse_eq_ok_iff, fun address hnone => ?_, fun host port => ?_⟩
  · obtain ⟨fault, hparse⟩ := exists_fault hnone
    refine ⟨fault, hparse, fun ω σ network settings world hsettings => ?_⟩
    subst hsettings
    exact connect_of_malformed network hparse world
  · have hpart : PortPart (':' :: Decimal.digits port.toNat) port := .given (portText_digits port)
    exact ⟨fun hgiven hplain hcolon => parse_of_addresses (.host hgiven hplain hcolon hpart),
      fun hclosed => parse_of_addresses (.literal hclosed hpart)⟩

/-- An address in brackets with a signed port, a bracket in a host, and a port without a host, for
which a network that counts its attempts is never asked. -/
theorem address_accepted_loopback :
    let loopback : Endpoint := ⟨"::1", 8890⟩
    let network : Network Nat Unit :=
      { attempt := fun _ attempts => (.done (), attempts + 1)
        cutShort := fun _ act => some <$> act
        setNoDelay := fun _ _ attempts => attempts }
    let settings : ConnectionSettings := { address := ":8890" }
    parse "[::1]:+08890" = .ok loopback ∧
      (∃ fault, parse ":8890" = .error (.address fault ":8890") ∧
        settings.connect network 0 =
          (.failed (.invalidArgument (.address fault ":8890")), 0)) ∧
      parse (String.ofList ("fpga[".toList ++ ':' :: Decimal.digits 65535)) =
        .ok ⟨String.ofList "fpga[".toList, 65535⟩ ∧
      parse (String.ofList ('[' :: ("fe80::1".toList ++ ']' :: ':' :: Decimal.digits 0))) =
        .ok ⟨String.ofList "fe80::1".toList, 0⟩ := by
  intro loopback network settings
  have hport : PortText "+08890".toList 8890 := port?_eq_some_iff.mp (by decide +kernel)
  have haddress : Addresses "[::1]:+08890".toList "::1".toList 8890 := by
    have htext : "[::1]:+08890".toList = '[' :: ("::1".toList ++ ']' :: ':' :: "+08890".toList) :=
      by decide +kernel
    rw [htext]
    exact .literal (by decide) (.given hport)
  have hmalformed : ∀ host port, ¬ Addresses ":8890".toList host port := by
    intro host port h
    have hfault : ofChars ":8890".toList = .error .missingHost := by decide +kernel
    rw [ofChars_of_addresses h] at hfault
    cases hfault
  obtain ⟨fault, hparse, hconnect⟩ := address_accepted_exactly.2.1 ":8890" hmalformed
  exact ⟨(address_accepted_exactly.1 _ loopback).mpr haddress,
    ⟨fault, hparse, hconnect Nat Unit network settings 0 rfl⟩,
    (address_accepted_exactly.2.2 "fpga[".toList 65535).1 (by decide) (by decide) (by decide),
    (address_accepted_exactly.2.2 "fe80::1".toList 0).2 (by decide)⟩

/-! ## Missing hosts -/

/-- Brackets with nothing in them, and what may follow. -/
def EmptyLiteral (text : List Char) : Prop :=
  ∃ tail port, text = '[' :: ']' :: tail ∧ PortPart tail port

theorem emptyLiteral_of_addresses {text host : List Char} {port : UInt16}
    (h : Addresses text host port) (hhost : host = []) : EmptyLiteral text := by
  subst hhost
  cases h with
  | literal _ port_part => exact ⟨_, _, rfl, port_part⟩
  | host given => exact absurd rfl given
  | bare _ colons => exact absurd colons (by decide)

/-- An address can be accepted without the name of a host only if there is nothing in its brackets,
and then it is. -/
theorem host_given_iff (address : String) :
    (∀ endpoint, parse address = .ok endpoint → endpoint.host ≠ "") ↔
      ¬ EmptyLiteral address.toList := by
  constructor
  · rintro hgiven ⟨tail, port, htext, hpart⟩
    have hparse : parse address = .ok ⟨"", port⟩ :=
      parse_eq_ok_iff.mpr (htext ▸ .literal List.not_mem_nil hpart)
    exact hgiven _ hparse rfl
  · intro hfilled endpoint hparse hhost
    exact hfilled (emptyLiteral_of_addresses (parse_eq_ok_iff.mp hparse)
      (String.toList_eq_nil_iff.mpr hhost))

theorem empty_literal_accepted :
    ¬ ∀ address endpoint, parse address = .ok endpoint → endpoint.host ≠ "" := by
  intro hgiven
  exact hgiven "[]" ⟨"", 8896⟩ (by decide +kernel) rfl

end RegisterLink.Endpoint
