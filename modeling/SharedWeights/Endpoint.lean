/-
**Where the service listens.**

An endpoint is a host and a port. It is written `tcp://host:port`; when it is read the scheme may be
left out. A star, or no host at all, stands for every interface of the machine.

* `address?_of_scheme`: behind the scheme anything may stand;
* `address?_of_bare`: a text without a scheme is an address as it is.
-/

import SharedWeights.Text.Numeral
import SharedWeights.Text.Quoted
import SharedWeights.Text.Split

namespace SharedWeights

/-- A host and a port. -/
structure Endpoint where
  host : String
  port : UInt16
deriving DecidableEq

/-- Why a text is no endpoint. -/
inductive EndpointError where
  | unsupportedScheme (text : String)
  | missingPort (text : String)
  | invalidPort (text : String)
deriving DecidableEq

/-- The error in words. -/
def EndpointError.message : EndpointError → String
  | .unsupportedScheme text =>
    "unsupported endpoint " ++ Text.quote text ++ ", only tcp:// is available"
  | .missingPort text => "endpoint " ++ Text.quote text ++ " has no port"
  | .invalidPort text => "endpoint " ++ Text.quote text ++ " has an invalid port"

namespace Endpoint

/-- What ends a scheme. -/
def schemeEnd : List Char := [':', '/', '/']

/-- The one scheme there is, with its end. -/
def scheme : List Char := ['t', 'c', 'p', ':', '/', '/']

/-- What follows the scheme, if there is one; nothing if it is another scheme. -/
def address? (text : List Char) : Option (List Char) :=
  if Text.mentions schemeEnd text then
    if scheme.isPrefixOf text then some (text.drop scheme.length) else none
  else some text

theorem address?_of_scheme (address : List Char) : address? (scheme ++ address) = some address := by
  have mentioned : Text.mentions schemeEnd (scheme ++ address) = true :=
    Text.mentions_iff.2 ⟨['t', 'c', 'p'], address, rfl⟩
  rw [address?, if_pos mentioned]
  rfl

theorem address?_of_bare {text : List Char} (bare : Text.mentions schemeEnd text = false) :
    address? text = some text := by
  simp [address?, bare]

/-- The endpoint that a text states. -/
def parse (text : String) : Except EndpointError Endpoint :=
  match address? text.toList with
  | none => .error (.unsupportedScheme text)
  | some address =>
    match Text.splitLast? ':' address with
    | none => .error (.missingPort text)
    | some (host, port) =>
      if port = [] then .error (.missingPort text)
      else
        match Text.Numeral.read 0xffff port with
        | .ok number => .ok ⟨String.ofList host, UInt16.ofNat number⟩
        | .error _ => .error (.invalidPort text)

/-- The written form of an endpoint. -/
def display (endpoint : Endpoint) : String :=
  String.ofList scheme ++ endpoint.host ++ ":" ++ toString endpoint.port.toNat

/-- The address to listen at. -/
def bindAddress (endpoint : Endpoint) : String :=
  let host := if endpoint.host = "*" ∨ endpoint.host = "" then "0.0.0.0" else endpoint.host
  host ++ ":" ++ toString endpoint.port.toNat

/-- The endpoint of a service that is not told otherwise. -/
def standard : Endpoint := ⟨"*", 8888⟩

end Endpoint

end SharedWeights
