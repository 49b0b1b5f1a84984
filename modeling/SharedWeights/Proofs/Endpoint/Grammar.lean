/-
**What is read as an endpoint.**

A text is read as an endpoint if it is a host, a colon and a numeral for a port, with the scheme in
front or with no scheme at all. The reader looks for three marks, one after the other: the end of a
scheme anywhere in the text, then the one scheme at its front, then the last colon of what is left.
So the first thing that is missing decides on the error, and the scheme on nothing else:

* `address?_eq_some_iff`, `address?_eq_none_iff`: what of a text is its address, if anything is;
* `reading_parse`, `parse_eq_iff`: a text is read in one of four ways, which its shape decides;
* `parse_of_same_address`: texts of the same address are read alike;
* `read_by_address`: both together.
-/

import SharedWeights.Proofs.Endpoint.Display
import SharedWeights.Proofs.Text.Numeral

namespace SharedWeights

/-- The same error, about another text. -/
def EndpointError.about (text : String) : EndpointError → EndpointError
  | .unsupportedScheme _ => .unsupportedScheme text
  | .missingPort _ => .missingPort text
  | .invalidPort _ => .invalidPort text

theorem Text.splitLast?_eq_none_iff {mark : Char} {text : List Char} :
    splitLast? mark text = none ↔ mark ∉ text := by
  constructor
  · intro nothing inside
    unfold splitLast? at nothing
    split at nothing
    · next all =>
      have whole := List.takeWhile_append_dropWhile (p := (· != mark)) (l := text.reverse)
      rw [all, List.append_nil] at whole
      have passed := List.all_takeWhile (p := (· != mark)) (l := text.reverse)
      rw [whole] at passed
      simpa using List.all_eq_true.1 passed mark (List.mem_reverse.2 inside)
    · cases nothing
  · intro nowhere
    cases found : splitLast? mark text with
    | none => rfl
    | some parts =>
      obtain ⟨rfl, -⟩ := splitLast?_eq_some_iff.1 found
      simp at nowhere

namespace Endpoint

/-! ### Addresses -/

/-- The address in a text: what follows the scheme, or all of a text that has no scheme. -/
inductive Addresses : List Char → List Char → Prop
  | schemed (address : List Char) : Addresses (scheme ++ address) address
  | bare {text : List Char} (bare : ¬ schemeEnd <:+: text) : Addresses text text

theorem address?_eq_some_iff {text address : List Char} :
    address? text = some address ↔ Addresses text address := by
  constructor
  · intro found
    unfold address? at found
    split at found
    · split at found
      · next front =>
        obtain ⟨rest, rfl⟩ := List.isPrefixOf_iff_prefix.1 front
        rw [List.drop_left] at found
        cases found
        exact .schemed address
      · cases found
    · next bare =>
      cases found
      exact .bare (mt Text.mentions_iff.2 bare)
  · rintro (_ | bare)
    · exact address?_of_scheme address
    · exact address?_of_bare (Bool.eq_false_iff.2 (mt Text.mentions_iff.1 bare))

theorem address?_eq_none_iff {text : List Char} :
    address? text = none ↔ schemeEnd <:+: text ∧ ¬ scheme <+: text := by
  rw [address?, ← Text.mentions_iff, ← List.isPrefixOf_iff_prefix]
  split <;> simp_all

/-! ### The four ways in which a text is read -/

/-- How a text is read: as an endpoint, or as none because another scheme ends in it, because its
address has no port, or because what stands for the port is no number of one. -/
inductive Reading (text : String) : Except EndpointError Endpoint → Prop
  | endpoint {host numeral : List Char} {port : UInt16}
      (addressed : Addresses text.toList (host ++ ':' :: numeral)) (last : ':' ∉ numeral)
      (stated : Text.Numeral.Denotes numeral port.toNat) :
    Reading text (.ok ⟨String.ofList host, port⟩)
  | foreign (mentioned : schemeEnd <:+: text.toList) (other : ¬ scheme <+: text.toList) :
    Reading text (.error (.unsupportedScheme text))
  | portless {address : List Char} (addressed : Addresses text.toList address)
      (portless : ':' ∉ address ∨ [':'] <:+ address) :
    Reading text (.error (.missingPort text))
  | invalid {host rest : List Char} (addressed : Addresses text.toList (host ++ ':' :: rest))
      (last : ':' ∉ rest) (something : rest ≠ [])
      (unstated : ∀ port : UInt16, ¬ Text.Numeral.Denotes rest port.toNat) :
    Reading text (.error (.invalidPort text))

/-- The numerals of ports are those that are read as such. -/
theorem denotes_port_iff {rest : List Char} {port : UInt16} :
    Text.Numeral.Denotes rest port.toNat ↔ Text.Numeral.read 0xffff rest = .ok port.toNat := by
  rw [Text.Numeral.read_eq_ok_iff_denotes]
  exact ⟨fun stated => ⟨stated, Nat.le_of_lt_succ port.toNat_lt⟩, And.left⟩

theorem denotes_of_read_port {rest : List Char} {number : Nat}
    (read : Text.Numeral.read 0xffff rest = .ok number) :
    Text.Numeral.Denotes rest (UInt16.ofNat number).toNat := by
  obtain ⟨stated, within⟩ := Text.Numeral.read_eq_ok_iff_denotes.1 read
  rw [UInt16.toNat_ofNat_of_lt' (Nat.lt_succ_of_le within)]
  exact stated

/-- **Every text is read in one of the four ways.** -/
theorem reading_parse (text : String) : Reading text (parse text) := by
  unfold parse
  split
  · next nowhere =>
    obtain ⟨mentioned, other⟩ := address?_eq_none_iff.1 nowhere
    exact .foreign mentioned other
  · next address found =>
    have addressed := address?_eq_some_iff.1 found
    split
    · next whole => exact .portless addressed (.inl (Text.splitLast?_eq_none_iff.1 whole))
    · next host rest parted =>
      obtain ⟨rfl, last⟩ := Text.splitLast?_eq_some_iff.1 parted
      split
      · next nothing => exact .portless addressed (.inr ⟨host, by rw [nothing]⟩)
      · next something =>
        split
        · next number read => exact .endpoint addressed last (denotes_of_read_port read)
        · next fault refused =>
          refine .invalid addressed last something fun port stated => ?_
          rw [denotes_port_iff.1 stated] at refused
          cases refused

/-- **And in no other.** -/
theorem parse_of_reading {text : String} {result : Except EndpointError Endpoint}
    (reading : Reading text result) : parse text = result := by
  cases reading with
  | @endpoint host rest port addressed last stated =>
    rw [parse_of_address (address?_eq_some_iff.2 addressed) last (denotes_port_iff.1 stated),
      UInt16.ofNat_toNat]
  | foreign mentioned other => rw [parse, address?_eq_none_iff.2 ⟨mentioned, other⟩]
  | portless addressed portless =>
    rw [parse, address?_eq_some_iff.2 addressed]
    dsimp only
    rcases portless with nowhere | ⟨host, rfl⟩
    · rw [Text.splitLast?_eq_none_iff.2 nowhere]
    · rw [Text.splitLast?_append List.not_mem_nil]
      rfl
  | @invalid host rest addressed last something unstated =>
    rw [parse, address?_eq_some_iff.2 addressed]
    dsimp only
    rw [Text.splitLast?_append last]
    dsimp only
    rw [if_neg something]
    cases read : Text.Numeral.read 0xffff rest with
    | ok number => exact absurd (denotes_of_read_port read) (unstated (UInt16.ofNat number))
    | error fault => rfl

/-- **The shape of a text decides how it is read.** -/
theorem parse_eq_iff {text : String} {result : Except EndpointError Endpoint} :
    parse text = result ↔ Reading text result :=
  ⟨fun read => read ▸ reading_parse text, parse_of_reading⟩

/-! ### The scheme -/

/-- **Texts of the same address are read alike**, but for the text that an error is about. -/
theorem parse_of_same_address {text other : String} {address : List Char}
    (addressed : Addresses text.toList address) (otherwise : Addresses other.toList address) :
    parse other = (parse text).mapError (EndpointError.about other) := by
  rw [parse, parse, address?_eq_some_iff.2 addressed, address?_eq_some_iff.2 otherwise]
  dsimp only
  split
  · rfl
  · split
    · rfl
    · split <;> rfl

/-- **An endpoint is read by its address, with the scheme or without.** A text is read as an
endpoint exactly if its address is the host, a colon, and behind this last colon a numeral for the
port. If it has the end of a scheme, but not the one scheme in front, the scheme is unsupported; if
there is no colon in its address, or nothing behind the last, the port is missing; and else it is
invalid. Every error is about the text itself. So a text without any scheme is read as it would be
behind the one scheme. -/
theorem read_by_address (text : String) :
    (∀ result, parse text = result ↔ Reading text result) ∧
      (¬ schemeEnd <:+: text.toList →
        parse (String.ofList scheme ++ text) =
          (parse text).mapError (EndpointError.about (String.ofList scheme ++ text))) := by
  refine ⟨fun result => parse_eq_iff, fun bare => ?_⟩
  have schemed : Addresses (String.ofList scheme ++ text).toList text.toList := by
    rw [String.toList_append, String.toList_ofList]
    exact .schemed text.toList
  exact parse_of_same_address (.bare bare) schemed

/-- A text with a colon for its host and a zero in front of its port; and the same with another
digit behind them. -/
theorem read_by_address_of_marks :
    let text := "::+065535"
    let beyond := "::+0655350"
    (¬ schemeEnd <:+: text.toList ∧ parse text = .ok ⟨":", 65535⟩ ∧
      parse (String.ofList scheme ++ text) = .ok ⟨":", 65535⟩) ∧
    ¬ schemeEnd <:+: beyond.toList ∧ parse beyond = .error (.invalidPort beyond) ∧
      parse (String.ofList scheme ++ beyond) =
        .error (.invalidPort (String.ofList scheme ++ beyond)) := by
  intro text beyond
  have bare : ¬ schemeEnd <:+: text.toList := mt Text.mentions_iff.2 (by decide)
  have alsoBare : ¬ schemeEnd <:+: beyond.toList := mt Text.mentions_iff.2 (by decide)
  have addressed : Addresses text.toList ([':'] ++ ':' :: ['+', '0', '6', '5', '5', '3', '5']) :=
    address?_eq_some_iff.1 (by decide)
  have alsoAddressed : Addresses beyond.toList
      ([':'] ++ ':' :: ['+', '0', '6', '5', '5', '3', '5', '0']) :=
    address?_eq_some_iff.1 (by decide)
  have digital : Text.Numeral.Digits ['0', '6', '5', '5', '3', '5'] := by decide
  have large : Text.Numeral.read 0xffff ['+', '0', '6', '5', '5', '3', '5', '0'] =
      .error .tooLarge := rfl
  have stated : Text.Numeral.Denotes ['+', '0', '6', '5', '5', '3', '5'] (65535 : UInt16).toNat :=
    .signed digital
  have read : parse text = .ok ⟨":", 65535⟩ :=
    ((read_by_address text).1 _).2 (.endpoint addressed (by decide) stated)
  have refused : parse beyond = .error (.invalidPort beyond) :=
    ((read_by_address beyond).1 _).2
      (.invalid alsoAddressed (by decide) (by decide) fun port stated =>
        nomatch large.symm.trans (denotes_port_iff.1 stated))
  have schemed := (read_by_address text).2 bare
  have schemedRefused := (read_by_address beyond).2 alsoBare
  rw [read] at schemed
  rw [refused] at schemedRefused
  exact ⟨⟨bare, read, schemed⟩, alsoBare, refused, schemedRefused⟩

end Endpoint

end SharedWeights
