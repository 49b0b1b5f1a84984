/-
**An endpoint is told by its written form.**

A host is taken as it is given. It may have colons in it, or a scheme, or nothing at all, so the
marks by which a written endpoint is parted may stand in many places. But the scheme is written in
front of the host, and behind the last colon there are only digits, so that the reader parts the
text where the writer put it together, whatever the host is:

* `read_toDigits`: a number within the limit reads back from its digits;
* `parse_of_address`: where a text is parted;
* `parse_display`: a written endpoint reads back;
* `told_by_display`: so the written form tells the endpoint, also of one that was read from a text
  in another form.
-/

import SharedWeights.Endpoint

namespace SharedWeights

namespace Text.Numeral

theorem isDigit_of_mem_digits {number : Nat} {digit : Char}
    (member : digit ∈ Nat.toDigits 10 number) : digit.isDigit = true :=
  Nat.isDigit_of_mem_toDigits (by decide) (by decide) member

/-- Digits have no sign in front. -/
theorem unsigned_toDigits (number : Nat) :
    unsigned (Nat.toDigits 10 number) = Nat.toDigits 10 number := by
  unfold unsigned
  split
  · next digits signed =>
    have sign : '+' ∈ Nat.toDigits 10 number := by
      rw [signed]
      exact List.mem_cons_self
    exact absurd (isDigit_of_mem_digits sign) (by decide)
  · rfl

/-- **A number within the limit reads back from its digits.** -/
theorem read_toDigits {limit number : Nat} (within : number ≤ limit) :
    read limit (Nat.toDigits 10 number) = .ok number := by
  rw [read_eq_ok_iff, unsigned_toDigits]
  exact ⟨Nat.toDigits_ne_nil, fun digit => isDigit_of_mem_digits, Nat.ofDigitChars_ten_toDigits,
    within⟩

end Text.Numeral

namespace Endpoint

/-- A text is parted at the last colon of its address, if a port stands behind it. -/
theorem parse_of_address {text : String} {host port : List Char} {number : Nat}
    (addressed : address? text.toList = some (host ++ ':' :: port)) (last : ':' ∉ port)
    (read : Text.Numeral.read 0xffff port = .ok number) :
    parse text = .ok ⟨String.ofList host, UInt16.ofNat number⟩ := by
  have something : port ≠ [] := by
    rintro rfl
    cases read
  rw [parse, addressed]
  dsimp only
  rw [Text.splitLast?_append last]
  dsimp only
  rw [if_neg something, read]

theorem toList_display (endpoint : Endpoint) :
    (display endpoint).toList =
      scheme ++ (endpoint.host.toList ++ ':' :: Nat.toDigits 10 endpoint.port.toNat) := by
  have colon : (":" : String).toList = [':'] := rfl
  rw [display, String.toList_append, String.toList_append, String.toList_append,
    String.toList_ofList, colon, Nat.toString_eq_repr, Nat.toList_repr, List.append_assoc,
    List.append_assoc, List.singleton_append]

/-- **A written endpoint reads back**, whatever its host is. -/
theorem parse_display (endpoint : Endpoint) : parse (display endpoint) = .ok endpoint := by
  obtain ⟨host, port⟩ := endpoint
  have addressed : address? (display ⟨host, port⟩).toList =
      some (host.toList ++ ':' :: Nat.toDigits 10 port.toNat) := by
    rw [toList_display, address?_of_scheme]
  have last : ':' ∉ Nat.toDigits 10 port.toNat := fun colon =>
    absurd (Text.Numeral.isDigit_of_mem_digits colon) (by decide)
  have within : port.toNat ≤ 0xffff := Nat.le_of_lt_succ port.toNat_lt
  rw [parse_of_address addressed last (Text.Numeral.read_toDigits within), String.ofList_toList,
    UInt16.ofNat_toNat]

/-- **No two endpoints are written alike.** -/
theorem display_injective : Function.Injective display := by
  intro first second same
  have read := parse_display second
  rw [← same, parse_display] at read
  exact Except.ok.inj read

/-- **An endpoint is told by its written form.** Any host with any port reads back as it was
written, so no two endpoints are written alike; and whatever text an endpoint was read from, its
written form is another text that it can be read from. -/
theorem told_by_display :
    (∀ host port, parse (display ⟨host, port⟩) = .ok ⟨host, port⟩) ∧
      Function.Injective display ∧
      ∀ text endpoint, parse text = .ok endpoint → parse (display endpoint) = .ok endpoint :=
  ⟨fun host port => parse_display ⟨host, port⟩, display_injective,
    fun _ endpoint _ => parse_display endpoint⟩

/-- A host with a scheme, colons and a space in it; and a text without a scheme, whose host is a
colon and whose port has a sign and zeros in front. -/
theorem told_by_display_of_marks :
    let host := "tcp://[::1]:80 ü"
    let loose := "::+0080"
    parse (display ⟨host, 65535⟩) = .ok ⟨host, 65535⟩ ∧
      parse loose = .ok ⟨":", 80⟩ ∧ display ⟨":", 80⟩ ≠ loose ∧
      parse (display ⟨":", 80⟩) = .ok ⟨":", 80⟩ := by
  intro host loose
  have read : parse loose = .ok ⟨":", 80⟩ :=
    parse_of_address (show _ = some ([':'] ++ ':' :: ['+', '0', '0', '8', '0']) by decide)
      (by decide) rfl
  obtain ⟨written, -, again⟩ := told_by_display
  exact ⟨written host 65535, read, by decide, again loose ⟨":", 80⟩ read⟩

end Endpoint

end SharedWeights
