import DatagramTunneler.Text

/-! IPv4 addresses as the program sees them: the text the user writes, the four
bytes `inet_pton` makes of it, and the socket address handed to `sendto`. -/

set_option autoImplicit false

namespace DatagramTunneler

/-- One octet of a dotted-decimal address: no sign, no leading zero, at most 255. -/
def parseOctet (digits : Text) : Option UInt8 :=
  if digits ≠ [] ∧ digits.all isdigit ∧ (digits.head? = some (byteOf '0') → digits.length = 1) ∧
      digitsValue digits ≤ 255 then
    some (UInt8.ofNat (digitsValue digits))
  else none

/-- The four bytes stored by a successful `inet_pton(AF_INET, address.c_str(), ...)`. -/
def inet_pton (address : Text) : Option (List UInt8) :=
  match splitOnByte (byteOf '.') (c_str address) with
  | [first, second, third, fourth] => do
      let first ← parseOctet first
      let second ← parseOctet second
      let third ← parseOctet third
      let fourth ← parseOctet fourth
      return [first, second, third, fourth]
  | _ => none

theorem length_inet_pton {address : Text} {bytes : List UInt8}
    (accepted : inet_pton address = some bytes) : bytes.length = 4 := by
  unfold inet_pton at accepted
  split at accepted
  · simp only [bind, Option.bind_eq_some_iff, pure, Option.some.injEq] at accepted
    obtain ⟨_, _, _, _, _, _, _, _, rfl⟩ := accepted
    rfl
  · cases accepted

private theorem isdigit_of_parseOctet {digits : Text} {octet : UInt8} (parsed : parseOctet digits = some octet) :
    ∀ byte ∈ digits, isdigit byte = true := by
  unfold parseOctet at parsed
  split_ifs at parsed with holds
  exact List.all_eq_true.mp holds.2.1

/-- The C string of an accepted address has no other bytes than these. -/
theorem isdigit_or_dot_of_inet_pton {address : Text} (accepted : (inet_pton address).isSome = true)
    {byte : UInt8} (inside : byte ∈ c_str address) : isdigit byte = true ∨ byte = byteOf '.' := by
  unfold inet_pton at accepted
  rcases mem_splitOnByte inside with dot | ⟨part, listed, here⟩
  · exact .inr dot
  · split at accepted
    · next first second third fourth split =>
        rw [split] at listed
        obtain ⟨bytes, made⟩ := Option.isSome_iff_exists.mp accepted
        simp only [bind, Option.bind_eq_some_iff] at made
        obtain ⟨_, readFirst, _, readSecond, _, readThird, _, readFourth, -⟩ := made
        left
        simp only [List.mem_cons, List.not_mem_nil, or_false] at listed
        rcases listed with rfl | rfl | rfl | rfl
        · exact isdigit_of_parseOctet readFirst byte here
        · exact isdigit_of_parseOctet readSecond byte here
        · exact isdigit_of_parseOctet readThird byte here
        · exact isdigit_of_parseOctet readFourth byte here
    · cases accepted

/-- An IPv4 entry of the operating system's interface list. -/
structure Interface where
  name : Text
  address : Text

/-- A literal address stands for itself; anything else must name an interface. -/
def resolveInterfaceIpv4 (interfaces : List Interface) (interface_reference : Text) : Option Text :=
  if (inet_pton interface_reference).isSome then some interface_reference
  else (interfaces.find? (·.name = interface_reference)).map (·.address)

/-- The fields of `sockaddr_in` the program sets; both are kept in network order. -/
structure SockAddrIn where
  sin_port : List UInt8
  sin_addr : List UInt8
  deriving DecidableEq, Repr

example : inet_pton (ascii "239.1.2.3") = some [239, 1, 2, 3] := by decide

example : inet_pton (ascii "239.1.2.03") = none := by decide

end DatagramTunneler
