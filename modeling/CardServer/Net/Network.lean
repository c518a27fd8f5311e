import CardServer.IoError
import CardServer.Net.Address

/-! # Networks

What the network of a host allows: the addresses that a listener can be bound to, the ports that are
taken, and the addresses that clients reach.  Port zero leaves the choice of a port to the network, and
ports below 1024 are not for everyone.

* `bind_eq_ok_iff`   a listener is bound exactly where it asked to be, save for the choice of a port
-/

namespace CardServer.Net

/-- The network of a host. -/
structure Network where
  /-- Whether a listener can be bound to an address. -/
  owns : Address → Bool
  /-- Whether a port is taken. -/
  taken : UInt16 → Bool
  /-- The port for the next listener that leaves the choice. -/
  free : UInt16
  /-- Whether a client on the host reaches an address. -/
  reaches : Address → Bool

namespace Network

/-- The least port that any program may listen on. -/
def leastOpenPort : UInt16 := 1024

/-- Binds a listener, and says where it ended up. -/
def bind (network : Network) (listener : HostPort) : Except IoError HostPort :=
  if listener.port ≠ 0 ∧ listener.port < leastOpenPort then
    .error .permissionDenied
  else if network.owns listener.address = false then
    .error .addressNotAvailable
  else if listener.port = 0 then
    .ok { listener with port := network.free }
  else if network.taken listener.port then
    .error .addressInUse
  else
    .ok listener

/-- A listener is bound exactly where it asked to be, save for the choice of a port. -/
theorem bind_eq_ok_iff {network : Network} {listener bound : HostPort} :
    network.bind listener = .ok bound ↔
      network.owns listener.address = true ∧
        (listener.port = 0 ∧ bound = { listener with port := network.free } ∨
          leastOpenPort ≤ listener.port ∧ network.taken listener.port = false ∧
            bound = listener) := by
  have hzero : ¬ leastOpenPort ≤ (0 : UInt16) := by decide
  unfold bind
  split
  · next h =>
    refine ⟨nofun, ?_⟩
    rintro ⟨-, ⟨h0, -⟩ | ⟨hopen, -, -⟩⟩
    · exact absurd h0 h.1
    · exact absurd h.2 (UInt16.not_lt.2 hopen)
  next hport =>
  split
  · next hown => exact ⟨nofun, fun h => absurd (hown.symm.trans h.1) (by decide)⟩
  next hown =>
  have hown : network.owns listener.address = true := by simpa using hown
  split
  · next h0 =>
    refine ⟨fun h => ⟨hown, .inl ⟨h0, (Except.ok.inj h).symm⟩⟩, ?_⟩
    rintro ⟨-, ⟨-, rfl⟩ | ⟨hopen, -, -⟩⟩
    · rfl
    · exact absurd (h0 ▸ hopen) hzero
  next h0 =>
  have hopen : leastOpenPort ≤ listener.port :=
    UInt16.not_lt.1 fun hlow => hport ⟨h0, hlow⟩
  split
  · next htaken =>
    refine ⟨nofun, ?_⟩
    rintro ⟨-, ⟨h, -⟩ | ⟨-, hfree, -⟩⟩
    · exact absurd h h0
    · exact absurd (htaken.symm.trans hfree) (by decide)
  next htaken =>
  refine ⟨fun h => ⟨hown, .inr ⟨hopen, by simpa using htaken, (Except.ok.inj h).symm⟩⟩, ?_⟩
  rintro ⟨-, ⟨h, -⟩ | ⟨-, -, rfl⟩⟩
  · exact absurd h h0
  · rfl

end Network

end CardServer.Net
