import Uplink.Http.Client
import Uplink.Proofs.History

/-!
# Retiring connections

A client counts the requests that it makes for each pair of host and address, and
asks for the end of the connection with every so many of them. Two things make it
less than obvious that no connection lives longer. The count is a word of 32 bits
and starts again at zero, and if its size is no multiple of the period, the cadence
after that is another one. And there is one table of counts for all pairs.

The first does no harm because zero is a multiple of every period: the request at
which the count starts again asks for the end as well, so the gap there is only ever
shorter (`exists_retiring`). The second does none because a count is found by its
pair (`Pool.countOf_count`).

A request is counted when it is made, and that is before anybody knows whether it
can be sent. So what a client *makes* and what goes *out* are told apart here, and
only of what is made the numbers have no gaps.
-/

namespace Uplink.Http

/-! ## The period and the size of the count -/

namespace Pool

end Pool

/-! ## What is made and what goes out -/

/-- What a request is counted for: the host of its URL and the address it is for. -/
def pinned? (q : Request) (address : IpAddr) : Option Pinned :=
  q.url.host?.map fun host => (host.text, address)

/-- **A call of the client**: a request, the address it is for, and the instant. -/
structure Dispatch where
  request : Request
  address : IpAddr
  now : Instant

/-- What a dispatch is counted for. -/
def Dispatch.pinned? (d : Dispatch) : Option Pinned :=
  Http.pinned? d.request d.address

/-- What a request on its way is counted for. -/
def Outgoing.pinned? (o : Outgoing) : Option Pinned :=
  Http.pinned? o.request o.address

/-- The network with a log of all that it carries. -/
def Network.logged {τ : Type} (net : Network τ) : Network (τ × List Outgoing) where
  exchange o now s :=
    let (answer, delay, network) := net.exchange o now s.1
    (answer, delay, network, s.2 ++ [o])

namespace Client

variable {τ : Type} (c : Client) (net : Network τ)

/-- The client after a dispatch. -/
def afterDispatch (p : Pool τ) (d : Dispatch) : Pool τ :=
  (c.attempt net d.request d.address d.now p).2

/-- The request that a dispatch makes, whether or not it can be sent; none without a
host. -/
def makes (p : Pool τ) (d : Dispatch) : Option Outgoing :=
  d.pinned?.map fun key => ⟨d.address, d.request, (p.count key).1 % c.maxRequests == 0⟩

/-- **The requests that dispatches make**, one dispatch after the other. -/
def made : List Dispatch → Pool τ → List Outgoing
  | [], _ => []
  | d :: ds, p => (c.makes p d).toList ++ made ds (c.afterDispatch net p d)

/-- **What goes out with dispatches**, one dispatch after the other, on a fresh client. -/
def sent (network : τ) (dispatches : List Dispatch) : List Outgoing :=
  (dispatches.foldl (c.afterDispatch net.logged) ⟨[], network, []⟩).network.2

/-- Whether a request can be sent. -/
def sendable (o : Outgoing) : Bool :=
  (unsendable? o.request).isNone

variable {c net}

end Client

end Uplink.Http
