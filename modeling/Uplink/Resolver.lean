import Uplink.EndpointSet
import Uplink.Url.Basic

/-!
# From a URL to its endpoints

A server's URL names a host. If the host is an address there is nothing to look
up. Otherwise a `Resolver` says which addresses the name has. The first one
becomes the preferred endpoint.

A URL without a host, a name nobody knows and a name without addresses are
failures, each with a reason of its own.
-/

namespace Uplink

/-- **Something that knows the addresses of hosts.** -/
structure Resolver where
  lookup : String → UInt16 → Except Failure (List IpAddr)

namespace Resolver

/-- The entry for a host: the last one given for it. -/
def entry? (hosts : List (String × List IpAddr)) (host : String) :
    Option (List IpAddr) :=
  hosts.reverse.lookup host

/-- **A fixed table of hosts.** A host that is not in it is unknown, and of
two entries for a host the later one holds. -/
def ofTable (hosts : List (String × List IpAddr)) : Resolver where
  lookup host _ :=
    match entry? hosts host with
    | some addresses => .ok addresses
    | none => .error (.unknownHost host "not in static host table")

/-- The resolver of a machine without name service: it knows the hosts that
are addresses. A name with a NUL is not one that could be asked for. -/
def literals : Resolver where
  lookup host _ :=
    match IpAddr.ofText? host.toList with
    | some address => .ok [address]
    | none => .error (.unknownHost host
        (if host.toList.contains '\x00' then
          "file name contained an unexpected NUL byte"
        else "failed to lookup address information: Name or service not known"))

end Resolver

namespace Url

/-- The address that a host's text is, brackets apart. -/
def literal? (host : List Char) : Option IpAddr :=
  IpAddr.ofText?
    (((host.dropWhile (· == '[')).reverse.dropWhile (· == ']')).reverse)

/-- The port to connect to. -/
def connectPort (u : Url) : UInt16 :=
  u.port?.getD 80

end Url

/-- What a resolution came to: the endpoints or a failure, the lookups made,
and the random words left. -/
structure Resolved where
  result : Except Failure EndpointSet
  events : List Event
  random : Random

/-- **Resolves a URL to its endpoints.** -/
def resolveEndpoints (url : Url) (settings : CommunicationSettings)
    (resolver : Resolver) (now : Instant) (r : Random) : Resolved :=
  match url.host? with
  | none => ⟨.error (.invalidUrl url.toString "missing host"), [], r⟩
  | some host =>
    let name := String.ofList host.text
    let (answer, events) : Except Failure (List IpAddr) × List Event :=
      match Url.literal? host.text with
      | some address => (.ok [address], [])
      | none => (resolver.lookup name url.connectPort, [.lookup name url.connectPort])
    match answer with
    | .error f => ⟨.error f, events, r⟩
    | .ok addresses =>
      match EndpointSet.ofAddresses? addresses settings now r with
      | (some set, r) => ⟨.ok set, events, r⟩
      | (none, r) => ⟨.error (.unknownHost name "no addresses resolved"), events, r⟩

end Uplink
