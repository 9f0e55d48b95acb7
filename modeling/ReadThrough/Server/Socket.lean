import ReadThrough.Server.Host

/-!
# Addresses that can be opened

An address is a host and a port.  It can be opened on this machine unless
somebody else has opened the port at the same host, or one of both means all
hosts.
-/

namespace ReadThrough.Server

/-- The host and the port of an address, which the last colon separates. -/
def hostAndPort (address : String) : String × String :=
  let parts := Host.parts ':' address.toList
  (String.ofList ([':'].intercalate parts.dropLast), String.ofList (parts.getLastD []))

/-- Whether two hosts have an address in common. -/
def Host.meets : Host → Host → Bool
  | .one left, .one right => left == right
  | _, _ => true

def excludes (left right : String) : Bool :=
  let (leftHost, leftPort) := hostAndPort left
  let (rightHost, rightPort) := hostAndPort right
  match Host.ofText? leftHost, Host.ofText? rightHost with
  | some leftHost, some rightHost => leftPort == rightPort && leftHost.meets rightHost
  | _, _ => false

def canOpen (taken : List String) (address : String) : Bool :=
  (Host.ofText? (hostAndPort address).1).isSome &&
    taken.all fun other => !excludes other address

/-- The open addresses after somebody tried to open one more. -/
def take (taken : List String) (address : String) : List String :=
  if canOpen taken address then taken ++ [address] else taken

end ReadThrough.Server
