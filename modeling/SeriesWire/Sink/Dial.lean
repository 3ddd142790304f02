import SeriesWire.IoError

/-! Connecting to sockets. -/
namespace SeriesWire

/-- How connecting ends on a machine of which no interface is up, not even the loopback. No
route leads to an address of the earlier version, mapped or not, or to a multicast group.
To all others there is one, but no address of this machine to come from; the address of a
link says nothing without the scope that tells the link. -/
def dialOffline : SocketAddress → Except IoError Unit
  | .v4 .. => .error .networkUnreachable
  | .v6 ip _ _ scope =>
    if (Ipv6Address.mapped? ip.groups).isSome || ip.isMulticast then .error .networkUnreachable
    else if ip.isLinkLocal && scope = 0 then .error .invalidArgument
    else .error .addressNotAvailable

end SeriesWire
