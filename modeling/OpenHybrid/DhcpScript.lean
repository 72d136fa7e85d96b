import OpenHybrid.Dhcp

/-!
# The script of the DHCP clients

`DHCP_SCRIPT_CONTENT` of `dhcp.c`, which both clients run whenever something happens to their lease.
-/

namespace OpenHybrid

open ByteMemory

end OpenHybrid
