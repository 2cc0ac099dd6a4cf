import EthanolHostapd.Messaging.Common

/-!
# The interfaces of this machine

`get_interfaces.c`.  The list comes from `getifaddrs`; it is taken as given here, without the fields
that no message reports.
-/

namespace Ethanol

open Wire

/-- `struct interface_fields`, as far as it is reported. -/
structure InterfaceFields where
  ifindex : Int32
  intfName : CString
  macAddr : Option CString
  intfType : Int32
  isWifi : Bool

/-- `get_all_interfaces`: `NULL` if there is no interface. -/
def getAllInterfaces (interfaces : List InterfaceFields) : Option (List InterfaceFields) :=
  if interfaces.isEmpty then none else some interfaces

/-- `get_interface`: the first interface of the given name.  The outer `none` is the `strcmp` with a
`NULL` name, which happens as soon as there is an interface to compare with. -/
def getInterface (interfaces : List InterfaceFields) (intfName : Option CString) :
    Option (Option InterfaceFields) :=
  match intfName with
  | some intfName => some (interfaces.find? fun f => f.intfName = intfName)
  | none => if interfaces.isEmpty then some none else none

end Ethanol
