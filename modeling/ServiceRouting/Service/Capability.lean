/-!
# What an open service can do
-/

set_option autoImplicit false

namespace ServiceRouting

structure Capability where
  read : Bool := false
  write : Bool := false
  list : Bool := false
  stat : Bool := false
  delete : Bool := false
  presign : Bool := false
  deriving DecidableEq, Repr

namespace Capability

def full : Capability :=
  { read := true, write := true, list := true, stat := true, delete := true }

def objectStore : Capability :=
  { full with presign := true }

def keyValue : Capability :=
  { read := true, write := true, stat := true, delete := true }

def readOnly : Capability :=
  { read := true, list := true, stat := true }

/-- The operations in their fixed order, each with whether it is offered. -/
def operations (capability : Capability) : List (String × Bool) :=
  [("read", capability.read), ("write", capability.write), ("list", capability.list),
    ("stat", capability.stat), ("delete", capability.delete), ("presign", capability.presign)]

end Capability

end ServiceRouting
