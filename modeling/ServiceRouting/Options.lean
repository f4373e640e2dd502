import ServiceRouting.Failure

/-!
# Options of a service

Options are an open set of key and value texts.  Routing neither checks nor reads them; each
provider decides which keys it needs.
-/

set_option autoImplicit false

namespace ServiceRouting

structure Options where
  pairs : SortedMap String String
  deriving DecidableEq

namespace Options

def empty : Options := ⟨.empty⟩

instance : EmptyCollection Options := ⟨empty⟩

def insert (options : Options) (key value : String) : Options :=
  ⟨options.pairs.insert key value⟩

/-- The last pair of a key decides its value. -/
def ofList (pairs : List (String × String)) : Options :=
  ⟨.ofList pairs⟩

def get? (options : Options) (key : String) : Option String :=
  options.pairs.get? key

def keys (options : Options) : List String :=
  options.pairs.keys

def toList (options : Options) : List (String × String) :=
  options.pairs.entries

def size (options : Options) : Nat :=
  options.pairs.size

def isEmpty (options : Options) : Bool :=
  options.pairs.isEmpty

/-- Whether the key has a value other than the empty text. -/
def provides (options : Options) (key : String) : Bool :=
  match options.get? key with
  | some value => value ≠ ""
  | none => false

/-- The value of a key that must be given and must not be empty. -/
def require (options : Options) (service key : String) : Except ServiceError String :=
  match options.get? key with
  | some value => if value = "" then .error missing else .ok value
  | none => .error missing
where
  missing : ServiceError :=
    (ServiceError.mk .configInvalid s!"option '{key}' is required" []).within "service" service

end Options

end ServiceRouting
