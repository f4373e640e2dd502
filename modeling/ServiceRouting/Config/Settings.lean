import ServiceRouting.Bundled

/-!
# Router settings

The settings of a router over the bundled providers, with the values that hold where nothing is
said.
-/

set_option autoImplicit false

namespace ServiceRouting

structure ProviderSettings where
  /-- A provider that is not enabled counts as not installed. -/
  enabled : Bool := true
  /-- Stands in for the bundled install hint. -/
  installHint : Option String := none
  deriving DecidableEq, Repr

structure LoggingConfig where
  level : String := "info"
  deriving DecidableEq, Repr

structure RouterConfig where
  /-- The provider of the shared symbols. -/
  primary : String := BundledProvider.core.id.text
  providers : SortedMap String ProviderSettings := .empty
  logging : LoggingConfig := {}
  deriving DecidableEq

end ServiceRouting
