import MeshRoutes.Text.Blank
import MeshRoutes.Text.Numeral

/-!
# Settings

The gateways of external domains and the time between two passes over the whole cluster. Without
a gateway external routes would be out of reach, so there has to be one, and none may be blank.

## Main definitions

* `RawSettings`: settings as they were given; `Settings`: settings that were checked.
* `RawSettings.check`: the way from the one to the other.
-/

namespace MeshRoutes

/-- Settings as they were given: the gateways of external domains, and the seconds between two
passes. -/
structure RawSettings where
  gateways : List String := []
  resyncSeconds : Nat := 60
deriving DecidableEq, Repr

/-- Settings that were checked. The gateways have no blanks at their ends. -/
structure Settings where
  gateways : List String
  resyncSeconds : Nat
deriving DecidableEq, Repr

/-- Why settings are not accepted: there is no gateway, the one at a position is blank, or there is
no time between two passes. -/
inductive SettingsError where
  | noGateways
  | emptyGateway (position : Nat)
  | zeroResyncInterval
deriving DecidableEq, Repr

namespace SettingsError

/-- The text of an error. -/
def message : SettingsError → String
  | noGateways =>
    "at least one istio gateway must be configured (--istio-gateways / ISTIO_GATEWAYS)"
  | emptyGateway position =>
    "istio gateway at position " ++ Text.natText position ++ " is empty"
  | zeroResyncInterval => "resync interval must be greater than zero"

end SettingsError

/-- Checks settings. Of several errors the first in the order of the error type counts. -/
def RawSettings.check (raw : RawSettings) : Except SettingsError Settings :=
  let gateways := raw.gateways.map Text.trim
  if gateways.isEmpty then .error .noGateways
  else
    match gateways.findIdx? (·.isEmpty) with
    | some position => .error (.emptyGateway position)
    | none =>
      if raw.resyncSeconds = 0 then .error .zeroResyncInterval
      else .ok { gateways, resyncSeconds := raw.resyncSeconds }

end MeshRoutes
