import Isobus.NetworkManager.Turn

/-!
# Claimed addresses and the end of the table

The table has no entry for the null address, which is claimed only behind a loss of the old address,
or behind a command to an address behind the end of the table.
-/

namespace Isobus.NetworkManager

open Isobus.Can Isobus.Lib

namespace CANNetworkManager

variable (config : CANNetworkConfiguration) (env : Environment)

variable {nm : CANNetworkManager}

variable {nm' : CANNetworkManager} {l : List CFRef}

end CANNetworkManager

open CANNetworkManager

variable (globalCallbacks anyControlFunctionCallbacks protocolCallbacks :
  List ParameterGroupNumberCallbackData)

end Isobus.NetworkManager
