import SopepApp.Ble.Devices
import SopepApp.Ble.Logger
import SopepApp.Ble.MtuChange
import SopepApp.Ble.Negotiation
import SopepApp.Ble.Panels
import SopepApp.Codec.Corruption
import SopepApp.Firmware.Wire
import SopepApp.ReadData.Wire
import SopepApp.Storage.Listed
import SopepApp.Ui.CborDialog
import SopepApp.Ui.CborInput
import SopepApp.Ui.CommandDialogs
import SopepApp.Ui.ConfigureSend
import SopepApp.Ui.DeviceScreen
import SopepApp.Ui.DeviceTab
import SopepApp.Ui.TrafficBytes
import SopepApp.Ui.TrafficReceived
