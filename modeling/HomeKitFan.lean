import HomeKitFan.Basic
import HomeKitFan.Gpio
import HomeKitFan.Outputs
import HomeKitFan.HomeKit
import HomeKitFan.EventHandlers
import HomeKitFan.EventLoop
import HomeKitFan.RelayInvariant
import HomeKitFan.LedInvariant
import HomeKitFan.HomeKitCommands
import HomeKitFan.Pipeline
import HomeKitFan.Button
import HomeKitFan.Remote
import HomeKitFan.RemoteWindows
import HomeKitFan.RemoteFrames
import HomeKitFan.Firmware
import HomeKitFan.LaskoFan
