import AudioHal.Nameable

/-! # Devices

Where sound comes out or goes in. The highest bit of a device tells the direction and the next
one that policy chooses the device; the bits below them tell which device it is.

* `Device.isInput`, `Device.isOutput`, `Device.isDefault`: the two marks. No device at all is
  neither an input nor an output.
* Five older names, of devices that were renamed, are still parsed.
-/

set_option autoImplicit false

namespace AudioHal

/-- A device, or no device. -/
structure Device where
  bits : UInt32
deriving DecidableEq

namespace Device

instance : RawValue Device :=
  .wrap mk bits (fun _ => rfl) (fun _ => rfl)

/-- The mark of a device that records. -/
def inputBit : UInt32 := 0x80000000

/-- The mark of a device that policy chooses. -/
def defaultBit : UInt32 := 0x40000000

/-- No device. -/
protected def none : Device := ⟨0⟩

/-! ## Outputs -/

def outEarpiece : Device := ⟨0x1⟩
def outSpeaker : Device := ⟨0x2⟩
def outWiredHeadset : Device := ⟨0x4⟩
def outWiredHeadphone : Device := ⟨0x8⟩
def outBluetoothSco : Device := ⟨0x10⟩
def outBluetoothScoHeadset : Device := ⟨0x20⟩
def outBluetoothScoCarkit : Device := ⟨0x40⟩
def outBluetoothA2dp : Device := ⟨0x80⟩
def outBluetoothA2dpHeadphones : Device := ⟨0x100⟩
def outBluetoothA2dpSpeaker : Device := ⟨0x200⟩
def outHdmi : Device := ⟨0x400⟩
def outAnlgDockHeadset : Device := ⟨0x800⟩
def outDgtlDockHeadset : Device := ⟨0x1000⟩
def outUsbAccessory : Device := ⟨0x2000⟩
def outUsbDevice : Device := ⟨0x4000⟩
def outRemoteSubmix : Device := ⟨0x8000⟩
def outTelephonyTx : Device := ⟨0x10000⟩
def outLine : Device := ⟨0x20000⟩
def outHdmiArc : Device := ⟨0x40000⟩
def outSpdif : Device := ⟨0x80000⟩
def outFm : Device := ⟨0x100000⟩
def outAuxLine : Device := ⟨0x200000⟩
def outSpeakerSafe : Device := ⟨0x400000⟩
def outIp : Device := ⟨0x800000⟩
def outBus : Device := ⟨0x1000000⟩
def outProxy : Device := ⟨0x2000000⟩
def outUsbHeadset : Device := ⟨0x4000000⟩
def outHearingAid : Device := ⟨0x8000000⟩
def outEchoCanceller : Device := ⟨0x10000000⟩
def outBleHeadset : Device := ⟨0x20000000⟩
def outBleSpeaker : Device := ⟨0x20000001⟩
def outDefault : Device := ⟨defaultBit⟩

/-! ## Inputs -/

def inCommunication : Device := ⟨inputBit ||| 0x1⟩
def inAmbient : Device := ⟨inputBit ||| 0x2⟩
def inBuiltinMic : Device := ⟨inputBit ||| 0x4⟩
def inBluetoothScoHeadset : Device := ⟨inputBit ||| 0x8⟩
def inWiredHeadset : Device := ⟨inputBit ||| 0x10⟩
def inHdmi : Device := ⟨inputBit ||| 0x20⟩
def inTelephonyRx : Device := ⟨inputBit ||| 0x40⟩
def inBackMic : Device := ⟨inputBit ||| 0x80⟩
def inRemoteSubmix : Device := ⟨inputBit ||| 0x100⟩
def inAnlgDockHeadset : Device := ⟨inputBit ||| 0x200⟩
def inDgtlDockHeadset : Device := ⟨inputBit ||| 0x400⟩
def inUsbAccessory : Device := ⟨inputBit ||| 0x800⟩
def inUsbDevice : Device := ⟨inputBit ||| 0x1000⟩
def inFmTuner : Device := ⟨inputBit ||| 0x2000⟩
def inTvTuner : Device := ⟨inputBit ||| 0x4000⟩
def inLine : Device := ⟨inputBit ||| 0x8000⟩
def inSpdif : Device := ⟨inputBit ||| 0x10000⟩
def inBluetoothA2dp : Device := ⟨inputBit ||| 0x20000⟩
def inLoopback : Device := ⟨inputBit ||| 0x40000⟩
def inIp : Device := ⟨inputBit ||| 0x80000⟩
def inBus : Device := ⟨inputBit ||| 0x100000⟩
def inProxy : Device := ⟨inputBit ||| 0x1000000⟩
def inUsbHeadset : Device := ⟨inputBit ||| 0x2000000⟩
def inBluetoothBle : Device := ⟨inputBit ||| 0x4000000⟩
def inHdmiArc : Device := ⟨inputBit ||| 0x8000000⟩
def inEchoReference : Device := ⟨inputBit ||| 0x10000000⟩
def inBleHeadset : Device := ⟨inputBit ||| 0x20000000⟩
def inDefault : Device := ⟨inputBit ||| defaultBit⟩

instance : Inhabited Device := ⟨.none⟩

/-- Whether a device records. -/
def isInput (d : Device) : Bool :=
  d.bits &&& inputBit != 0

/-- Whether a device plays. -/
def isOutput (d : Device) : Bool :=
  d.bits != 0 && !d.isInput

/-- Whether policy chooses the device. -/
def isDefault (d : Device) : Bool :=
  d.bits &&& defaultBit != 0

/-- The rows of every build. -/
def rows : List (Entry Device) :=
  [
    .canonical "AUDIO_DEVICE_NONE" .none,
    .canonical "AUDIO_DEVICE_OUT_EARPIECE" .outEarpiece,
    .canonical "AUDIO_DEVICE_OUT_SPEAKER" .outSpeaker,
    .canonical "AUDIO_DEVICE_OUT_WIRED_HEADSET" .outWiredHeadset,
    .canonical "AUDIO_DEVICE_OUT_WIRED_HEADPHONE" .outWiredHeadphone,
    .canonical "AUDIO_DEVICE_OUT_BLUETOOTH_SCO" .outBluetoothSco,
    .canonical "AUDIO_DEVICE_OUT_BLUETOOTH_SCO_HEADSET" .outBluetoothScoHeadset,
    .canonical "AUDIO_DEVICE_OUT_BLUETOOTH_SCO_CARKIT" .outBluetoothScoCarkit,
    .canonical "AUDIO_DEVICE_OUT_BLUETOOTH_A2DP" .outBluetoothA2dp,
    .canonical "AUDIO_DEVICE_OUT_BLUETOOTH_A2DP_HEADPHONES" .outBluetoothA2dpHeadphones,
    .canonical "AUDIO_DEVICE_OUT_BLUETOOTH_A2DP_SPEAKER" .outBluetoothA2dpSpeaker,
    .canonical "AUDIO_DEVICE_OUT_HDMI" .outHdmi,
    .canonical "AUDIO_DEVICE_OUT_ANLG_DOCK_HEADSET" .outAnlgDockHeadset,
    .canonical "AUDIO_DEVICE_OUT_DGTL_DOCK_HEADSET" .outDgtlDockHeadset,
    .canonical "AUDIO_DEVICE_OUT_USB_ACCESSORY" .outUsbAccessory,
    .canonical "AUDIO_DEVICE_OUT_USB_DEVICE" .outUsbDevice,
    .canonical "AUDIO_DEVICE_OUT_REMOTE_SUBMIX" .outRemoteSubmix,
    .canonical "AUDIO_DEVICE_OUT_TELEPHONY_TX" .outTelephonyTx,
    .canonical "AUDIO_DEVICE_OUT_LINE" .outLine,
    .canonical "AUDIO_DEVICE_OUT_HDMI_ARC" .outHdmiArc,
    .canonical "AUDIO_DEVICE_OUT_SPDIF" .outSpdif,
    .canonical "AUDIO_DEVICE_OUT_FM" .outFm,
    .canonical "AUDIO_DEVICE_OUT_AUX_LINE" .outAuxLine,
    .canonical "AUDIO_DEVICE_OUT_SPEAKER_SAFE" .outSpeakerSafe,
    .canonical "AUDIO_DEVICE_OUT_IP" .outIp,
    .canonical "AUDIO_DEVICE_OUT_BUS" .outBus,
    .canonical "AUDIO_DEVICE_OUT_PROXY" .outProxy,
    .canonical "AUDIO_DEVICE_OUT_USB_HEADSET" .outUsbHeadset,
    .canonical "AUDIO_DEVICE_OUT_HEARING_AID" .outHearingAid,
    .canonical "AUDIO_DEVICE_OUT_ECHO_CANCELLER" .outEchoCanceller,
    .canonical "AUDIO_DEVICE_OUT_BLE_HEADSET" .outBleHeadset,
    .canonical "AUDIO_DEVICE_OUT_BLE_SPEAKER" .outBleSpeaker,
    .canonical "AUDIO_DEVICE_OUT_DEFAULT" .outDefault,
    .canonical "AUDIO_DEVICE_IN_COMMUNICATION" .inCommunication,
    .canonical "AUDIO_DEVICE_IN_AMBIENT" .inAmbient,
    .canonical "AUDIO_DEVICE_IN_BUILTIN_MIC" .inBuiltinMic,
    .canonical "AUDIO_DEVICE_IN_BLUETOOTH_SCO_HEADSET" .inBluetoothScoHeadset,
    .canonical "AUDIO_DEVICE_IN_WIRED_HEADSET" .inWiredHeadset,
    .canonical "AUDIO_DEVICE_IN_HDMI" .inHdmi,
    .canonical "AUDIO_DEVICE_IN_TELEPHONY_RX" .inTelephonyRx,
    .canonical "AUDIO_DEVICE_IN_BACK_MIC" .inBackMic,
    .canonical "AUDIO_DEVICE_IN_REMOTE_SUBMIX" .inRemoteSubmix,
    .canonical "AUDIO_DEVICE_IN_ANLG_DOCK_HEADSET" .inAnlgDockHeadset,
    .canonical "AUDIO_DEVICE_IN_DGTL_DOCK_HEADSET" .inDgtlDockHeadset,
    .canonical "AUDIO_DEVICE_IN_USB_ACCESSORY" .inUsbAccessory,
    .canonical "AUDIO_DEVICE_IN_USB_DEVICE" .inUsbDevice,
    .canonical "AUDIO_DEVICE_IN_FM_TUNER" .inFmTuner,
    .canonical "AUDIO_DEVICE_IN_TV_TUNER" .inTvTuner,
    .canonical "AUDIO_DEVICE_IN_LINE" .inLine,
    .canonical "AUDIO_DEVICE_IN_SPDIF" .inSpdif,
    .canonical "AUDIO_DEVICE_IN_BLUETOOTH_A2DP" .inBluetoothA2dp,
    .canonical "AUDIO_DEVICE_IN_LOOPBACK" .inLoopback,
    .canonical "AUDIO_DEVICE_IN_IP" .inIp,
    .canonical "AUDIO_DEVICE_IN_BUS" .inBus,
    .canonical "AUDIO_DEVICE_IN_PROXY" .inProxy,
    .canonical "AUDIO_DEVICE_IN_USB_HEADSET" .inUsbHeadset,
    .canonical "AUDIO_DEVICE_IN_BLUETOOTH_BLE" .inBluetoothBle,
    .canonical "AUDIO_DEVICE_IN_HDMI_ARC" .inHdmiArc,
    .canonical "AUDIO_DEVICE_IN_ECHO_REFERENCE" .inEchoReference,
    .canonical "AUDIO_DEVICE_IN_BLE_HEADSET" .inBleHeadset,
    .canonical "AUDIO_DEVICE_IN_DEFAULT" .inDefault,
    .legacy "AUDIO_DEVICE_OUT_AUX_DIGITAL" .outHdmi,
    .legacy "AUDIO_DEVICE_OUT_STUB" .outDefault,
    .legacy "AUDIO_DEVICE_IN_VOICE_CALL" .inTelephonyRx,
    .legacy "AUDIO_DEVICE_IN_AUX_DIGITAL" .inHdmi,
    .legacy "AUDIO_DEVICE_IN_STUB" .inDefault]

instance : Nameable Device where
  typeName := "AudioDevice"
  stem := "AUDIO_DEVICE_"
  numeral a := Text.hexadecimal a.bits.toNat
  table _ := ⟨.device, rows, []⟩
  further := [("BIT_IN", RawValue.toRaw inputBit), ("BIT_DEFAULT", RawValue.toRaw defaultBit)]

end Device

end AudioHal
