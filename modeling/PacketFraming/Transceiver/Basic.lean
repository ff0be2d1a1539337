import PacketFraming.Bits.SoftValue
import PacketFraming.Transceiver.Encoder
import PacketFraming.Transceiver.Receiver

/-! Both sides of one stream: an encoder for its headers and a receiver that finds them. -/

namespace PacketFraming

structure Transceiver where
  encoder : Encoder
  receiver : Receiver

namespace Transceiver

def ofLayout (layout : Layout) : Transceiver where
  encoder := .ofLayout layout
  receiver := .ofCode layout.accessCode

def layout (transceiver : Transceiver) : Layout :=
  transceiver.encoder.layout

def setThreshold (transceiver : Transceiver) (threshold : Nat) :
    Except BitError Transceiver :=
  (transceiver.receiver.setThreshold threshold).map fun receiver =>
    { transceiver with receiver }

/-- Both sides for a selected layout. The layout is judged before the threshold. -/
def ofConfig (config : LayoutConfig) : Except LayoutError Transceiver := do
  let layout ← config.build
  ((ofLayout layout).setThreshold config.threshold.toNat).mapError .field

def encode (transceiver : Transceiver) (length : Nat) (metadata : Metadata) :
    Except LayoutError EncodedHeader × Transceiver :=
  let (result, encoder) := transceiver.encoder.encode length metadata
  (result, { transceiver with encoder })

def receive (transceiver : Transceiver) (items : List UInt8) : Reception :=
  transceiver.receiver.receive transceiver.layout items

def receiveSoft (transceiver : Transceiver) (values : List SoftValue) : Reception :=
  transceiver.receive (values.map SoftValue.slice)

def receiveHeader (transceiver : Transceiver) (items : List UInt8) : Halt :=
  transceiver.receiver.receiveHeader transceiver.layout items

/-- Forgets everything received; the encoder goes on counting. -/
def reset (transceiver : Transceiver) : Transceiver :=
  { transceiver with receiver := transceiver.receiver.reset }

end Transceiver

end PacketFraming
