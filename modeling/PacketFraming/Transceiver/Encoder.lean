import PacketFraming.Layout.Config

/-! The transmitting side: headers with their packet counter. -/

namespace PacketFraming

/-- A layout with the counter of the next header. -/
structure Encoder where
  layout : Layout
  packet : Nat
deriving DecidableEq

structure EncodedHeader where
  bytes : List UInt8
  metadata : Metadata
deriving DecidableEq, Repr

namespace Encoder

def ofLayout (layout : Layout) : Encoder where
  layout := layout
  packet := 0

def counter? (encoder : Encoder) : Option Nat :=
  encoder.layout.counting?.map fun _ => encoder.packet

def next (encoder : Encoder) : Encoder :=
  match encoder.layout.counting? with
  | some (period, _) => { encoder with packet := (encoder.packet + 1) % period }
  | none => encoder

/-- The metadata of the next frame: what was given, and the counter. -/
def record (encoder : Encoder) (metadata : Metadata) : Metadata :=
  match encoder.layout.counting? with
  | some (_, key) => metadata.insert key (.natural encoder.packet)
  | none => metadata

/-- The header for a payload of `length` bytes. A payload that is refused does not count. -/
def encode (encoder : Encoder) (length : Nat) (metadata : Metadata) :
    Except LayoutError EncodedHeader × Encoder :=
  match encoder.layout.encode encoder.packet length with
  | .ok bytes => (.ok { bytes, metadata := encoder.record metadata }, encoder.next)
  | .error cause => (.error cause, encoder)

@[simp] theorem layout_next (encoder : Encoder) :
    encoder.next.layout = encoder.layout := by
  unfold next
  split <;> rfl

theorem layout_encode (encoder : Encoder) (length : Nat) (metadata : Metadata) :
    (encoder.encode length metadata).2.layout = encoder.layout := by
  unfold encode
  split
  · exact encoder.layout_next
  · rfl

/-- The encoder after a number of headers for empty payloads, which none refuses. -/
def skip (encoder : Encoder) (count : Nat) : Encoder :=
  Nat.repeat next count encoder

end Encoder

end PacketFraming
