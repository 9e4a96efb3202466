import NamedContent.Config
import NamedContent.Packet.Decode

/-!
# Packets in a stream

A stream is cut into packets by the lengths that their fixed headers announce. A frame buffer
collects the bytes of a stream and gives away the packets that are complete.

* `flatten_cut`: the packets of a cut and what follows them are the stream.
* `length_of_mem_cut`: no packet is shorter than a fixed header or longer than the limit.
-/

namespace NamedContent

/-- Why a stream cannot be cut, or its bytes not be kept. -/
inductive FramingError
  | unsupportedVersion (version : UInt8)
  | packetTooShort (length : Nat)
  | packetTooLarge (size limit : Nat)
  | bufferOverflow (size limit : Nat)
deriving DecidableEq, Repr

namespace FramingError

/-- The name of a failure. -/
def name : FramingError → String
  | .unsupportedVersion _ => "InvalidHeader"
  | .packetTooShort _ => "InvalidHeader"
  | .packetTooLarge .. => "PacketTooLarge"
  | .bufferOverflow .. => "BufferOverflow"

/-- The wording of a failure. -/
def message : FramingError → String
  | .unsupportedVersion version =>
    s!"Invalid frame header: unsupported version {version.toNat}"
  | .packetTooShort length =>
    s!"Invalid frame header: packet length {length} is shorter than the fixed header"
  | .packetTooLarge size limit => s!"Packet too large: {size} bytes (max: {limit})"
  | .bufferOverflow size limit => s!"Buffer overflow: {size} bytes buffered (max: {limit})"

end FramingError

namespace Framing

/-- The length of the first packet, once its fixed header is there. -/
def firstLength (limit : Nat) (b : Bytes) : Except FramingError Nat :=
  match Packet.announcedLength? b with
  | none => .error (.unsupportedVersion (b.headD 0))
  | some length =>
    if length < fixedHeaderLength then .error (.packetTooShort length)
    else if limit < length then .error (.packetTooLarge length limit)
    else .ok length

theorem firstLength_ge {limit : Nat} {b : Bytes} {length : Nat}
    (h : firstLength limit b = .ok length) : fixedHeaderLength ≤ length := by
  unfold firstLength at h
  split at h
  · cases h
  · split at h
    · cases h
    · next hge => split at h <;> cases h; exact Nat.le_of_not_lt hge

theorem firstLength_le {limit : Nat} {b : Bytes} {length : Nat}
    (h : firstLength limit b = .ok length) : length ≤ limit := by
  unfold firstLength at h
  split at h
  · cases h
  · split at h
    · cases h
    · split at h
      · cases h
      · next hle => cases h; exact Nat.le_of_not_lt hle

/-- The cut of a stream: the complete packets, what follows them, and the fault of the header in
front of that, if it is one. -/
structure Cut where
  packets : List Bytes
  rest : Bytes
  fault : Option FramingError

/-- Cuts a stream into packets of at most `limit` bytes. -/
def cut (limit : Nat) (b : Bytes) : Cut :=
  if b.length < fixedHeaderLength then ⟨[], b, none⟩
  else match _h : firstLength limit b with
    | .error e => ⟨[], b, some e⟩
    | .ok length =>
      if b.length < length then ⟨[], b, none⟩
      else
        let behind := cut limit (b.drop length)
        { behind with packets := b.take length :: behind.packets }
termination_by b.length
decreasing_by
  have := firstLength_ge _h
  simp only [List.length_drop, fixedHeaderLength] at *
  omega

/-- A cut loses no byte of the stream. -/
theorem flatten_cut (limit : Nat) (b : Bytes) :
    (cut limit b).packets.flatten ++ (cut limit b).rest = b := by
  fun_induction cut limit b with
  | case1 | case2 | case3 => rfl
  | case4 b _ length _ _ behind ih =>
    rw [List.flatten_cons, List.append_assoc, ih]
    exact List.take_append_drop length b

/-- Every packet of a cut has room for a header and keeps to the limit. -/
theorem length_of_mem_cut {limit : Nat} {b packet : Bytes} (h : packet ∈ (cut limit b).packets) :
    fixedHeaderLength ≤ packet.length ∧ packet.length ≤ limit := by
  fun_induction cut limit b with
  | case1 | case2 | case3 => cases h
  | case4 b _ length hlength hfits behind ih =>
    rcases List.mem_cons.mp h with rfl | h
    · rw [List.length_take, Nat.min_eq_left (Nat.le_of_not_lt hfits)]
      exact ⟨firstLength_ge hlength, firstLength_le hlength⟩
    · exact ih h

end Framing

/-- The bytes of a stream that have not been given away as packets. -/
structure FrameBuffer where
  buffered : Bytes := []
  capacity : Nat
  maxPacketLength : Nat
deriving DecidableEq, Repr

namespace FrameBuffer

/-- An empty buffer for a number of bytes. -/
def create (config : Config) (capacity : Nat) : FrameBuffer :=
  { capacity, maxPacketLength := config.maxPacketLength }

/-- Takes in bytes of the stream, if there is room; otherwise the buffer is as it was. -/
def add (f : FrameBuffer) (b : Bytes) : Except FramingError Unit × FrameBuffer :=
  let size := f.buffered.length + b.length
  if f.capacity < size then (.error (.bufferOverflow size f.capacity), f)
  else (.ok (), { f with buffered := f.buffered ++ b })

/-- The announced length of the first packet, once its fixed header is there. -/
def packetLength? (f : FrameBuffer) : Option Nat :=
  if f.buffered.length < fixedHeaderLength then none else Packet.announcedLength? f.buffered

/-- Whether the first packet is complete. -/
def isComplete (f : FrameBuffer) : Bool :=
  f.packetLength?.any fun length => fixedHeaderLength ≤ length && length ≤ f.buffered.length

/-- Gives away the complete packets. When the cut meets a faulty header, the packets in front of it
are taken out of the buffer, but not given away. -/
def extract (f : FrameBuffer) : Except FramingError (List Bytes) × FrameBuffer :=
  let cut := Framing.cut f.maxPacketLength f.buffered
  match cut.fault with
  | none => (.ok cut.packets, { f with buffered := cut.rest })
  | some e => (.error e, { f with buffered := cut.rest })

/-- Forgets all bytes. -/
def clear (f : FrameBuffer) : FrameBuffer := { f with buffered := [] }

end FrameBuffer

end NamedContent
