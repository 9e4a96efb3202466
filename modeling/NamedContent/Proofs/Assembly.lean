import NamedContent.Proofs.Encoding
import NamedContent.Proofs.Stepwise

/-!
# Packets step by step

A packet is written with one encoder from the front to the back. Eight bytes keep the place of the
fixed header; the headers, the message, the validation algorithm and the signature follow, each in
steps of its own; and once all lengths are known the header is written over the eight bytes. What is
signed is a range of what stands in the encoder by then, told by two positions.

* `Packet.writeParts_performsAt`: the parts behind the fixed header.
* `Packet.assemble_encode`: a packet in steps and `Packet.encode`, which knows each part before it
  puts them together, yield the same bytes, ranges and message, or the same failure.
-/

namespace NamedContent

/-! ## Steps -/

namespace Writing

/-- Writes data over the bytes from `position` on. -/
def patch (position : UInt64) (data : Bytes) : Writing Unit := fun e => e.patch position data

/-- The bytes in a range of those written, if there is a range. -/
def covered (range : Option (Nat × Nat)) : Writing (Option Bytes) := fun e =>
  (.ok (range.map fun (start, stop) => e.bytesInRange start stop), e)

/-- Goes on unless something has failed. -/
def check {α : Type} (result : Except EncodeError α) : Writing α := fun e => (result, e)

end Writing

namespace Packet

/-- Where the message starts and where the signed bytes end, and the message with what was
recorded. -/
structure Marks where
  start : Nat
  stop : Nat
  recorded : Message

/-- Writes the signature. It covers all that was written from `start` on, if a validation algorithm
of some length is part of that. -/
def writeSigned (start length : Nat) (validated : Message) : Writing Marks := do
  let stop ← Writing.position
  let signer ← Writing.signer
  let range := if 0 < length then some (start, stop) else none
  let covered ← Writing.covered range
  let _ ← Validation.writeSignature validated range
  return ⟨start, stop, (Validation.signature validated signer covered).2⟩

/-- Writes the parts behind the fixed header. -/
def writeParts (m : Message) (config : Config) (now : UInt64) : Writing Marks := do
  let _ ← m.writeZone .hop
  let start ← Writing.position
  let _ ← writeMessage m
  let length ← Validation.writeAlgorithm m config now
  let signer ← Writing.signer
  writeSigned start length (Validation.algorithm m signer config now).2

/-- Writes the parts behind the place of the fixed header. -/
def writeBehind (m : Message) (config : Config) (now : UInt64) : Writing Marks := do
  let _ ← Writing.append (Emit.raw (List.replicate fixedHeaderLength 0))
  writeParts m config now

/-- Writes the fixed header in its place, once the length of the packet is known. -/
def writeHeader (limit : Nat) (marks : Marks) : Writing Unit := do
  let length ← Writing.position
  let header ← Writing.check do
    checkLength length limit
    Header.ofMessage marks.recorded length marks.start
  Writing.patch 0 header.toBytes

/-- Writes a packet. -/
def write (m : Message) (config : Config) (now : UInt64) : Writing Marks := do
  let marks ← writeBehind m config now
  writeHeader config.maxPacketLength marks
  return marks

/-- Writes a packet with a new encoder. -/
def assemble (m : Message) (signer : Option Signer) (config : Config) (now : UInt64) :
    Except EncodeError Encoded :=
  match write m config now { signer } with
  | (.error error, _) => .error error
  | (.ok marks, e) => .ok {
      wire := e.toScatter
      signed := ⟨marks.start, marks.stop - marks.start⟩
      hashed := ⟨marks.start, e.position - marks.start⟩
      message := marks.recorded }

/-- The parts in order, and their places behind a number of bytes. -/
def Parts.emitBehind (p : Parts) (front : Nat) : Emit Marks := do
  p.emit
  let start := front + Piece.total p.hop.pieces
  return ⟨start, start + p.signedLength, p.recorded⟩

end Packet

/-! ## Emissions in a row, and what they add -/

namespace Emit

theorem andThen_done {α : Type} (m : Emit α) : andThen m done = m := by
  obtain ⟨pieces, result⟩ := m
  cases result with
  | error x => rfl
  | ok a => exact congrArg (Emit.mk · (.ok a)) (List.append_nil pieces)

theorem andThen_assoc {α β γ : Type} (m : Emit α) (f : α → Emit β) (g : β → Emit γ) :
    andThen (andThen m f) g = andThen m fun a => andThen (f a) g := by
  obtain ⟨pieces, result⟩ := m
  cases result with
  | error x => rfl
  | ok a =>
    cases hsecond : (f a).result with
    | error x => simp only [andThen, hsecond]
    | ok b => simp only [andThen, hsecond, List.append_assoc]

instance : LawfulMonad Emit := LawfulMonad.mk' Emit andThen_done (fun _ _ => rfl) andThen_assoc

end Emit

namespace Flat

theorem length_append (v : Flat) (pieces : List Piece) :
    (v.append pieces).bytes.length = v.bytes.length + Piece.total pieces := List.length_append

/-- The bytes behind the end of a vector are those of the pieces there. -/
theorem slice_append (v : Flat) (pieces : List Piece) :
    Bytes.slice v.bytes.length (v.bytes.length + Piece.total pieces) (v.append pieces).bytes =
      Piece.concat pieces := by
  rw [Bytes.slice_add, Flat.append, List.drop_left]
  exact List.take_length

end Flat

namespace Packet

open Writing

variable {e : Encoder} {v : Flat} {signer : Option Signer} {m : Message} {config : Config}
  {now : UInt64}

/-! ## Parts behind a header -/

theorem covered_eq (he : e.Refines v) (range : Option (Nat × Nat)) :
    covered range e = (.ok (range.map fun (start, stop) => Bytes.slice start stop v.bytes), e) := by
  unfold covered
  simp only [he.slice]

/-- A signature covers what was written from the end of a vector on. -/
theorem writeSigned_performsAt {pieces : List Piece} (he : e.Refines (v.append pieces))
    (length : Nat) (validated : Message) :
    let covered := if 0 < length then some (Piece.concat pieces) else none
    (writeSigned v.bytes.length length validated).PerformsAt
      (do
        let _ ← (Validation.signature validated e.signer covered).1
        return ⟨v.bytes.length, v.bytes.length + Piece.total pieces,
          (Validation.signature validated e.signer covered).2⟩)
      e (v.append pieces) := by
  intro covered
  have hcovered : Option.map
      (fun (start, stop) => Bytes.slice start stop (v.append pieces).bytes)
      (if 0 < length then some (v.bytes.length, v.bytes.length + Piece.total pieces) else none) =
        covered := by
    by_cases hlength : 0 < length
    · simp only [covered, if_pos hlength, Option.map_some, v.slice_append]
    · simp only [covered, if_neg hlength, Option.map_none]
  have hsignature := Validation.writeSignature_performsAt he validated
    (if 0 < length then some (v.bytes.length, v.bytes.length + Piece.total pieces) else none)
  rw [hcovered] at hsignature
  unfold writeSigned
  refine PerformsAt.look ?_ rfl
  refine PerformsAt.look ?_ rfl
  refine PerformsAt.look ?_ (covered_eq he _)
  rw [he.position, v.length_append, hcovered]
  exact hsignature.bind fun _ _ => Performs.ret _ _ _ _ rfl hsignature.refines

/-- Once the algorithm is written it is known what the signature covers. -/
theorem Parts.ofMessage_eq {length : Nat}
    (h : (Validation.algorithm m signer config now).1.result = .ok length) :
    let algorithm := (Validation.algorithm m signer config now).1
    let signature := Validation.signature (Validation.algorithm m signer config now).2 signer
      (if 0 < length then some (Piece.concat ((emitMessage m).pieces ++ algorithm.pieces))
        else none)
    ofMessage m signer config now =
      { hop := m.emitZone .hop
        message := emitMessage m
        algorithm := algorithm
        signature := signature.1
        recorded := signature.2 } := by
  simp only [ofMessage, h, Piece.concat_append]
  rfl

/-- The parts behind any bytes are written as they are known to be. -/
theorem writeParts_performsAt (he : e.Refines v) (m : Message) (config : Config) (now : UInt64) :
    (writeParts m config now).PerformsAt
      ((Parts.ofMessage m e.signer config now).emitBehind v.bytes.length) e v := by
  have hhop := m.performs_writeZone e.signer .hop e v rfl he
  have hmessage := performs_writeMessage e.signer m _ _ hhop.signer hhop.refines
  have halgorithm := Validation.performs_writeAlgorithm e.signer m config now _ _
    (hmessage.signer.trans hhop.signer) hmessage.refines
  have hsigner := halgorithm.signer.trans (hmessage.signer.trans hhop.signer)
  have hrefines := halgorithm.refines
  rw [Flat.append_append] at hrefines
  unfold writeParts Parts.emitBehind Parts.emit
  simp only [bind_assoc, pure_bind]
  refine hhop.bind fun _ _ => ?_
  refine PerformsAt.look ?_ rfl
  refine hmessage.bind fun _ _ => ?_
  refine halgorithm.bind fun length hlength => ?_
  refine PerformsAt.look ?_ rfl
  rw [hhop.refines.position, hsigner, Flat.append_append, Parts.ofMessage_eq hlength]
  have hsigned := writeSigned_performsAt hrefines length
    (Validation.algorithm m e.signer config now).2
  rw [hsigner, Flat.length_append, Piece.total_append] at hsigned
  rw [Flat.length_append]
  exact hsigned

/-! ## Packets -/

/-- Bytes that can be written over, and the pieces behind them. -/
def behind (front : Bytes) (pieces : List Piece) : Flat :=
  ⟨front ++ Piece.concat pieces, List.replicate front.length false ++ Piece.allPins pieces⟩

/-- A header takes the place of as many other bytes. -/
theorem patch_header {front : Bytes} {pieces : List Piece}
    (hfront : front.length = fixedHeaderLength) (he : e.Refines (behind front pieces))
    (header : Header) :
    ∃ e', e.patch 0 header.toBytes = (.ok (), e') ∧
      e'.Refines (behind header.toBytes pieces) := by
  have hlength : header.toBytes.length = front.length := hfront.symm
  have hsplice : (behind front pieces).splice 0 header.toBytes = behind header.toBytes pieces := by
    have hall : header.toBytes.take (front ++ Piece.concat pieces).length = header.toBytes :=
      List.take_of_length_le (by rw [hlength, List.length_append]; exact Nat.le_add_right _ _)
    simp only [Flat.splice, behind, Bytes.splice, List.take_zero, List.nil_append, Nat.sub_zero,
      Nat.zero_add, hall, hlength, List.drop_left]
  have hok : (e.patch 0 header.toBytes).1 = .ok () := by
    rw [he.patch_iff, hlength, hfront]
    constructor
    · rw [behind, List.length_append, hfront]
      exact Nat.le_add_right _ _
    · rw [behind, hfront, show (0 : UInt64).toNat = 0 from rfl]
      refine (Piece.unpinned_false_append (by decide)).mpr fun i _ hlt => ?_
      omega
  refine ⟨_, Prod.ext hok rfl, ?_⟩
  rw [← hsplice]
  exact he.patch hok

variable {parts : Parts}

/-- The header in front of parts, unless they are too long. -/
def Parts.header (parts : Parts) (limit : Nat) : Except EncodeError Header := do
  checkLength parts.packetLength limit
  Header.ofMessage parts.recorded parts.packetLength parts.headerLength

/-- The places of parts behind a header. -/
def Parts.marks (parts : Parts) : Marks :=
  ⟨parts.headerLength, parts.headerLength + parts.signedLength, parts.recorded⟩

theorem encode_eq (m : Message) (signer : Option Signer) (config : Config) (now : UInt64) :
    encode m signer config now = (do
      (Parts.ofMessage m signer config now).emit.result
      ((Parts.ofMessage m signer config now).header config.maxPacketLength).map
        (Parts.ofMessage m signer config now).encoded) := by
  have hmap : ∀ result : Except EncodeError Header,
      (do let header ← result; return (Parts.ofMessage m signer config now).encoded header) =
        result.map (Parts.ofMessage m signer config now).encoded := by
    intro result
    cases result <;> rfl
  simp only [← hmap, encode, Parts.header, bind_assoc]
  rfl

theorem Parts.emitBehind_of_ok (h : parts.emit.result = .ok ()) :
    parts.emitBehind fixedHeaderLength = ⟨parts.emit.pieces, .ok parts.marks⟩ := by
  have hsteps : parts.emitBehind fixedHeaderLength =
      Emit.andThen parts.emit fun _ => Emit.done parts.marks := rfl
  rw [hsteps, Emit.andThen, h]
  exact congrArg (Emit.mk · _) (List.append_nil _)

theorem Parts.emitBehind_of_error {error : EncodeError} (h : parts.emit.result = .error error) :
    (parts.emitBehind fixedHeaderLength).result = .error error := by
  rw [Parts.emitBehind, Emit.result_bind, h]
  rfl

/-- With a new encoder the parts of a message are written behind eight zeros. -/
theorem exists_writeBehind (m : Message) (signer : Option Signer) (config : Config)
    (now : UInt64) :
    let parts := Parts.ofMessage m signer config now
    ∃ e, writeBehind m config now { signer } = ((parts.emitBehind fixedHeaderLength).result, e) ∧
      e.Refines (behind (List.replicate fixedHeaderLength 0)
        (parts.emitBehind fixedHeaderLength).pieces) := by
  intro parts
  have hempty : Encoder.Refines { signer } {} := ⟨rfl, rfl, rfl⟩
  have hparts : (writeParts m config now).PerformsAt (parts.emitBehind fixedHeaderLength) _ _ :=
    writeParts_performsAt (hempty.emit (Emit.raw (List.replicate fixedHeaderLength 0))) m config now
  have hbehind : ∀ pieces : List Piece,
      (Flat.append {} [.copied (List.replicate fixedHeaderLength 0)]).append pieces =
        behind (List.replicate fixedHeaderLength 0) pieces := by
    intro pieces
    simp [Flat.append, behind, Piece.bytes, Piece.pins]
  have hwritten := hparts.refines
  refine ⟨_, hparts.eq, ?_⟩
  rw [← hbehind]
  exact hwritten

/-- What can be told of a packet that was written, whatever its segments are. -/
def Encoded.view (e : Encoded) : Bytes × Region × Region × Message :=
  (e.wire.toBytes, e.signed, e.hashed, e.message)

/-- An encoder with a header and parts holds the packet that is put together of them. -/
theorem view_encoded {header : Header}
    (he : e.Refines (behind header.toBytes parts.emit.pieces)) :
    Encoded.view {
      wire := e.toScatter
      signed := ⟨parts.marks.start, parts.marks.stop - parts.marks.start⟩
      hashed := ⟨parts.marks.start, e.position - parts.marks.start⟩
      message := parts.marks.recorded } = (parts.encoded header).view := by
  have hwire : e.toScatter.toBytes = (parts.encoded header).wire.toBytes := by
    rw [he.shows.scatter]
    exact (Piece.toBytes_toScatter (.copied header.toBytes :: parts.emit.pieces)).symm
  have hposition : e.position = parts.packetLength := by
    rw [he.position, behind, List.length_append]
    rfl
  have hsigned : parts.marks.stop - parts.marks.start = parts.signedLength :=
    Nat.add_sub_cancel_left _ _
  rw [Encoded.view, hwire, hposition, hsigned]
  rfl

/-- Behind the parts the header is refused, or takes its place. -/
theorem assemble_of_parts {after : Encoder}
    (hbehind : writeBehind m config now { signer } = (.ok parts.marks, after))
    (hafter : after.Refines (behind (List.replicate fixedHeaderLength 0) parts.emit.pieces)) :
    (assemble m signer config now).map Encoded.view =
      ((parts.header config.maxPacketLength).map parts.encoded).map Encoded.view := by
  have hlength : Writing.position after = (.ok parts.packetLength, after) := by
    rw [Writing.position, hafter.position, behind, List.length_append, List.length_replicate]
    rfl
  have hwrite : write m config now { signer } =
      (writeHeader config.maxPacketLength parts.marks >>= fun _ => pure parts.marks) after :=
    bind_of_ok hbehind
  have hcheck : writeHeader config.maxPacketLength parts.marks after =
      (check (parts.header config.maxPacketLength) >>= fun header =>
        patch 0 header.toBytes) after :=
    bind_of_ok hlength
  cases hheader : parts.header config.maxPacketLength with
  | error error =>
    have hrefused := hcheck.trans (bind_of_error (congrArg (·, after) hheader))
    rw [assemble, hwrite, bind_of_error hrefused]
    rfl
  | ok header =>
    obtain ⟨e', hpatch, hpatched⟩ := patch_header List.length_replicate hafter header
    have hplaced := hcheck.trans ((bind_of_ok (congrArg (·, after) hheader)).trans hpatch)
    rw [assemble, hwrite, bind_of_ok hplaced]
    exact congrArg Except.ok (view_encoded hpatched)

/-- A packet in steps has the bytes, the ranges and the message of one that is put together of its
parts; where one cannot be written, neither can the other, for the same reason. -/
theorem assemble_encode (m : Message) (signer : Option Signer) (config : Config) (now : UInt64) :
    (assemble m signer config now).map Encoded.view =
      (encode m signer config now).map Encoded.view := by
  obtain ⟨after, hbehind, hafter⟩ := exists_writeBehind m signer config now
  rw [encode_eq]
  cases hparts : (Parts.ofMessage m signer config now).emit.result with
  | error error =>
    rw [Parts.emitBehind_of_error hparts] at hbehind
    have hwrite : write m config now { signer } = (.error error, after) := bind_of_error hbehind
    rw [assemble, hwrite]
    rfl
  | ok u =>
    rw [Parts.emitBehind_of_ok hparts] at hbehind hafter
    exact assemble_of_parts hbehind hafter

end Packet

end NamedContent
