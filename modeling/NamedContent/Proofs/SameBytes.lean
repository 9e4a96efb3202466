import NamedContent.Proofs.Encoding

/-!
# Emissions of the same bytes

Short values are copied and long ones shared, so that the pieces of an emission depend on how its
values are held. What is read of an emission is its result and its bytes. `Emit.SameBytes` compares
emissions in these: it holds of whatever is put together of emissions of which it holds, and of
containers, whose length is filled in last.

* `Emit.SameBytes.scatter`: a value and the same value in segments.
* `Packet.Parts.SameBytes.encode_eq_error_iff`: packets with parts of the same bytes are refused for
  the same reasons.
* `Packet.Parts.SameBytes.encoded`: put together, the parts have the same bytes and ranges.
-/

namespace NamedContent

theorem bind_ok_eq_error_iff {ε α β : Type} {x : Except ε α} {f : α → β} {e : ε} :
    (x >>= fun a => Except.ok (f a)) = .error e ↔ x = .error e := by
  cases x <;> simp [bind, Except.bind]

/-! ## Emissions of the same bytes -/

/-- Two emissions have the same result and write the same bytes, also where they fail. -/
structure Emit.SameBytes {α : Type} (m n : Emit α) : Prop where
  result : n.result = m.result
  bytes : n.bytes = m.bytes

namespace Emit

variable {α β : Type} {m n : Emit α} {f g : α → Emit β}

/-- What fails writes nothing more. -/
theorem bytes_bind_of_error {e : EncodeError} (h : m.result = .error e) :
    (m >>= f).bytes = m.bytes := by
  have hbind : m >>= f = andThen m f := rfl
  rw [hbind, andThen, h]
  rfl

namespace SameBytes

theorem refl (m : Emit α) : m.SameBytes m := ⟨rfl, rfl⟩

theorem of_eq (h : n = m) : m.SameBytes n := h ▸ refl m

theorem symm (h : m.SameBytes n) : n.SameBytes m := ⟨h.result.symm, h.bytes.symm⟩

theorem trans {k : Emit α} (h : k.SameBytes m) (h' : m.SameBytes n) : k.SameBytes n :=
  ⟨h'.result.trans h.result, h'.bytes.trans h.bytes⟩

theorem of_yields {b : Bytes} {v : α} (hm : m.Yields True b v) (hn : n.Yields True b v) :
    m.SameBytes n := by
  obtain ⟨hmr, hmb⟩ := hm.run trivial
  obtain ⟨hnr, hnb⟩ := hn.run trivial
  exact ⟨hnr.trans hmr.symm, hnb.trans hmb.symm⟩

theorem bind (h : m.SameBytes n) (hfg : ∀ a, (f a).SameBytes (g a)) :
    (m >>= f).SameBytes (n >>= g) := by
  constructor
  · simp only [result_bind, h.result, (hfg _).result]
  · cases hm : m.result with
    | ok a => rw [bytes_bind hm, bytes_bind (h.result.trans hm), h.bytes, (hfg a).bytes]
    | error e =>
      rw [bytes_bind_of_error hm, bytes_bind_of_error (h.result.trans hm), h.bytes]

/-- Two emissions in a row, of which the numbers of bytes are added up. -/
theorem seq {k k' l l' : Emit Nat} (h : k.SameBytes k') (h' : l.SameBytes l') :
    SameBytes (do let x ← k; let y ← l; return x + y) (do let x ← k'; let y ← l'; return x + y) :=
  h.bind fun _ => h'.bind fun _ => .refl _

theorem container {k l : Emit Nat} (type : UInt16) (h : k.SameBytes l) :
    (container type k).SameBytes (container type l) := by
  have hbytes : Piece.concat l.pieces = Piece.concat k.pieces := h.bytes
  unfold Emit.container
  rw [h.result]
  cases k.result with
  | error e => exact ⟨rfl, congrArg (Tlv.header type 0 ++ ·) hbytes⟩
  | ok length =>
    dsimp only
    split
    · exact ⟨rfl, congrArg (Tlv.header type 0 ++ ·) hbytes⟩
    · exact ⟨rfl, congrArg (Tlv.header type length ++ ·) hbytes⟩

/-- How the bytes of an element are cut in segments makes no difference, and where there are too
many they are refused alike. -/
theorem scatter (type : UInt16) (s : Scatter) :
    (element type s.toBytes).SameBytes (scatter type s) :=
  seq (.refl _) (.of_yields (writes_value s.toBytes) (writes_values s.segments))

theorem total (h : m.SameBytes n) : Piece.total n.pieces = Piece.total m.pieces :=
  congrArg List.length h.bytes

end SameBytes

end Emit

/-! ## Parts of packets -/

namespace Packet

/-- A header is refused for its lengths only. -/
theorem headerOf_eq_error_iff (m r : Message) (packetLength headerLength : Nat)
    (err : EncodeError) :
    Header.ofMessage m packetLength headerLength = .error err ↔
      Header.ofMessage r packetLength headerLength = .error err := by
  unfold Header.ofMessage
  split
  · rfl
  · split
    · rfl
    · simp

/-- All parts of two packets are written with the same bytes. -/
structure Parts.SameBytes (p q : Parts) : Prop where
  hop : p.hop.SameBytes q.hop
  message : p.message.SameBytes q.message
  algorithm : p.algorithm.SameBytes q.algorithm
  signature : p.signature.SameBytes q.signature

namespace Parts.SameBytes

variable {p q : Parts}

theorem emit (h : p.SameBytes q) : p.emit.SameBytes q.emit :=
  h.hop.bind fun _ => h.message.bind fun _ => h.algorithm.bind fun _ => h.signature.bind fun _ =>
    .refl _

theorem headerLength (h : p.SameBytes q) : q.headerLength = p.headerLength := by
  rw [Parts.headerLength, Parts.headerLength, h.hop.total]

theorem signedLength (h : p.SameBytes q) : q.signedLength = p.signedLength := by
  rw [Parts.signedLength, Parts.signedLength, h.message.total, h.algorithm.total]

theorem packetLength (h : p.SameBytes q) : q.packetLength = p.packetLength := by
  rw [Parts.packetLength, Parts.packetLength, h.emit.total]

theorem encode_eq_error_iff {m r : Message} {signer : Option Signer} {config : Config}
    {now now' : UInt64} {err : EncodeError}
    (h : (ofMessage m signer config now).SameBytes (ofMessage r signer config now')) :
    encode m signer config now = .error err ↔ encode r signer config now' = .error err := by
  have hheader := headerOf_eq_error_iff (ofMessage m signer config now).recorded
    (ofMessage r signer config now').recorded (ofMessage m signer config now).packetLength
    (ofMessage m signer config now).headerLength err
  unfold encode
  simp only [h.emit.result, h.packetLength, h.headerLength]
  -- Both runs stop at the same check, or at none.
  cases (ofMessage m signer config now).emit.result with
  | error e => rfl
  | ok _ =>
    cases checkLength (ofMessage m signer config now).packetLength config.maxPacketLength with
    | error e => rfl
    | ok _ =>
      exact bind_ok_eq_error_iff.trans (hheader.trans bind_ok_eq_error_iff.symm)

end Parts.SameBytes

/-- Two packets have the same bytes and ranges, but may be in other segments. -/
structure Encoded.SameBytes (e e' : Encoded) : Prop where
  wire : e'.wire.toBytes = e.wire.toBytes
  signed : e'.signed = e.signed
  hashed : e'.hashed = e.hashed

theorem Parts.SameBytes.encoded {p q : Parts} (h : p.SameBytes q) (header : Header) :
    (p.encoded header).SameBytes (q.encoded header) := by
  refine ⟨?_, ?_, ?_⟩
  · have hbytes : Piece.concat q.emit.pieces = Piece.concat p.emit.pieces := h.emit.bytes
    rw [Parts.encoded, Parts.encoded, Piece.toBytes_toScatter, Piece.toBytes_toScatter,
      Piece.concat_cons, Piece.concat_cons, hbytes]
  · rw [Parts.encoded, Parts.encoded, h.headerLength, h.signedLength]
  · rw [Parts.encoded, Parts.encoded, h.headerLength, h.packetLength]

end Packet

end NamedContent
