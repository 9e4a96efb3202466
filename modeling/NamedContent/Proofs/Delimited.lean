import NamedContent.Proofs.Canonical
import NamedContent.Proofs.Stream

/-!
# Packets that delimit themselves

What is written for a message, whatever the message holds, tells its own length, and the elements it
is made of can be told apart. So packets that were written one behind the other are found again by
whoever cuts the stream.

* `selfDelimiting_of_encode`: the lengths, headers and elements of a packet that was written.
* `given_encoded`: a buffer gives away the packets that were written, however they arrive.
-/

namespace NamedContent

namespace Packet

open Layout

/-! ## One packet -/

/-- What may follow the message of a packet: nothing, or a validation algorithm around one suite,
and behind it a signature or nothing. -/
inductive Trailer : List Tlv → Prop
  | absent : Trailer []
  | validated {algorithm suite : Tlv} (type : algorithm.type = Part.algorithmType)
      (holds : Tlv.scan algorithm.value = ([suite], none)) (signature : Option Bytes) :
      Trailer (algorithm :: (signature.map (Tlv.mk Part.signatureType)).toList)

/-- The fixed header of a packet tells how long the packet and its headers are; the headers are
those of the message, and what stands behind them is a message and what may follow it. -/
structure SelfDelimiting (limit : Nat) (m : Message) (w : Bytes) (h : Header) (hop : List Tlv)
    (message : Tlv) (trailer : List Tlv) : Prop where
  parse : Header.parse w = .ok h
  packetLength : h.packetLength.toNat = w.length
  bound : w.length ≤ min limit maxLength
  headerLength : h.headerLength.toNat = fixedHeaderLength + (m.emitZone .hop).bytes.length
  headers : Bytes.slice fixedHeaderLength h.headerLength.toNat w = (m.emitZone .hop).bytes
  hop : Tlv.scan (m.emitZone .hop).bytes = (hop, none)
  content : Tlv.scan (w.drop h.headerLength.toNat) = (message :: trailer, none)
  type : message.type = m.kind.elementType
  trailer : Trailer trailer

variable {m : Message} {signer : Option Signer} {config : Config} {now : UInt64} {e : Encoded}
  {p : Layout} {w : Bytes} {limit : Nat}

theorem trailer_validationElements {v : Option Validation}
    (hfits : ∀ t ∈ validationElements v, t.Fits) : Trailer (validationElements v) := by
  cases v with
  | none => exact .absent
  | some v =>
    have hsuite := Tlv.fits_of_toBytes (hfits v.algorithm List.mem_cons_self)
    have hscan : Tlv.scan (Tlv.concat [⟨v.suite, Tlv.concat v.fields⟩]) = _ :=
      Tlv.scan_concat fun t ht => List.mem_singleton.mp ht ▸ hsuite
    rw [Tlv.concat_cons, Tlv.concat_nil, List.append_nil] at hscan
    exact .validated rfl hscan v.signature

theorem selfDelimiting_of_encode (hok : encode m signer config now = .ok e) :
    ∃ h hop message trailer,
      SelfDelimiting config.maxPacketLength m e.wire.toBytes h hop message trailer := by
  have hp := bounded_of_encode hok
  obtain ⟨hspells, hr, -⟩ := spells_of_encode hok
  obtain ⟨-, -, hparts, hlimit⟩ := parts_of_encode hok
  have hhop : (m.emitZone .hop).bytes = Tlv.concat (ofMessage e.message).hop := hparts.hop.2
  have hcontent := Tlv.scan_concat (fits_content hp.packet)
  refine ⟨(ofMessage e.message).header, (ofMessage e.message).hop,
    (ofMessage e.message).messageElement, validationElements (ofMessage e.message).validation, ?_⟩
  rw [hspells.wire]
  constructor
  · exact parse_toBytes hp
  · rw [hp.toNat_packetLength, length_toBytes]
  · rw [length_toBytes]
    exact Nat.le_min.mpr ⟨hlimit, hp.packet⟩
  · rw [hp.toNat_headerLength, hhop]
    rfl
  · rw [hp.toNat_headerLength, slice_hop, hhop]
  · rw [hhop]
    exact Tlv.scan_concat (fits_hop hp.packet)
  · rw [hp.toNat_headerLength, drop_headers]
    exact hcontent
  · exact congrArg MessageKind.elementType hr.frame.kind
  · exact trailer_validationElements (List.forall_mem_cons.mp (fits_content hp.packet)).2

/-! ## Streams of packets -/

/-- A packet that was written for some message. -/
def Written (w : Bytes) : Prop :=
  ∃ m signer config now e, encode m signer config now = .ok e ∧ e.wire.toBytes = w

/-- Within the limit of a stream a packet that was written is a packet of the stream. -/
theorem firstLength_of_written (h : Written w) (hlimit : w.length ≤ limit) :
    Framing.firstLength limit w = .ok w.length := by
  obtain ⟨m, signer, config, now, e, hok, rfl⟩ := h
  have hp := bounded_of_encode hok
  obtain ⟨hspells, -⟩ := spells_of_encode hok
  have hannounced := announcedLength?_toBytes hp
  rw [← length_toBytes, ← hspells.wire] at hannounced
  refine Framing.firstLength_eq_ok_iff.mpr ⟨hannounced, ?_, hlimit⟩
  rw [hspells.wire, length_toBytes]
  exact Nat.le_trans (fixedHeaderLength_le _) (headerLength_le _)

/-- Every packet that is written delimits itself, and however packets in a row are fed to a buffer
that has no lower limit, it gives them away as they were written, and keeps nothing. -/
theorem given_encoded :
    (∀ m signer config now e, encode m signer config now = .ok e →
      ∃ h hop message trailer,
        SelfDelimiting config.maxPacketLength m e.wire.toBytes h hop message trailer) ∧
    ∀ (ws : List Bytes) (f : FrameBuffer) (rs : List FrameBuffer.Request),
      (∀ w ∈ ws, Written w ∧ w.length ≤ f.maxPacketLength) → f.Feeds rs ws.flatten →
        ¬ f.Fails rs ∧ f.given rs = ws ∧ (f.after rs).buffered = [] := by
  refine ⟨fun _ _ _ _ _ hok => selfDelimiting_of_encode hok, fun ws f rs hws hfeeds => ?_⟩
  have hcut : Framing.cut f.maxPacketLength ws.flatten = ⟨ws, [], none⟩ :=
    Framing.cut_flatten fun w hw => firstLength_of_written (hws w hw).1 (hws w hw).2
  have hok : ¬ f.Fails rs := by
    rw [hfeeds.fails_iff, hcut]
    exact fun h => h rfl
  obtain ⟨hgiven, hbuffered, -⟩ := Framing.Cut.mk.inj (hcut.symm.trans (hfeeds.cut_eq hok))
  exact ⟨hok, hgiven.symm, hbuffered.symm⟩

/-! The packet of the sample twice, in two pieces of which the first has no whole header. -/

theorem given_encoded_sample :
    ∃ e, encode Sample.message (some Sample.frontSigner) {} 7 = .ok e ∧
      let stream := [e.wire.toBytes, e.wire.toBytes].flatten
      let f : FrameBuffer := .create {} (2 * maxLength)
      let rs : List FrameBuffer.Request :=
        [.add (stream.take 5), .extract, .add (stream.drop 5), .extract]
      f.Feeds rs stream ∧ ¬ f.Fails rs ∧ f.given rs = [e.wire.toBytes, e.wire.toBytes] ∧
        (f.after rs).buffered = [] := by
  obtain ⟨e, hok⟩ : ∃ e, encode Sample.message (some Sample.frontSigner) {} 7 = .ok e := ⟨_, rfl⟩
  refine ⟨e, hok, ?_⟩
  intro stream f rs
  obtain ⟨hpacket, hstream⟩ := given_encoded
  obtain ⟨_, _, _, _, hdelimited⟩ := hpacket _ _ _ _ _ hok
  have hlength : e.wire.toBytes.length ≤ maxLength := (Nat.le_min.mp hdelimited.bound).2
  have hwritten : ∀ w ∈ [e.wire.toBytes, e.wire.toBytes],
      Written w ∧ w.length ≤ f.maxPacketLength := by
    have hone : Written e.wire.toBytes ∧ e.wire.toBytes.length ≤ f.maxPacketLength :=
      ⟨⟨_, _, _, _, e, hok, rfl⟩, hlength⟩
    exact List.forall_mem_cons.mpr ⟨hone, List.forall_mem_cons.mpr ⟨hone, nofun⟩⟩
  have hfeeds : f.Feeds rs stream := by
    refine FrameBuffer.feeds_of_room rfl ?_ ?_ (by simp [rs]) ⟨[_, _, _], rfl⟩
    · show stream.take 5 ++ ([] ++ (stream.drop 5 ++ ([] ++ []))) = stream
      simp
    · show stream.length ≤ 2 * maxLength
      simp only [stream, List.flatten_cons, List.flatten_nil, List.length_append, List.length_nil]
      omega
  exact ⟨hfeeds, hstream _ _ _ hwritten hfeeds⟩

end Packet

end NamedContent
