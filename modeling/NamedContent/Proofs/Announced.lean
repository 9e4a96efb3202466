import NamedContent.Proofs.Canonical

/-!
# Packets among other bytes

A packet is read from the bytes that its header announces, and from nothing behind them
(`decode_announced`). Whether the length is checked or the elements are taken apart, what decides
is the header and the bytes up to the announced length.

* `ReadsAnnounced`: what it means to read the packet at the front of a byte string.
* `decodeAnnounced_append`: bytes behind the packet change no outcome, also no failure.
* `decodeAnnounced_of_cut`: a packet that is cut short is told from a broken one.
-/

namespace NamedContent

variable {b c front : Bytes} {h : Header}

namespace Header

/-- A header is known from the first eight bytes. -/
theorem parse_append (hlength : fixedHeaderLength ≤ b.length) (c : Bytes) :
    parse (b ++ c) = parse b := by
  match b, hlength with
  | _ :: _ :: _ :: _ :: _ :: _ :: _ :: _ :: _, _ => rfl

theorem parse_of_short (hlength : b.length < fixedHeaderLength) :
    parse b = .error (.fieldBeyondPacketEnd 0 fixedHeaderLength b.length) := by
  match b, hlength with
  | [], _ | [_], _ | [_, _], _ | [_, _, _], _ | [_, _, _, _], _ | [_, _, _, _, _], _
  | [_, _, _, _, _, _], _ | [_, _, _, _, _, _, _], _ => rfl

theorem length_le_of_parse (hparse : parse b = .ok h) : fixedHeaderLength ≤ b.length := by
  by_contra hshort
  rw [parse_of_short (by omega)] at hparse
  cases hparse

end Header

namespace Packet

variable {d d' : Decoded} {read : Bytes → Except DecodeError Decoded}

/-- How a packet is read from the front of a byte string: the packet ends where its header
announces, what stands behind it is not looked at, and without its last bytes it is not read. -/
structure ReadsAnnounced (read : Bytes → Except DecodeError Decoded) : Prop where
  /-- What is accepted has the announced length. -/
  announced : ∀ b d, read b = .ok d →
    announcedLength? b = some d.packet.length ∧ d.packet = b.take d.packet.length
  /-- The packet alone tells what was read, whatever follows it. -/
  behind : ∀ b d, read b = .ok d → ∀ c, read (d.packet ++ c) = .ok d
  /-- Of a packet that is cut short, header or announced bytes are missing. -/
  cut : ∀ b d, read b = .ok d → ∀ front, front <+: d.packet → front ≠ d.packet →
    read front = .error (.fieldBeyondPacketEnd 0
      (if front.length < fixedHeaderLength then fixedHeaderLength else d.packet.length)
      front.length)
  /-- Once the announced bytes are there, what follows changes nothing, also no failure. -/
  append : ∀ b h, Header.parse b = .ok h → h.packetLength.toNat ≤ b.length →
    ∀ c, read (b ++ c) = read b

/-- No packet goes on as another one. -/
theorem ReadsAnnounced.eq_of_continued (hread : ReadsAnnounced read) (hb : read b = .ok d)
    (hc : read c = .ok d') (hwhole : d'.packet = c) (hcontinued : d.packet <+: c) :
    d.packet = c := by
  by_contra hne
  have halone := hread.behind b d hb []
  rw [List.append_nil] at halone
  have hcut := hread.cut c d' hc d.packet (hwhole.symm ▸ hcontinued) (hwhole.symm ▸ hne)
  rw [halone] at hcut
  cases hcut

/-! ## Outcomes by the header -/

theorem decodeAnnounced_of_cut (hparse : Header.parse b = .ok h)
    (hlength : b.length < h.packetLength.toNat) :
    decodeAnnounced b = .error (.fieldBeyondPacketEnd 0 h.packetLength.toNat b.length) := by
  unfold decodeAnnounced
  simp only [hparse, bind, Except.bind, Bytes.splitAt?_eq_none_iff.mpr hlength]

theorem decodeAnnounced_append (hparse : Header.parse b = .ok h)
    (hlength : h.packetLength.toNat ≤ b.length) (c : Bytes) :
    decodeAnnounced (b ++ c) = decodeAnnounced b := by
  have hsplit : ∀ c, Bytes.splitAt? h.packetLength.toNat (b ++ c) =
      some (b.take h.packetLength.toNat, b.drop h.packetLength.toNat ++ c) := by
    intro c
    refine Bytes.splitAt?_eq_some_iff.mpr ⟨?_, List.length_take_of_le hlength⟩
    rw [← List.append_assoc, List.take_append_drop]
  have hb := hsplit []
  rw [List.append_nil, List.append_nil] at hb
  unfold decodeAnnounced
  rw [Header.parse_append (Header.length_le_of_parse hparse), hparse]
  simp only [bind, Except.bind, hsplit c, hb]

/-- The look at the version comes to nothing where there is none or it is the known one. -/
theorem decode_eq_decodeAnnounced (hversion : ∀ version ∈ b.head?, version = schemaVersion) :
    decode b = decodeAnnounced b := by
  cases b with
  | nil => rfl
  | cons version rest => exact if_pos (hversion version rfl)

theorem version_of_parse (hparse : Header.parse b = .ok h) (hfront : front <+: b) :
    ∀ version ∈ front.head?, version = schemaVersion := by
  intro version hversion
  obtain ⟨hfault, rest, rfl⟩ := Header.parse_eq_ok_iff.mp hparse
  cases front with
  | nil => cases hversion
  | cons first front =>
    obtain ⟨rfl, -⟩ := List.cons_prefix_cons.mp hfront
    obtain rfl : h.version = version := Option.some.inj hversion
    exact (Header.fault?_eq_none_iff.mp hfault).1

/-! ## Readers -/

theorem exists_layout_of_announced (hok : decodeAnnounced b = .ok d) :
    ∃ p : Layout, p.Valid ∧ ∃ behind, b = p.toBytes ++ behind ∧
      d = { message := p.message, packet := p.toBytes, signed := p.signed, hashed := p.hashed } :=
  exists_layout_of_decode (decode_eq_ok_iff_announced.mpr hok)

theorem readsAnnounced_decodeAnnounced : ReadsAnnounced decodeAnnounced where
  announced b d hok := by
    obtain ⟨p, hp, behind, rfl, rfl⟩ := exists_layout_of_announced hok
    exact ⟨announcedLength?_toBytes_append hp behind ▸ congrArg some p.length_toBytes.symm,
      List.take_left.symm⟩
  behind b d hok c := by
    obtain ⟨p, hp, behind, rfl, rfl⟩ := exists_layout_of_announced hok
    exact decode_eq_ok_iff_announced.mp (decode_toBytes_append hp c)
  cut b d hok front hfront hne := by
    obtain ⟨p, hp, behind, rfl, rfl⟩ := exists_layout_of_announced hok
    have hlt : front.length < p.toBytes.length :=
      Nat.lt_of_le_of_ne hfront.length_le fun heq => hne (hfront.eq_of_length heq)
    split
    · next hshort =>
      unfold decodeAnnounced
      rw [Header.parse_of_short hshort]
      rfl
    · next hlong =>
      obtain ⟨rest, hrest⟩ := hfront
      have hparse : Header.parse front = .ok p.header := by
        rw [← Header.parse_append (by omega) rest, hrest, parse_toBytes hp.bounded]
      have hlength : p.header.packetLength.toNat = p.toBytes.length := by
        rw [hp.bounded.toNat_packetLength, p.length_toBytes]
      rw [decodeAnnounced_of_cut hparse (hlength.symm ▸ hlt), hlength]
  append b h hparse hlength c := decodeAnnounced_append hparse hlength c

theorem readsAnnounced_decode : ReadsAnnounced decode where
  announced b d hok :=
    readsAnnounced_decodeAnnounced.announced b d (decode_eq_ok_iff_announced.mp hok)
  behind b d hok c := decode_eq_ok_iff_announced.mpr
    (readsAnnounced_decodeAnnounced.behind b d (decode_eq_ok_iff_announced.mp hok) c)
  cut b d hok front hfront hne := by
    have hannounced := decode_eq_ok_iff_announced.mp hok
    have halone := readsAnnounced_decodeAnnounced.behind b d hannounced []
    obtain ⟨h, -, -, -, hparse, -⟩ := decodeAnnounced_eq_ok_iff.mp halone
    rw [List.append_nil] at hparse
    rw [decode_eq_decodeAnnounced (version_of_parse hparse hfront)]
    exact readsAnnounced_decodeAnnounced.cut b d hannounced front hfront hne
  append b h hparse hlength c := by
    have happ : Header.parse (b ++ c) = .ok h := by
      rw [Header.parse_append (Header.length_le_of_parse hparse), hparse]
    rw [decode_eq_decodeAnnounced (version_of_parse hparse (List.prefix_refl b)),
      decode_eq_decodeAnnounced (version_of_parse happ (List.prefix_refl _)),
      decodeAnnounced_append hparse hlength]

/-- A packet is read from exactly the bytes that it announces, with and without a look at its
version, and no packet goes on as another one. -/
theorem decode_announced :
    ReadsAnnounced decodeAnnounced ∧ ReadsAnnounced decode ∧
      ∀ b c d d', decode b = .ok d → decode c = .ok d' → d'.packet = c → d.packet <+: c →
        d.packet = c :=
  ⟨readsAnnounced_decodeAnnounced, readsAnnounced_decode,
    fun _ _ _ _ => readsAnnounced_decode.eq_of_continued⟩

/-- A header that announces one byte behind it, which is no element. -/
def Sample.broken : Bytes := [1, 0, 0, 9, 0, 0, 0, 8, 0xFF]

/-! A packet, the same with another one behind it and without its last byte; and a packet that is
refused, before which the bytes behind it make no difference. -/

theorem decode_announced_sample :
    ∃ d, decode Sample.shuffled.toBytes = .ok d ∧
      announcedLength? Sample.shuffled.toBytes = some d.packet.length ∧
      decode (d.packet ++ Sample.broken) = .ok d ∧
      (d.packet.dropLast <+: d.packet ∧ d.packet.dropLast ≠ d.packet ∧
        ∃ e, decode d.packet.dropLast = .error e) ∧
      (∃ h, Header.parse Sample.broken = .ok h ∧ h.packetLength.toNat ≤ Sample.broken.length ∧
        decode (Sample.broken ++ d.packet) = decode Sample.broken) ∧
      d.packet = Sample.shuffled.toBytes := by
  have hread := decode_toBytes_append Sample.valid_shuffled []
  rw [List.append_nil] at hread
  obtain ⟨-, hdecode, hcontinued⟩ := decode_announced
  have hne : Sample.shuffled.toBytes.dropLast ≠ Sample.shuffled.toBytes := by decide
  refine ⟨_, hread, (hdecode.announced _ _ hread).1, hdecode.behind _ _ hread _,
    ⟨List.dropLast_prefix _, hne, _, hdecode.cut _ _ hread _ (List.dropLast_prefix _) hne⟩,
    ⟨⟨1, 0, 9, 0, 0, 0, 8⟩, by decide, by decide, hdecode.append _ _ rfl (by decide) _⟩,
    hcontinued _ _ _ _ hread hread rfl (List.prefix_refl _)⟩

end Packet

end NamedContent
