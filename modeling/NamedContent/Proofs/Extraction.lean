import NamedContent.Proofs.Stream

/-!
# Extractions that fail

An extraction splits whole packets off the front of a buffer, until what is left is not a whole
packet or begins with a faulty header. In the second case it fails, and what it has split off by
then is lost: it is not given away, and it is not in the buffer any more.

* `Framing.stops_iff_cut`: a cut ends in a fault exactly where whole packets, or none, stand in
  front of a faulty header.
* `FrameBuffer.Jammed.given_eq_nil`: behind a faulty header nothing is given away any more.
* `FrameBuffer.extract_forfeits`: when an extraction fails, and what it loses.
-/

namespace NamedContent

namespace Framing

/-- A stream is split into whole packets, each as long as it announces and within the limit, and a
leftover that begins with a faulty header. -/
structure Stops (limit : Nat) (b : Bytes) (packets : List Bytes) (leftover : Bytes)
    (e : FramingError) : Prop where
  whole : packets.flatten ++ leftover = b
  announced : ∀ packet ∈ packets, Packet.announcedLength? packet = some packet.length ∧
    fixedHeaderLength ≤ packet.length ∧ packet.length ≤ limit
  header : fixedHeaderLength ≤ leftover.length
  offends : Offends limit leftover e

variable {limit : Nat} {b leftover : Bytes} {packets : List Bytes} {e : FramingError}

theorem Stops.firstLength (h : Stops limit b packets leftover e) :
    ∀ packet ∈ packets, firstLength limit packet = .ok packet.length :=
  fun packet hmem => firstLength_eq_ok_iff.mpr (h.announced packet hmem)

theorem Stops.cut_eq (h : Stops limit b packets leftover e) :
    cut limit b = ⟨packets, leftover, some e⟩ := by
  rw [← h.whole, cut_flatten_append h.firstLength, cut_of_offends h.header h.offends, Cut.behind,
    List.append_nil]

/-- A cut ends in a fault where whole packets, or none, stand in front of a faulty header. -/
theorem stops_iff_cut :
    Stops limit b packets leftover e ↔ cut limit b = ⟨packets, leftover, some e⟩ := by
  constructor
  · exact Stops.cut_eq
  · intro h
    -- What holds of every cut, read for this one.
    have hwhole := flatten_cut limit b
    have hannounced := fun packet => @announcedLength?_of_mem_cut limit b packet
    have hlength := fun packet => @length_of_mem_cut limit b packet
    obtain ⟨hheader, hoffends⟩ := offends_of_fault (congrArg Cut.fault h)
    rw [h] at hwhole hannounced hlength hheader hoffends
    exact ⟨hwhole, fun packet hmem => ⟨hannounced packet hmem, hlength packet hmem⟩, hheader,
      hoffends⟩

/-- Nothing stands in front of a faulty header only if no packet does. -/
theorem Stops.leftover_eq_iff (h : Stops limit b packets leftover e) :
    leftover = b ↔ packets = [] := by
  constructor
  · intro heq
    have hflatten : packets.flatten = [] := List.append_left_eq_self.mp (h.whole.trans heq.symm)
    cases packets with
    | nil => rfl
    | cons packet rest =>
      obtain ⟨-, hge, -⟩ := h.announced packet List.mem_cons_self
      have hnil : packet = [] := (List.append_eq_nil_iff.mp hflatten).1
      rw [hnil] at hge
      exact absurd hge (by decide)
  · rintro rfl
    exact h.whole

end Framing

namespace FrameBuffer

variable {f g : FrameBuffer} {rs : List Request} {r : Request} {packets : List Bytes}
  {leftover : Bytes} {e : FramingError}

/-- An extraction fails where the cut meets a fault, and leaves behind what is left of the cut. -/
theorem extract_eq_error_iff : f.extract = (.error e, g) ↔
    ∃ packets leftover, Framing.Stops f.maxPacketLength f.buffered packets leftover e ∧
      g = { f with buffered := leftover } := by
  simp only [Framing.stops_iff_cut]
  constructor
  · intro h
    cases hfault : (Framing.cut f.maxPacketLength f.buffered).fault with
    | none =>
      rw [extract_of_none hfault] at h
      cases h
    | some e' =>
      rw [extract_of_some hfault] at h
      cases h
      exact ⟨_, _, by rw [← hfault], rfl⟩
  · rintro ⟨packets, leftover, hcut, rfl⟩
    rw [extract_of_some (congrArg Framing.Cut.fault hcut), hcut]

/-- The packets in front of a faulty header, without the header. -/
theorem extract_of_stops (h : Framing.Stops f.maxPacketLength f.buffered packets leftover e) :
    { f with buffered := packets.flatten }.extract = (.ok packets, { f with buffered := [] }) := by
  have hcut : Framing.cut { f with buffered := packets.flatten }.maxPacketLength packets.flatten =
      ⟨packets, [], none⟩ := Framing.cut_flatten h.firstLength
  rw [extract_of_none (congrArg Framing.Cut.fault hcut)]
  simp only [hcut]

/-- In front of a faulty header no request has anything to give away. -/
theorem Jammed.given_step (h : f.Jammed e) : (f.step r).1.given = [] := by
  cases r with
  | add b =>
    by_cases hroom : f.buffered.length + b.length ≤ f.capacity
    · rw [step_add_of_le hroom]
      rfl
    · rw [step_add_of_lt (Nat.not_le.mp hroom)]
      rfl
  | extract =>
    rw [step_extract_of_some (congrArg Framing.Cut.fault h.cut_eq)]
    rfl
  | clear => rfl

/-- Until all bytes are forgotten, nothing is given away from behind a faulty header. -/
theorem Jammed.given_eq_nil (h : f.Jammed e) (hrs : .clear ∉ rs) : f.given rs = [] := by
  induction rs generalizing f with
  | nil => rfl
  | cons r rs ih =>
    have hstep := (h.step fun hr => hrs (hr ▸ List.mem_cons_self)).1
    rw [given_cons, h.given_step, ih hstep fun hmem => hrs (List.mem_cons_of_mem r hmem)]
    rfl

/-- An extraction fails exactly where whole packets, or none, stand in front of a faulty header, and
then it leaves the header and what follows it. So it leaves the buffer as it was only if no packet
stands in front of the header. Those that stand there would have been given away if the header had
not followed them, and nothing that is asked for later brings them back. -/
theorem extract_forfeits (f : FrameBuffer) :
    (∀ e g, f.extract = (.error e, g) ↔
      ∃ packets leftover, Framing.Stops f.maxPacketLength f.buffered packets leftover e ∧
        g = { f with buffered := leftover }) ∧
    ∀ packets leftover e, Framing.Stops f.maxPacketLength f.buffered packets leftover e →
      (leftover = f.buffered ↔ packets = []) ∧
      { f with buffered := packets.flatten }.extract = (.ok packets, { f with buffered := [] }) ∧
      ∀ rs, .clear ∉ rs → { f with buffered := leftover }.given rs = [] := by
  refine ⟨fun e g => extract_eq_error_iff, fun packets leftover e h => ?_⟩
  have hjammed : Jammed { f with buffered := leftover } e := ⟨h.header, h.offends⟩
  exact ⟨h.leftover_eq_iff, extract_of_stops h, fun rs hrs => hjammed.given_eq_nil hrs⟩

/-! Two packets of a fixed header each in front of a header of another version. -/

namespace Sample

/-- A fixed header of the version 9. -/
def foreign : Bytes := [0x09, 0xA4, 0x00, 0x08, 0x00, 0x00, 0x00, 0x08]

/-- A buffer with two packets and the header behind them. -/
def broken : FrameBuffer :=
  { buffered := header ++ header ++ foreign, capacity := 64, maxPacketLength := maxLength }

theorem stops_broken : Framing.Stops broken.maxPacketLength broken.buffered [header, header]
    foreign (.unsupportedVersion 9) where
  whole := rfl
  announced := by decide
  header := by decide
  offends := ⟨rfl, by decide⟩

end Sample

theorem extract_forfeits_sample :
    Framing.Stops Sample.broken.maxPacketLength Sample.broken.buffered
      [Sample.header, Sample.header] Sample.foreign (.unsupportedVersion 9) ∧
    Sample.broken.extract =
      (.error (.unsupportedVersion 9), { Sample.broken with buffered := Sample.foreign }) ∧
    .clear ∉ Sample.atOnce ∧
      { Sample.broken with buffered := Sample.foreign }.given Sample.atOnce = [] := by
  obtain ⟨hfails, hstops⟩ := extract_forfeits Sample.broken
  obtain ⟨-, -, hgiven⟩ := hstops _ _ _ Sample.stops_broken
  have hkept : .clear ∉ Sample.atOnce := by simp [Sample.atOnce]
  exact ⟨Sample.stops_broken, (hfails _ _).mpr ⟨_, _, Sample.stops_broken, rfl⟩, hkept,
    hgiven _ hkept⟩

/-- A buffer has lost the whole packet at its front after an extraction that failed. -/
theorem extract_loses_packet :
    Sample.broken.isComplete = true ∧
      ∃ g, Sample.broken.extract = (.error (.unsupportedVersion 9), g) ∧
        g.buffered ≠ Sample.broken.buffered ∧ g.isComplete = false := by
  refine ⟨by decide, { Sample.broken with buffered := Sample.foreign }, ?_, by decide, by decide⟩
  exact extract_eq_error_iff.mpr ⟨_, _, Sample.stops_broken, rfl⟩

end FrameBuffer

end NamedContent
