import NamedContent.Framing

/-!
# Streams of packets

However a stream arrives, it is cut into the same packets: the cut of a stream goes on where the cut
of its front ended (`cut_append`). A frame buffer is used by requests one after the other, and what
they come to is told by the cut of the stream that was fed to it.

* `Feeds.cut_eq`: if no extraction failed, the packets given away and the bytes left are those of
  the cut.
* `Feeds.fails_iff`: an extraction failed exactly when the cut meets a faulty header.
* `extract_of_feeds`: what a stream comes to does not depend on how it was fed.
-/

namespace NamedContent

/-! ## Headers at the front -/

namespace Packet

/-- The announced length stands in the first four bytes. -/
theorem announcedLength?_append {b : Bytes} (h : fixedHeaderLength ≤ b.length) (c : Bytes) :
    announcedLength? (b ++ c) = announcedLength? b := by
  match b, h with
  | _ :: _ :: _ :: _ :: _, _ => rfl

end Packet

namespace Framing

variable {limit length : Nat} {b c packet : Bytes} {e : FramingError}

theorem firstLength_append (limit : Nat) (h : fixedHeaderLength ≤ b.length) (c : Bytes) :
    firstLength limit (b ++ c) = firstLength limit b := by
  have hhead : (b ++ c).headD 0 = b.headD 0 := by
    match b, h with
    | _ :: _, _ => rfl
  rw [firstLength, firstLength, Packet.announcedLength?_append h, hhead]

theorem firstLength_eq_ok_iff :
    firstLength limit b = .ok length ↔ Packet.announcedLength? b = some length ∧
      fixedHeaderLength ≤ length ∧ length ≤ limit := by
  constructor
  · intro h
    refine ⟨?_, firstLength_ge h, firstLength_le h⟩
    unfold firstLength at h
    split at h
    · cases h
    · next n hn =>
      split at h
      · cases h
      · split at h <;> cases h
        exact hn
  · rintro ⟨hlength, hge, hle⟩
    rw [firstLength, hlength]
    simp only [Nat.not_lt.mpr hge, Nat.not_lt.mpr hle, if_false]

/-- What is wrong with the fixed header at the front of a byte string. -/
def Offends (limit : Nat) (b : Bytes) : FramingError → Prop
  | .unsupportedVersion version => b.head? = some version ∧ version ≠ schemaVersion
  | .packetTooShort length => Packet.announcedLength? b = some length ∧ length < fixedHeaderLength
  | .packetTooLarge length most =>
    Packet.announcedLength? b = some length ∧ fixedHeaderLength ≤ length ∧ limit < length ∧
      most = limit
  | .bufferOverflow .. => False

/-- A fixed header is faulty in one of three ways. -/
theorem firstLength_eq_error_iff (h : fixedHeaderLength ≤ b.length) :
    firstLength limit b = .error e ↔ Offends limit b e := by
  constructor
  · intro he
    unfold firstLength at he
    split at he
    · next hnone =>
      cases he
      match b, h with
      | version :: _ :: _ :: _ :: _, _ =>
        refine ⟨rfl, fun hversion : version = schemaVersion => ?_⟩
        rw [Packet.announcedLength?, if_pos hversion] at hnone
        cases hnone
    · next n hn =>
      split at he
      · next hshort => cases he; exact ⟨hn, hshort⟩
      · next hlong =>
        split at he
        · next hlarge => cases he; exact ⟨hn, Nat.not_lt.mp hlong, hlarge, rfl⟩
        · cases he
  · intro he
    cases e with
    | unsupportedVersion version =>
      match b, h, he with
      | _ :: _ :: _ :: _ :: _, _, ⟨hhead, hversion⟩ =>
        cases hhead
        rw [firstLength, Packet.announcedLength?, if_neg hversion]
        rfl
    | packetTooShort length =>
      obtain ⟨hlength, hshort⟩ := he
      rw [firstLength, hlength]
      exact if_pos hshort
    | packetTooLarge length most =>
      obtain ⟨hlength, hge, hlarge, rfl⟩ := he
      rw [firstLength, hlength]
      simp only [Nat.not_lt.mpr hge, hlarge, if_false, if_true]
    | bufferOverflow => cases he

/-! ## Cuts -/

/-- A cut with packets in front of it. -/
def Cut.behind (packets : List Bytes) (c : Cut) : Cut := { c with packets := packets ++ c.packets }

@[simp] theorem Cut.behind_nil (c : Cut) : c.behind [] = c := rfl

theorem Cut.behind_behind (ps qs : List Bytes) (c : Cut) :
    (c.behind qs).behind ps = c.behind (ps ++ qs) := by
  simp [behind]

/-- What is too short for a header is left over. -/
theorem cut_of_short (h : b.length < fixedHeaderLength) : cut limit b = ⟨[], b, none⟩ := by
  rw [cut, if_pos h]

theorem cut_nil (limit : Nat) : cut limit [] = ⟨[], [], none⟩ := cut_of_short (by decide)

/-- A complete packet is cut off. -/
theorem cut_of_firstLength (h : firstLength limit b = .ok length) (hle : length ≤ b.length) :
    cut limit b = (cut limit (b.drop length)).behind [b.take length] := by
  have hge := firstLength_ge h
  rw [cut, if_neg (by omega)]
  split
  · next he => rw [h] at he; cases he
  · next he =>
    rw [h] at he
    cases he
    rw [if_neg (Nat.not_lt.mpr hle)]
    rfl

/-- A packet that announces its own length is cut off from what follows it. -/
theorem cut_packet_append (h : firstLength limit packet = .ok packet.length) (rest : Bytes) :
    cut limit (packet ++ rest) = (cut limit rest).behind [packet] := by
  have hfirst := firstLength_append limit (firstLength_ge h) rest
  rw [cut_of_firstLength (hfirst.trans h) (by simp), List.drop_left, List.take_left]

/-- Packets that announce their own lengths are cut off from what follows them. -/
theorem cut_flatten_append {ws : List Bytes} (h : ∀ w ∈ ws, firstLength limit w = .ok w.length)
    (rest : Bytes) : cut limit (ws.flatten ++ rest) = (cut limit rest).behind ws := by
  induction ws with
  | nil => rfl
  | cons w ws ih =>
    obtain ⟨hw, hws⟩ := List.forall_mem_cons.mp h
    rw [List.flatten_cons, List.append_assoc, cut_packet_append hw, ih hws, Cut.behind_behind]
    rfl

/-- Packets that announce their own lengths are cut apart. -/
theorem cut_flatten {ws : List Bytes} (h : ∀ w ∈ ws, firstLength limit w = .ok w.length) :
    cut limit ws.flatten = ⟨ws, [], none⟩ := by
  have hcut := cut_flatten_append h []
  rw [List.append_nil] at hcut
  rw [hcut, cut_nil, Cut.behind, List.append_nil]

/-- The cut of a stream goes on where the cut of its front ended. -/
theorem cut_append (limit : Nat) (b c : Bytes) :
    cut limit (b ++ c) = (cut limit ((cut limit b).rest ++ c)).behind (cut limit b).packets := by
  fun_induction cut limit b with
  | case1 | case2 | case3 => rfl
  | case4 b hheader length hlength hfits behind ih =>
    -- The first packet is complete in the front, so that what follows does not change it.
    have hle : length ≤ b.length := Nat.not_lt.mp hfits
    have hfirst := firstLength_append limit (Nat.not_lt.mp hheader) c
    rw [cut_of_firstLength (hfirst.trans hlength) (by simp; omega),
      List.drop_append_of_le_length hle, List.take_append_of_le_length hle, ih, Cut.behind_behind]
    rfl

/-- What is left over of a cut cannot be cut any further. -/
theorem cut_rest (limit : Nat) (b : Bytes) :
    cut limit (cut limit b).rest = ⟨[], (cut limit b).rest, (cut limit b).fault⟩ := by
  fun_induction cut limit b with
  | case1 b hshort => exact cut_of_short hshort
  | case2 b hheader e he =>
    rw [cut, if_neg hheader]
    split
    · next he' => rw [he] at he'; cases he'; rfl
    · next he' => rw [he] at he'; cases he'
  | case3 b hheader length hlength hpartial =>
    rw [cut, if_neg hheader]
    split
    · next he' => rw [hlength] at he'; cases he'
    · next he' => rw [hlength] at he'; cases he'; rw [if_pos hpartial]
  | case4 b hheader length hlength hfits behind ih => exact ih

/-- A faulty header stops every cut. -/
theorem cut_of_offends (h : fixedHeaderLength ≤ b.length) (he : Offends limit b e) :
    cut limit b = ⟨[], b, some e⟩ := by
  have hfirst := (firstLength_eq_error_iff h).mpr he
  rw [cut, if_neg (Nat.not_lt.mpr h)]
  split
  · next he' => rw [hfirst] at he'; cases he'; rfl
  · next he' => rw [hfirst] at he'; cases he'

/-- What follows a faulty header does not mend it. -/
theorem Offends.append (h : fixedHeaderLength ≤ b.length) (he : Offends limit b e) (c : Bytes) :
    Offends limit (b ++ c) e := by
  rw [← firstLength_eq_error_iff h] at he
  have hle : fixedHeaderLength ≤ (b ++ c).length := by simp; omega
  rw [← firstLength_eq_error_iff hle, firstLength_append limit h, he]

/-- Where a cut meets a fault, a faulty header is in front of what is left over. -/
theorem offends_of_fault (h : (cut limit b).fault = some e) :
    fixedHeaderLength ≤ (cut limit b).rest.length ∧ Offends limit (cut limit b).rest e := by
  fun_induction cut limit b with
  | case1 | case3 => cases h
  | case2 b hheader e' he =>
    cases h
    exact ⟨Nat.not_lt.mp hheader, (firstLength_eq_error_iff (Nat.not_lt.mp hheader)).mp he⟩
  | case4 b hheader length hlength hfits behind ih => exact ih h

/-- A fault at the front of a stream is a fault of the stream. -/
theorem fault_append (h : (cut limit b).fault = some e) (c : Bytes) :
    (cut limit (b ++ c)).fault = some e := by
  obtain ⟨hheader, he⟩ := offends_of_fault h
  rw [cut_append, cut_of_offends (by simp; omega) (he.append hheader c)]
  rfl

/-- Each packet of a cut is as long as it announces. -/
theorem announcedLength?_of_mem_cut (h : packet ∈ (cut limit b).packets) :
    Packet.announcedLength? packet = some packet.length := by
  fun_induction cut limit b with
  | case1 | case2 | case3 => cases h
  | case4 b hheader length hlength hfits behind ih =>
    rcases List.mem_cons.mp h with rfl | h
    · have hle : length ≤ b.length := Nat.not_lt.mp hfits
      have htake : (b.take length).length = length := by simp [hle]
      have happ := Packet.announcedLength?_append (htake ▸ firstLength_ge hlength) (b.drop length)
      rw [List.take_append_drop] at happ
      rw [← happ, htake]
      exact (firstLength_eq_ok_iff.mp hlength).1
    · exact ih h

/-- Without a fault, what is left over is not a whole packet. -/
theorem rest_of_fault_none (h : (cut limit b).fault = none) :
    (cut limit b).rest.length < fixedHeaderLength ∨
      ∃ length, Packet.announcedLength? (cut limit b).rest = some length ∧
        (cut limit b).rest.length < length := by
  fun_induction cut limit b with
  | case1 b hshort => exact .inl hshort
  | case2 => cases h
  | case3 b hheader length hlength hpartial =>
    exact .inr ⟨length, (firstLength_eq_ok_iff.mp hlength).1, hpartial⟩
  | case4 b hheader length hlength hfits behind ih => exact ih h

/-- A stream is split into whole packets, each as long as it announces and within the limit, and a
leftover that is not a whole packet. -/
structure Splits (limit : Nat) (b : Bytes) (packets : List Bytes) (leftover : Bytes) : Prop where
  whole : packets.flatten ++ leftover = b
  announced : ∀ packet ∈ packets, Packet.announcedLength? packet = some packet.length ∧
    fixedHeaderLength ≤ packet.length ∧ packet.length ≤ limit
  short : leftover.length < fixedHeaderLength ∨
    ∃ length, Packet.announcedLength? leftover = some length ∧ leftover.length < length

theorem splits_cut (h : (cut limit b).fault = none) :
    Splits limit b (cut limit b).packets (cut limit b).rest :=
  ⟨flatten_cut limit b, fun _ hp => ⟨announcedLength?_of_mem_cut hp, length_of_mem_cut hp⟩,
    rest_of_fault_none h⟩

/-- Every packet takes at least a fixed header from the stream. -/
theorem length_packets_cut_le (limit : Nat) (b : Bytes) :
    fixedHeaderLength * (cut limit b).packets.length ≤ b.length := by
  fun_induction cut limit b with
  | case1 | case2 | case3 => simp
  | case4 b hheader length hlength hfits behind ih =>
    have hge := firstLength_ge hlength
    show fixedHeaderLength * ((cut limit (b.drop length)).packets.length + 1) ≤ b.length
    rw [List.length_drop] at ih
    simp only [fixedHeaderLength] at *
    omega

end Framing

/-! ## Runs -/

namespace FrameBuffer

/-- What is asked of a frame buffer. -/
inductive Request
  | add (b : Bytes)
  | extract
  | clear
deriving DecidableEq, Repr

/-- What a request is answered with. -/
inductive Reply
  | done
  | refused (error : FramingError)
  | extracted (packets : List Bytes)
  | failed (error : FramingError)
deriving DecidableEq, Repr

/-- The bytes that a request adds. -/
def Request.bytes : Request → Bytes
  | .add b => b
  | .extract | .clear => []

/-- The packets that a reply gives away. -/
def Reply.given : Reply → List Bytes
  | .extracted packets => packets
  | .done | .refused _ | .failed _ => []

/-- One request. -/
def step (f : FrameBuffer) : Request → Reply × FrameBuffer
  | .add b =>
    match f.add b with
    | (.ok (), f) => (.done, f)
    | (.error e, f) => (.refused e, f)
  | .extract =>
    match f.extract with
    | (.ok packets, f) => (.extracted packets, f)
    | (.error e, f) => (.failed e, f)
  | .clear => (.done, f.clear)

/-- The buffer after requests, one after the other. -/
def after (f : FrameBuffer) (rs : List Request) : FrameBuffer :=
  rs.foldl (fun f r => (f.step r).2) f

/-- The replies to requests. -/
def replies : FrameBuffer → List Request → List Reply
  | _, [] => []
  | f, r :: rs => (f.step r).1 :: replies (f.step r).2 rs

/-- The bytes of a stream that arrives with requests. -/
def stream (rs : List Request) : Bytes := rs.flatMap Request.bytes

/-- All packets given away over a run. -/
def given (f : FrameBuffer) (rs : List Request) : List Bytes := (f.replies rs).flatMap Reply.given

/-- Some extraction of a run failed. -/
def Fails (f : FrameBuffer) (rs : List Request) : Prop := ∃ e, Reply.failed e ∈ f.replies rs

variable {f g : FrameBuffer} {rs ss : List Request} {r : Request} {b : Bytes} {e : FramingError}

@[simp] theorem after_nil (f : FrameBuffer) : f.after [] = f := rfl

@[simp] theorem after_cons (f : FrameBuffer) (r : Request) (rs : List Request) :
    f.after (r :: rs) = (f.step r).2.after rs := rfl

theorem after_append (f : FrameBuffer) (rs ss : List Request) :
    f.after (rs ++ ss) = (f.after rs).after ss := List.foldl_append

theorem replies_append (f : FrameBuffer) (rs ss : List Request) :
    f.replies (rs ++ ss) = f.replies rs ++ (f.after rs).replies ss := by
  induction rs generalizing f with
  | nil => rfl
  | cons r rs ih => exact congrArg (_ :: ·) (ih _)

@[simp] theorem stream_cons (r : Request) (rs : List Request) :
    stream (r :: rs) = r.bytes ++ stream rs := rfl

@[simp] theorem given_cons (f : FrameBuffer) (r : Request) (rs : List Request) :
    f.given (r :: rs) = (f.step r).1.given ++ (f.step r).2.given rs := rfl

theorem fails_cons :
    f.Fails (r :: rs) ↔ (∃ e, (f.step r).1 = .failed e) ∨ (f.step r).2.Fails rs := by
  simp only [Fails, replies, List.mem_cons, exists_or, eq_comm]

/-! ### What one request does -/

theorem step_add_of_le (h : f.buffered.length + b.length ≤ f.capacity) :
    f.step (.add b) = (.done, { f with buffered := f.buffered ++ b }) := by
  simp only [step, add, Nat.not_lt.mpr h, if_false]

theorem step_add_of_lt (h : f.capacity < f.buffered.length + b.length) :
    f.step (.add b) =
      (.refused (.bufferOverflow (f.buffered.length + b.length) f.capacity), f) := by
  simp only [step, add, h, if_true]

theorem extract_of_none (h : (Framing.cut f.maxPacketLength f.buffered).fault = none) :
    f.extract = (.ok (Framing.cut f.maxPacketLength f.buffered).packets,
      { f with buffered := (Framing.cut f.maxPacketLength f.buffered).rest }) := by
  simp only [extract, h]

theorem extract_of_some (h : (Framing.cut f.maxPacketLength f.buffered).fault = some e) :
    f.extract =
      (.error e, { f with buffered := (Framing.cut f.maxPacketLength f.buffered).rest }) := by
  simp only [extract, h]

theorem step_extract_of_none (h : (Framing.cut f.maxPacketLength f.buffered).fault = none) :
    f.step .extract = (.extracted (Framing.cut f.maxPacketLength f.buffered).packets,
      { f with buffered := (Framing.cut f.maxPacketLength f.buffered).rest }) := by
  simp only [step, extract_of_none h]

theorem step_extract_of_some (h : (Framing.cut f.maxPacketLength f.buffered).fault = some e) :
    f.step .extract =
      (.failed e, { f with buffered := (Framing.cut f.maxPacketLength f.buffered).rest }) := by
  simp only [step, extract_of_some h]

theorem extract_clear (f : FrameBuffer) : f.clear.extract = (.ok [], f.clear) := by
  have hcut : Framing.cut f.clear.maxPacketLength f.clear.buffered = ⟨[], [], none⟩ :=
    Framing.cut_nil _
  rw [extract_of_none (congrArg Framing.Cut.fault hcut), hcut]
  rfl

/-- Whether or not an extraction fails, what is left over of the cut stays in the buffer. -/
theorem buffer_step_extract (f : FrameBuffer) : (f.step .extract).2 =
    { f with buffered := (Framing.cut f.maxPacketLength f.buffered).rest } := by
  cases h : (Framing.cut f.maxPacketLength f.buffered).fault with
  | none => rw [step_extract_of_none h]
  | some e => rw [step_extract_of_some h]

theorem length_step_extract_le (f : FrameBuffer) :
    (f.step .extract).2.buffered.length ≤ f.buffered.length := by
  have hle := congrArg List.length (Framing.flatten_cut f.maxPacketLength f.buffered)
  rw [List.length_append] at hle
  rw [buffer_step_extract]
  exact Nat.le_of_add_left_le (Nat.le_of_eq hle)

/-- A request leaves the limits alone, and the buffer keeps to its capacity. -/
theorem step_limits (f : FrameBuffer) (r : Request) :
    (f.step r).2.capacity = f.capacity ∧ (f.step r).2.maxPacketLength = f.maxPacketLength ∧
      (f.buffered.length ≤ f.capacity → (f.step r).2.buffered.length ≤ f.capacity) := by
  cases r with
  | add b =>
    by_cases h : f.buffered.length + b.length ≤ f.capacity
    · rw [step_add_of_le h]
      exact ⟨rfl, rfl, fun _ => by simpa using h⟩
    · rw [step_add_of_lt (Nat.not_le.mp h)]
      exact ⟨rfl, rfl, id⟩
  | extract =>
    have hle := length_step_extract_le f
    rw [buffer_step_extract] at hle ⊢
    exact ⟨rfl, rfl, Nat.le_trans hle⟩
  | clear => exact ⟨rfl, rfl, fun _ => Nat.zero_le _⟩

/-- A run leaves the limits alone, and the buffer keeps to its capacity. -/
theorem after_limits (f : FrameBuffer) (rs : List Request) :
    (f.after rs).capacity = f.capacity ∧ (f.after rs).maxPacketLength = f.maxPacketLength ∧
      (f.buffered.length ≤ f.capacity → (f.after rs).buffered.length ≤ f.capacity) := by
  induction rs generalizing f with
  | nil => exact ⟨rfl, rfl, id⟩
  | cons r rs ih =>
    obtain ⟨hcapacity, hlimit, hroom⟩ := f.step_limits r
    obtain ⟨hcapacity', hlimit', hroom'⟩ := ih (f.step r).2
    rw [hcapacity] at hcapacity' hroom'
    exact ⟨hcapacity', hlimit'.trans hlimit, fun h => hroom' (hroom h)⟩

/-! ### Broken streams -/

/-- A faulty header stands at the front of a buffer. -/
structure Jammed (f : FrameBuffer) (e : FramingError) : Prop where
  header : fixedHeaderLength ≤ f.buffered.length
  offends : Framing.Offends f.maxPacketLength f.buffered e

theorem Jammed.cut_eq (h : f.Jammed e) :
    Framing.cut f.maxPacketLength f.buffered = ⟨[], f.buffered, some e⟩ :=
  Framing.cut_of_offends h.header h.offends

theorem Jammed.extract_eq (h : f.Jammed e) : f.extract = (.error e, f) := by
  rw [extract_of_some (e := e) (congrArg Framing.Cut.fault h.cut_eq), h.cut_eq]

/-- A failed extraction leaves the faulty header at the front. -/
theorem jammed_of_extract (h : f.extract = (.error e, g)) : g.Jammed e := by
  cases hfault : (Framing.cut f.maxPacketLength f.buffered).fault with
  | none =>
    rw [extract_of_none hfault] at h
    cases h
  | some e' =>
    rw [extract_of_some hfault] at h
    cases h
    obtain ⟨hheader, he⟩ := Framing.offends_of_fault hfault
    exact ⟨hheader, he⟩

/-- Only forgetting all bytes removes a faulty header. -/
theorem Jammed.step (h : f.Jammed e) (hr : r ≠ .clear) :
    (f.step r).2.Jammed e ∧
      (f.step r).2.buffered.take fixedHeaderLength = f.buffered.take fixedHeaderLength := by
  cases r with
  | add b =>
    by_cases hroom : f.buffered.length + b.length ≤ f.capacity
    · rw [step_add_of_le hroom]
      refine ⟨⟨?_, h.offends.append h.header b⟩, List.take_append_of_le_length h.header⟩
      exact Nat.le_trans h.header (by simp)
    · rw [step_add_of_lt (Nat.not_le.mp hroom)]
      exact ⟨h, rfl⟩
  | extract =>
    rw [step_extract_of_some (e := e) (congrArg Framing.Cut.fault h.cut_eq), h.cut_eq]
    exact ⟨h, rfl⟩
  | clear => exact absurd rfl hr

theorem Jammed.after (h : f.Jammed e) (hrs : .clear ∉ rs) :
    (f.after rs).Jammed e ∧
      (f.after rs).buffered.take fixedHeaderLength = f.buffered.take fixedHeaderLength := by
  induction rs generalizing f with
  | nil => exact ⟨h, rfl⟩
  | cons r rs ih =>
    obtain ⟨hjammed, htake⟩ := h.step (r := r) fun hr => hrs (hr ▸ List.mem_cons_self)
    obtain ⟨hjammed', htake'⟩ := ih hjammed fun hmem => hrs (List.mem_cons_of_mem r hmem)
    exact ⟨hjammed', htake'.trans htake⟩

/-! ### Streams that are fed -/

/-- A stream is fed to an empty buffer: it arrives in pieces, of which none is refused and none is
forgotten, packets are asked for in between, and in the end. -/
structure Feeds (f : FrameBuffer) (rs : List Request) (b : Bytes) : Prop where
  empty : f.buffered = []
  stream : stream rs = b
  accepted : ∀ e, Reply.refused e ∉ f.replies rs
  kept : .clear ∉ rs
  last : ∃ front, rs = front ++ [.extract]

/-- What is in the buffer and what arrives is cut into what is given away and what is left in the
buffer, unless an extraction fails; then there is a fault. -/
theorem cut_run (haccepted : ∀ e, Reply.refused e ∉ f.replies rs) (hkept : .clear ∉ rs) :
    (¬ f.Fails rs → Framing.cut f.maxPacketLength (f.buffered ++ stream rs) =
      (Framing.cut f.maxPacketLength (f.after rs).buffered).behind (f.given rs)) ∧
    (f.Fails rs →
      ∃ e, (Framing.cut f.maxPacketLength (f.buffered ++ stream rs)).fault = some e) := by
  -- What is in the buffer stands in front of what is still to come, and each request moves the cut
  -- between the two.
  induction rs generalizing f with
  | nil => exact ⟨fun _ => by simp [stream, given, replies], fun ⟨e, he⟩ => by cases he⟩
  | cons r rs ih =>
    have haccepted' : ∀ e, Reply.refused e ∉ (f.step r).2.replies rs :=
      fun e he => haccepted e (List.mem_cons_of_mem _ he)
    obtain ⟨hcut, hfault⟩ := ih haccepted' fun hmem => hkept (List.mem_cons_of_mem r hmem)
    rw [(f.step_limits r).2.1] at hcut hfault
    rw [fails_cons, after_cons, given_cons, stream_cons, ← List.append_assoc]
    cases r with
    | add b =>
      have hroom : f.buffered.length + b.length ≤ f.capacity := by
        refine Nat.not_lt.mp fun hlt => ?_
        rw [replies, step_add_of_lt hlt] at haccepted
        exact haccepted _ List.mem_cons_self
      rw [step_add_of_le hroom] at hcut hfault ⊢
      refine ⟨fun hok => hcut fun hfails => hok (.inr hfails), ?_⟩
      rintro (⟨e, he⟩ | hfails)
      · cases he
      · exact hfault hfails
    | extract =>
      rw [Request.bytes, List.append_nil]
      cases h : (Framing.cut f.maxPacketLength f.buffered).fault with
      | none =>
        rw [step_extract_of_none h] at hcut hfault ⊢
        rw [Framing.cut_append]
        refine ⟨fun hok => ?_, ?_⟩
        · rw [hcut fun hfails => hok (.inr hfails), Framing.Cut.behind_behind]
          rfl
        · rintro (⟨e, he⟩ | hfails)
          · cases he
          · exact hfault hfails
      -- The fault stands in the stream, whatever follows.
      | some e =>
        rw [step_extract_of_some h]
        exact ⟨fun hok => absurd (.inl ⟨e, rfl⟩) hok, fun _ => ⟨e, Framing.fault_append h _⟩⟩
    | clear => exact absurd List.mem_cons_self hkept

namespace Feeds

/-- When the last request for packets succeeded, nothing that could be cut is left. -/
theorem cut_buffered (h : f.Feeds rs b) (hok : ¬ f.Fails rs) :
    Framing.cut f.maxPacketLength (f.after rs).buffered = ⟨[], (f.after rs).buffered, none⟩ := by
  obtain ⟨front, rfl⟩ := h.last
  have hlimit : (f.after front).maxPacketLength = f.maxPacketLength := (f.after_limits front).2.1
  rw [after_append, after_cons, after_nil, ← hlimit]
  cases hfault : (Framing.cut (f.after front).maxPacketLength (f.after front).buffered).fault with
  | none =>
    rw [step_extract_of_none hfault, Framing.cut_rest, hfault]
  | some e =>
    refine absurd ⟨e, ?_⟩ hok
    rw [replies_append, replies, step_extract_of_some hfault]
    exact List.mem_append_right _ List.mem_cons_self

/-- If no extraction fails, the packets given away and the bytes left are those of the cut. -/
theorem cut_eq (h : f.Feeds rs b) (hok : ¬ f.Fails rs) :
    Framing.cut f.maxPacketLength b = ⟨f.given rs, (f.after rs).buffered, none⟩ := by
  have hcut := (cut_run h.accepted h.kept).1 hok
  rw [h.empty, List.nil_append, h.stream, h.cut_buffered hok] at hcut
  rw [hcut, Framing.Cut.behind, List.append_nil]

/-- An extraction fails exactly when the cut meets a faulty header. -/
theorem fails_iff (h : f.Feeds rs b) :
    f.Fails rs ↔ (Framing.cut f.maxPacketLength b).fault ≠ none := by
  constructor
  · intro hfails
    obtain ⟨e, he⟩ := (cut_run h.accepted h.kept).2 hfails
    rw [h.empty, List.nil_append, h.stream] at he
    rw [he]
    nofun
  · intro hfault
    refine Classical.byContradiction fun hok => hfault ?_
    rw [h.cut_eq hok]

end Feeds

theorem length_step_le (f : FrameBuffer) (r : Request) :
    (f.step r).2.buffered.length ≤ f.buffered.length + r.bytes.length := by
  cases r with
  | add b =>
    by_cases h : f.buffered.length + b.length ≤ f.capacity
    · rw [step_add_of_le h]
      exact Nat.le_of_eq List.length_append
    · rw [step_add_of_lt (Nat.not_le.mp h)]
      exact Nat.le_add_right _ _
  | extract => exact length_step_extract_le f
  | clear => exact Nat.zero_le _

/-- Where there is room for the whole stream, nothing is refused. -/
theorem accepted_of_room (h : f.buffered.length + (stream rs).length ≤ f.capacity) :
    ∀ e, Reply.refused e ∉ f.replies rs := by
  induction rs generalizing f with
  | nil => exact fun e he => by cases he
  | cons r rs ih =>
    rw [stream_cons, List.length_append] at h
    have hle := length_step_le f r
    have hcapacity := (f.step_limits r).1
    intro e he
    rcases List.mem_cons.mp he with he | he
    · cases r with
      | add b =>
        rw [step_add_of_le (by simp only [Request.bytes] at h; omega)] at he
        cases he
      | extract =>
        cases hfault : (Framing.cut f.maxPacketLength f.buffered).fault with
        | none => rw [step_extract_of_none hfault] at he; cases he
        | some e' => rw [step_extract_of_some hfault] at he; cases he
      | clear => cases he
    · exact ih (by omega) e he

theorem feeds_of_room (hempty : f.buffered = []) (hstream : stream rs = b)
    (hroom : b.length ≤ f.capacity) (hkept : .clear ∉ rs)
    (hlast : ∃ front, rs = front ++ [.extract]) : f.Feeds rs b :=
  ⟨hempty, hstream, accepted_of_room (by simpa [hempty, hstream] using hroom), hkept, hlast⟩

/-! ### Independence of the pieces -/

/-- What a stream comes to does not depend on how it was fed. Extraction ends, since each packet
takes a fixed header at least from the buffer; a failure stays until all is forgotten; and a buffer
takes in no more than it has room for. -/
theorem extract_of_feeds (hf : f.Feeds rs b) (hg : g.Feeds ss b)
    (hlimit : g.maxPacketLength = f.maxPacketLength) :
    (f.Fails rs ↔ g.Fails ss) ∧
    (¬ f.Fails rs → f.given rs = g.given ss ∧ (f.after rs).buffered = (g.after ss).buffered ∧
      Framing.Splits f.maxPacketLength b (f.given rs) (f.after rs).buffered) ∧
    (∀ x : FrameBuffer,
      fixedHeaderLength * (Framing.cut x.maxPacketLength x.buffered).packets.length ≤
        x.buffered.length ∧
      ∀ length, fixedHeaderLength ≤ x.buffered.length →
        Packet.announcedLength? x.buffered = some length → length < fixedHeaderLength →
          x.extract = (.error (.packetTooShort length), x)) ∧
    (∀ (x y : FrameBuffer) (e : FramingError), x.extract = (.error e, y) →
      y.Jammed e ∧ y.clear.extract = (.ok [], y.clear) ∧ ∀ ts, .clear ∉ ts →
        (y.after ts).extract = (.error e, y.after ts) ∧
          (y.after ts).buffered.take fixedHeaderLength = y.buffered.take fixedHeaderLength) ∧
    (∀ (x y : FrameBuffer) (c : Bytes) (e : FramingError), x.step (.add c) = (.refused e, y) →
      y = x ∧ x.capacity < x.buffered.length + c.length) ∧
    (∀ (config : Config) (capacity : Nat) (ts : List Request),
      ((create config capacity).after ts).buffered.length ≤ capacity) := by
  have hgcut := hg.fails_iff
  rw [hlimit] at hgcut
  refine ⟨hf.fails_iff.trans hgcut.symm, fun hok => ?_,
    fun x => ⟨?_, fun length hheader hn hlt => ?_⟩,
    fun x y e hfailed => ?_, fun x y c e hrefused => ?_, fun config capacity ts => ?_⟩
  · have hcut := hf.cut_eq hok
    have hcut' := hg.cut_eq fun hfails => hok (hf.fails_iff.mpr (hgcut.mp hfails))
    rw [hlimit, hcut] at hcut'
    obtain ⟨hgiven, hbuffered, -⟩ := Framing.Cut.mk.inj hcut'
    have hsplits := Framing.splits_cut (congrArg Framing.Cut.fault hcut)
    rw [hcut] at hsplits
    exact ⟨hgiven, hbuffered, hsplits⟩
  · exact Framing.length_packets_cut_le _ _
  · exact Jammed.extract_eq ⟨hheader, hn, hlt⟩
  · have hjammed := jammed_of_extract hfailed
    refine ⟨hjammed, extract_clear y, fun ts hts => ?_⟩
    obtain ⟨hlater, htake⟩ := hjammed.after hts
    exact ⟨hlater.extract_eq, htake⟩
  · by_cases hroom : x.buffered.length + c.length ≤ x.capacity
    · rw [step_add_of_le hroom] at hrefused
      cases hrefused
    · rw [step_add_of_lt (Nat.not_le.mp hroom)] at hrefused
      cases hrefused
      exact ⟨rfl, Nat.not_le.mp hroom⟩
  · exact ((create config capacity).after_limits ts).2.2 (Nat.zero_le _)

/-! Two packets of a fixed header each, and the beginning of a third one. -/

namespace Sample

def header : Bytes := [0x01, 0xA4, 0x00, 0x08, 0x00, 0x00, 0x00, 0x08]

def bytes : Bytes := header ++ header ++ [0x01, 0xA4, 0x00]

def atOnce : List Request := [.add bytes, .extract]

/-- The first header is cut in two. -/
def inPieces : List Request :=
  [.add (bytes.take 5), .extract, .add ((bytes.drop 5).take 9), .add (bytes.drop 14), .extract]

theorem cut_bytes : Framing.cut maxLength bytes = ⟨[header, header], [0x01, 0xA4, 0x00], none⟩ := by
  have hfirst : Framing.firstLength maxLength header = .ok header.length :=
    Framing.firstLength_eq_ok_iff.mpr ⟨rfl, by decide, by decide⟩
  rw [bytes, List.append_assoc, Framing.cut_packet_append hfirst, Framing.cut_packet_append hfirst,
    Framing.cut_of_short (by decide)]
  rfl

end Sample

theorem extract_of_feeds_sample :
    (create {} 64).Feeds Sample.atOnce Sample.bytes ∧
      (create {} 32).Feeds Sample.inPieces Sample.bytes ∧
        (create {} 64).given Sample.atOnce = [Sample.header, Sample.header] ∧
          (create {} 32).given Sample.inPieces = [Sample.header, Sample.header] := by
  have hatOnce : (create {} 64).Feeds Sample.atOnce Sample.bytes :=
    feeds_of_room rfl (by decide) (by decide) (by simp [Sample.atOnce]) ⟨[.add Sample.bytes], rfl⟩
  have hinPieces : (create {} 32).Feeds Sample.inPieces Sample.bytes :=
    feeds_of_room rfl (by decide) (by decide) (by simp [Sample.inPieces])
      ⟨[.add (Sample.bytes.take 5), .extract, .add ((Sample.bytes.drop 5).take 9),
        .add (Sample.bytes.drop 14)], rfl⟩
  have hok : ¬ (create {} 64).Fails Sample.atOnce := by
    rw [hatOnce.fails_iff]
    exact fun hfault => hfault (congrArg Framing.Cut.fault Sample.cut_bytes)
  have hgiven : (create {} 64).given Sample.atOnce = [Sample.header, Sample.header] := by
    have hcut := hatOnce.cut_eq hok
    have hcut' : Framing.cut (create {} 64).maxPacketLength Sample.bytes = _ := Sample.cut_bytes
    rw [hcut'] at hcut
    exact (Framing.Cut.mk.inj hcut).1.symm
  obtain ⟨-, hsame, -⟩ := extract_of_feeds hatOnce hinPieces rfl
  exact ⟨hatOnce, hinPieces, hgiven, (hsame hok).1 ▸ hgiven⟩

end FrameBuffer

end NamedContent
