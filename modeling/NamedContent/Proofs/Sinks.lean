import NamedContent.Wire

/-!
# Writing to sinks

A sink takes what it is offered in as many turns as it likes, and it may fail. What it answered over
a run is kept by a sink that records (`Scatter.Sink.recorded`). Whatever the answers are, the
segments are exchanged for them as their content in one piece would be (`Scatter.exists_exchange`):
nothing is lost and nothing is told twice at the seams.

* `Scatter.Exchange`: how bytes and answers go together, without any segments.
* `Scatter.writeTo_delivers`: what was taken over a run, and how the run ended.
* `Scatter.writeAll_eq`: the loop over one byte string is that over a list of one segment.
* `WireMessage.forms_written`: a packet in one piece and in segments, written to memory. A packet
  without a byte is written, unless it is in segments that are all empty.
-/

namespace NamedContent

namespace Scatter

variable {ε σ : Type}

/-! ## Answers -/

/-- What a sink answered to an offer: the bytes that it took, or why it failed. -/
inductive Answer (ε : Type)
  | took (b : Bytes)
  | failed (error : ε)
deriving DecidableEq, Repr

namespace Answer

/-- The bytes that were taken. -/
def bytes : Answer ε → Bytes
  | .took b => b
  | .failed _ => []

/-- Why writing ends with an answer. A sink that takes nothing is not asked again. -/
def fault? : Answer ε → Option (WriteError ε)
  | .took [] => some .writeZero
  | .took (_ :: _) => none
  | .failed e => some (.sink e)

theorem fault?_took {b : Bytes} (h : b ≠ []) : (Answer.took b : Answer ε).fault? = none := by
  cases b with
  | nil => exact absurd rfl h
  | cons x b => rfl

/-- Nothing is taken with a fault. -/
theorem bytes_of_fault {a : Answer ε} {e : WriteError ε} (h : a.fault? = some e) :
    a.bytes = [] := by
  cases a with
  | failed error => rfl
  | took b =>
    cases b with
    | nil => rfl
    | cons x b => cases h

end Answer

namespace Sink

/-- The same sink, with a record of its answers. -/
def recorded (sink : Sink ε σ) : Sink ε (σ × List (Answer ε)) where
  offer := fun (state, log) segments =>
    match sink.offer state segments with
    | (.ok taken, after) => (.ok taken, after, log ++ [.took (segments.flatten.take taken.val)])
    | (.error e, after) => (.error e, after, log ++ [.failed e])

section Recorded

variable {sink : Sink ε σ} {state after : σ} {segments : List Bytes}

theorem offer_recorded_ok {taken : { n : Nat // n ≤ segments.flatten.length }}
    (h : sink.offer state segments = (.ok taken, after)) (log : List (Answer ε)) :
    sink.recorded.offer (state, log) segments =
      (.ok taken, after, log ++ [.took (segments.flatten.take taken.val)]) := by
  simp only [recorded, h]

theorem offer_recorded_error {e : ε} (h : sink.offer state segments = (.error e, after))
    (log : List (Answer ε)) :
    sink.recorded.offer (state, log) segments = (.error e, after, log ++ [.failed e]) := by
  simp only [recorded, h]

end Recorded

/-- A sink that never fails and takes something whenever there is something. -/
def Willing (sink : Sink ε σ) : Prop :=
  ∀ state segments, segments.flatten ≠ [] →
    ∃ taken after, sink.offer state segments = (.ok taken, after) ∧ taken.val ≠ 0

/-- Where it takes nothing there is nothing. -/
theorem Willing.flatten_eq_nil {sink : Sink ε σ} (h : sink.Willing) {state : σ}
    {segments : List Bytes}
    (hnothing : ∀ taken after, sink.offer state segments = (.ok taken, after) → taken.val = 0) :
    segments.flatten = [] := by
  refine Decidable.byContradiction fun hbytes => ?_
  obtain ⟨taken, after, hoffer, hsome⟩ := h state segments hbytes
  exact hsome (hnothing taken after hoffer)

theorem willing_limited {limit : Nat} (h : limit ≠ 0) : (limited limit).Willing := by
  intro kept segments hbytes
  refine ⟨_, _, rfl, ?_⟩
  have hfilled : (firstFilled segments).length ≠ 0 := by
    induction segments with
    | nil => exact absurd rfl hbytes
    | cons b rest ih =>
      cases b with
      | nil => exact ih hbytes
      | cons x b => exact Nat.succ_ne_zero _
  show min limit (firstFilled segments).length ≠ 0
  omega

end Sink

/-! ## Exchanges -/

/-- Bytes are exchanged for answers: some of the bytes in front for each answer, until none are left
or an answer is a fault. -/
inductive Exchange : Bytes → List (Answer ε) → Except (WriteError ε) Unit → Prop
  | done : Exchange [] [] (.ok ())
  | fault {b : Bytes} {a : Answer ε} {e : WriteError ε} (h : a.fault? = some e) :
      Exchange b [a] (.error e)
  | more {taken rest : Bytes} {answers : List (Answer ε)} {result : Except (WriteError ε) Unit}
      (htaken : taken ≠ []) (hrest : Exchange rest answers result) :
      Exchange (taken ++ rest) (.took taken :: answers) result

namespace Exchange

variable {b : Bytes} {answers : List (Answer ε)} {result : Except (WriteError ε) Unit}

/-- The bytes that were taken are the first ones. -/
theorem taken_prefix (h : Exchange b answers result) : answers.flatMap Answer.bytes <+: b := by
  induction h with
  | done => exact List.prefix_rfl
  | fault h =>
    rw [List.flatMap_singleton, Answer.bytes_of_fault h]
    exact List.nil_prefix
  | more htaken hrest ih => exact (List.prefix_append_right_inj _).mpr ih

/-- Without a fault all bytes are taken. -/
theorem of_no_fault (h : Exchange b answers result) (hnone : ∀ a ∈ answers, a.fault? = none) :
    result = .ok () ∧ answers.flatMap Answer.bytes = b := by
  induction h with
  | done => exact ⟨rfl, rfl⟩
  | fault h =>
    rw [hnone _ List.mem_cons_self] at h
    cases h
  | more htaken hrest ih =>
    obtain ⟨hresult, htaken⟩ := ih (List.forall_mem_cons.mp hnone).2
    exact ⟨hresult, congrArg (_ ++ ·) htaken⟩

/-- A fault is the last answer, and the outcome. -/
theorem of_fault (h : Exchange b answers result) {a : Answer ε} {e : WriteError ε}
    (ha : a ∈ answers) (he : a.fault? = some e) :
    result = .error e ∧ ∃ earlier, answers = earlier ++ [a] ∧ ∀ a ∈ earlier, a.fault? = none := by
  induction h with
  | done => cases ha
  | fault h =>
    obtain rfl := List.mem_singleton.mp ha
    obtain rfl := Option.some.inj (he.symm.trans h)
    exact ⟨rfl, [], rfl, nofun⟩
  | more htaken hrest ih =>
    rcases List.mem_cons.mp ha with rfl | ha
    · rw [Answer.fault?_took htaken] at he
      cases he
    · obtain ⟨hresult, earlier, rfl, hnone⟩ := ih ha
      exact ⟨hresult, _ :: earlier, rfl,
        List.forall_mem_cons.mpr ⟨Answer.fault?_took htaken, hnone⟩⟩

end Exchange

/-! ## Segments -/

/-- There are no segments, or there is a byte in them. -/
def Filled (s : Scatter) : Prop := s.segments = [] ∨ s.toBytes ≠ []

instance (s : Scatter) : Decidable s.Filled := inferInstanceAs (Decidable (_ ∨ _))

theorem filled_ofBytes (b : Bytes) : (ofBytes b).Filled := by
  cases b with
  | nil => exact .inl rfl
  | cons x b => exact .inr nofun

theorem toBytes_ofBytes (b : Bytes) : (ofBytes b).toBytes = b := by
  cases b with
  | nil => rfl
  | cons x b => exact List.append_nil (x :: b)

/-- No empty segments are left over on their own. -/
theorem dropTaken_eq_nil_iff {n : Nat} {segments : List Bytes} :
    dropTaken n segments = [] ↔ segments.flatten.length ≤ n := by
  induction segments generalizing n with
  | nil => simp [dropTaken]
  | cons b rest ih =>
    rw [List.flatten_cons, List.length_append]
    unfold dropTaken
    split
    · rw [ih]
      omega
    · simp only [reduceCtorEq, false_iff]
      omega

/-- What the segments hold is exchanged for the answers of the sink. A record of them changes
nothing else. -/
theorem exists_exchange (sink : Sink ε σ) (state : σ) (segments : List Bytes) :
    ∃ answers, Exchange segments.flatten answers (writeSegments sink state segments).1 ∧
      ∀ log, writeSegments sink.recorded (state, log) segments =
        ((writeSegments sink state segments).1, (writeSegments sink state segments).2,
          log ++ answers) := by
  -- The induction follows the turns: each takes some bytes off the segments that are left.
  fun_induction writeSegments sink state segments with
  | case1 state segments h =>
    obtain rfl := List.isEmpty_iff.mp h
    refine ⟨[], .done, fun log => ?_⟩
    rw [writeSegments, if_pos h, List.append_nil]
  | case2 state segments h e after hoffer =>
    refine ⟨[.failed e], .fault rfl, fun log => ?_⟩
    rw [writeSegments, if_neg h, Sink.offer_recorded_error hoffer]
  | case3 state segments h taken after hoffer hzero =>
    refine ⟨[.took []], .fault rfl, fun log => ?_⟩
    rw [writeSegments, if_neg h, Sink.offer_recorded_ok hoffer, hzero, List.take_zero]
    exact dif_pos hzero
  | case4 state segments h taken after hoffer hsome ih =>
    obtain ⟨answers, hexchange, hrecorded⟩ := ih
    refine ⟨.took (segments.flatten.take taken.val) :: answers, ?_, fun log => ?_⟩
    · have htaken : segments.flatten.take taken.val ≠ [] := by
        have := taken.property
        rw [← List.length_pos_iff, List.length_take]
        omega
      rw [flatten_dropTaken] at hexchange
      have hmore := Exchange.more htaken hexchange
      rwa [List.take_append_drop] at hmore
    · have hnext := hrecorded (log ++ [.took (segments.flatten.take taken.val)])
      rw [List.append_assoc, List.singleton_append] at hnext
      rw [writeSegments, if_neg h, Sink.offer_recorded_ok hoffer]
      exact (dif_neg hsome).trans hnext

/-- A willing sink is given all there is. It refuses nothing but segments that are all empty. -/
theorem writeSegments_eq_ok_iff {sink : Sink ε σ} (hwilling : sink.Willing) (state : σ)
    (segments : List Bytes) :
    (writeSegments sink state segments).1 = .ok () ↔ Filled ⟨segments⟩ := by
  fun_induction writeSegments sink state segments with
  | case1 state segments hnil => exact iff_of_true rfl (.inl (List.isEmpty_iff.mp hnil))
  | case2 state segments hcons e after hoffer =>
    have hbytes : segments.flatten = [] := hwilling.flatten_eq_nil fun taken after h => by
      rw [hoffer] at h
      cases h
    exact iff_of_false nofun (not_or.mpr ⟨mt List.isEmpty_iff.mpr hcons, not_not_intro hbytes⟩)
  | case3 state segments hcons taken after hoffer hzero =>
    have hbytes : segments.flatten = [] := hwilling.flatten_eq_nil fun taken' after' h => by
      rw [hoffer] at h
      cases h
      exact hzero
    exact iff_of_false nofun (not_or.mpr ⟨mt List.isEmpty_iff.mpr hcons, not_not_intro hbytes⟩)
  | case4 state segments hcons taken after hoffer hsome ih =>
    have hbytes : segments.flatten ≠ [] := by
      have := taken.property
      rw [← List.length_pos_iff]
      omega
    refine ih.trans (iff_of_true ?_ (.inr hbytes))
    by_cases hrest : segments.flatten.length ≤ taken.val
    · exact .inl (dropTaken_eq_nil_iff.mpr hrest)
    · refine .inr ?_
      rw [toBytes, flatten_dropTaken, ← List.length_pos_iff, List.length_drop]
      omega

/-- A sink may take its bytes as it likes. While it takes something each time, writing succeeds, and
what it took is the content; with the first fault writing ends, and what it took before is the
beginning of the content. A sink that is willing is given the content of every list that has no
segments or holds a byte. -/
theorem writeTo_delivers (s : Scatter) (sink : Sink ε σ) (state : σ) :
    ∃ result after answers,
      s.writeTo sink state = (result, after) ∧
      s.writeTo sink.recorded (state, []) = (result, after, answers) ∧
      ((∀ a ∈ answers, a.fault? = none) →
        result = .ok s.length ∧ answers.flatMap Answer.bytes = s.toBytes) ∧
      (∀ a ∈ answers, ∀ e, a.fault? = some e → result = .error e ∧
        ∃ earlier, answers = earlier ++ [a] ∧ (∀ a ∈ earlier, a.fault? = none) ∧
          earlier.flatMap Answer.bytes <+: s.toBytes) ∧
      (sink.Willing → (result = .ok s.length ↔ s.Filled)) := by
  obtain ⟨answers, hexchange, hrecorded⟩ := exists_exchange sink state s.segments
  have hwilling := fun h : sink.Willing => writeSegments_eq_ok_iff h state s.segments
  have hrecorded := hrecorded []
  generalize hrun : writeSegments sink state s.segments = run at *
  obtain ⟨result, after⟩ := run
  refine ⟨result.map fun _ => s.length, after, answers, ?_, ?_, fun hnone => ?_,
    fun a ha e he => ?_,
    fun h => ?_⟩
  · rw [writeTo, hrun]
    cases result <;> rfl
  · rw [writeTo, hrecorded]
    cases result <;> rfl
  · obtain ⟨rfl, htaken⟩ := hexchange.of_no_fault hnone
    exact ⟨rfl, htaken⟩
  · obtain ⟨rfl, earlier, rfl, hnone⟩ := hexchange.of_fault ha he
    refine ⟨rfl, earlier, rfl, hnone, ?_⟩
    have htaken := hexchange.taken_prefix
    rw [List.flatMap_append, List.flatMap_singleton, Answer.bytes_of_fault he, List.append_nil]
      at htaken
    exact htaken
  · refine Iff.trans ?_ (hwilling h)
    cases result <;> simp [Except.map]

/-! A list with empty segments at both ends, written to a sink that takes at most two bytes of one
segment at a time, and to one that has room for three bytes and then fails. -/

namespace Sample

/-- Four bytes. -/
def cut : Scatter := ⟨[[], [1, 2, 3], [], [4], []]⟩

/-- A sink that has room for as many bytes as its state says, and fails where there is none. -/
def roomy : Sink String Nat where
  offer room segments :=
    if room = 0 then (.error "full", 0)
    else
      (.ok ⟨min room segments.flatten.length, Nat.min_le_right _ _⟩,
        room - segments.flatten.length)

end Sample

theorem writeTo_delivers_sample :
    ((Sink.limited 2).Willing ∧ Sample.cut.toBytes ≠ [] ∧ ∃ kept answers,
      Sample.cut.writeTo (Sink.limited 2).recorded ([], []) = (.ok 4, kept, answers) ∧
        answers = [.took [1, 2], .took [3], .took [4]] ∧
          answers.flatMap Answer.bytes = Sample.cut.toBytes) ∧
      ∃ answers earlier,
        Sample.cut.writeTo Sample.roomy.recorded (3, []) = (.error (.sink "full"), 0, answers) ∧
          answers = earlier ++ [.failed "full"] ∧
            earlier.flatMap Answer.bytes <+: Sample.cut.toBytes := by
  constructor
  · have hwilling : (Sink.limited 2).Willing := Sink.willing_limited (by decide)
    have hbytes : Sample.cut.toBytes ≠ [] := by decide
    obtain ⟨result, kept, answers, -, hrecorded, hall, -, hok⟩ :=
      writeTo_delivers Sample.cut (Sink.limited 2) []
    have hrun : Sample.cut.writeTo (Sink.limited 2).recorded ([], []) =
        (.ok 4, [1, 2, 3, 4], [.took [1, 2], .took [3], .took [4]]) := by cbv
    rw [hrun] at hrecorded
    cases hrecorded
    obtain ⟨-, htaken⟩ := hall (by decide)
    exact ⟨hwilling, hbytes, _, _, by rw [hrun, (hok hwilling).mpr (.inr hbytes)], rfl, htaken⟩
  · obtain ⟨result, room, answers, -, hrecorded, -, hfault, -⟩ :=
      writeTo_delivers Sample.cut Sample.roomy 3
    have hrun : Sample.cut.writeTo Sample.roomy.recorded (3, []) =
        (.error (.sink "full"), 0, [.took [1, 2, 3], .failed "full"]) := by cbv
    rw [hrun] at hrecorded
    cases hrecorded
    obtain ⟨-, earlier, heq, -, hprefix⟩ := hfault (.failed "full") (by simp) (.sink "full") rfl
    exact ⟨_, earlier, hrun, heq, hprefix⟩

/-! ## Memory -/

/-- Memory takes all segments at once. Where there are some that are all empty it takes nothing. -/
theorem writeSegments_memory (kept : Bytes) (segments : List Bytes) :
    writeSegments Sink.memory kept segments =
      if Filled ⟨segments⟩ then (.ok (), kept ++ segments.flatten)
        else (.error .writeZero, kept) := by
  rw [writeSegments]
  by_cases hnil : segments = []
  · simp [hnil, Filled]
  rw [if_neg (mt List.isEmpty_iff.mp hnil)]
  show (if _ : segments.flatten.length = 0 then _ else _) = _
  by_cases hbytes : segments.flatten = []
  · have hhollow : ¬ Filled ⟨segments⟩ := not_or.mpr ⟨hnil, not_not_intro hbytes⟩
    rw [dif_pos (by rw [hbytes]; rfl), if_neg hhollow, hbytes, List.append_nil]
  · -- In the next turn there are no segments left.
    have hrest : dropTaken segments.flatten.length segments = [] :=
      dropTaken_eq_nil_iff.mpr (Nat.le_refl _)
    rw [dif_neg (mt List.length_eq_zero_iff.mp hbytes), if_pos (.inr hbytes), hrest, writeSegments]
    rfl

theorem writeTo_memory (s : Scatter) (kept : Bytes) :
    s.writeTo Sink.memory kept =
      if s.Filled then (.ok s.length, kept ++ s.toBytes) else (.error .writeZero, kept) := by
  rw [writeTo, writeSegments_memory]
  by_cases h : s.Filled
  · rw [if_pos h, if_pos h]
    rfl
  · rw [if_neg h, if_neg h]

/-! ## One byte string -/

/-- What is left of one byte string is a list of one segment, or of none. -/
theorem dropTaken_singleton (n : Nat) (b : Bytes) :
    dropTaken n [b] = (ofBytes (b.drop n)).segments := by
  unfold dropTaken ofBytes
  by_cases h : b.length ≤ n
  · rw [if_pos h, List.drop_of_length_le h]
    rfl
  · have hleft : b.drop n ≠ [] := by
      rw [Ne, List.drop_eq_nil_iff]
      exact h
    rw [if_neg h]
    simp [hleft]

/-- One byte string is written as a list of one segment is, or of none if it is empty. -/
theorem writeAll_eq (sink : Sink ε σ) (state : σ) (b : Bytes) :
    writeAll sink state b = writeSegments sink state (ofBytes b).segments := by
  -- Each turn of one loop is a turn of the other.
  fun_induction writeAll sink state b with
  | case1 state b h =>
    rw [ofBytes, if_pos h, writeSegments]
    rfl
  | case2 state b h e after hoffer =>
    rw [ofBytes, if_neg h, writeSegments]
    simp [hoffer]
  | case3 state b h taken after hoffer hzero =>
    rw [ofBytes, if_neg h, writeSegments]
    simp [hoffer, hzero]
  | case4 state b h taken after hoffer hsome ih =>
    rw [ih, ← dropTaken_singleton]
    conv => rhs; rw [ofBytes, if_neg h, writeSegments]
    simp [hoffer, hsome]

end Scatter

/-- A packet in one piece is written as the list of its piece. -/
theorem WireForm.writeTo_buffer {ε σ : Type} (b : Bytes) (sink : Scatter.Sink ε σ) (state : σ) :
    (buffer b).writeTo sink state = (Scatter.ofBytes b).writeTo sink state := by
  have hlength : (Scatter.ofBytes b).length = b.length :=
    congrArg List.length (Scatter.toBytes_ofBytes b)
  rcases hrun : Scatter.writeSegments sink state (Scatter.ofBytes b).segments with
    ⟨e | ⟨⟩, after⟩ <;>
    simp only [writeTo, Scatter.writeTo, Scatter.writeAll_eq, hrun, hlength]

namespace WireMessage

open Scatter (Sink)

/-- A packet is written to memory as it stands: in one piece always, in segments unless there are
some and they are all empty. Then the packet has no byte, and there is nothing that memory could
take. -/
theorem forms_written (m : Message) (segments : List Bytes) (kept : Bytes) :
    let b := segments.flatten
    (ofBuffer m b).writeTo Sink.memory kept = (.ok b.length, kept ++ b) ∧
      (ofScatter m ⟨segments⟩).writeTo Sink.memory kept =
        if Scatter.Filled ⟨segments⟩ then (.ok b.length, kept ++ b)
        else (.error (.failed .writeZero), kept) := by
  intro b
  constructor
  · simp only [writeTo, ofBuffer, WireForm.writeTo_buffer, Scatter.writeTo_memory,
      Scatter.filled_ofBytes, if_true, Scatter.length, Scatter.toBytes_ofBytes]
  · simp only [writeTo, ofScatter, WireForm.writeTo, Scatter.writeTo_memory]
    by_cases h : Scatter.Filled ⟨segments⟩
    · rw [if_pos h, if_pos h]
      rfl
    · rw [if_neg h, if_neg h]

/-- A packet without a byte is written in one piece, and refused in one empty segment. -/
theorem empty_segment_refused :
    (ofBuffer (.empty .interest) []).writeTo Sink.memory [] = (.ok 0, []) ∧
      (ofScatter (.empty .interest) ⟨[[]]⟩).writeTo Sink.memory [] =
        (.error (.failed .writeZero), []) := by
  constructor <;> cbv

end WireMessage

end NamedContent
