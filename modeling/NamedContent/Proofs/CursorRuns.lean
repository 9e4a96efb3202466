import NamedContent.Proofs.Cursors
import NamedContent.Proofs.Slots

/-!
# Runs of a cursor

Whatever is asked of a cursor, and in which order: it stays within its buffer, and only a read that
succeeds moves it, over the bytes that the answer consists of, or a move to a position that is
there. What it holds is told by the requests and the replies alone.

* `Cursor.Answers`: the replies that a cursor may give, and where it stands afterwards.
* `Cursor.answers_answer`, `Cursor.Answers.held_eq`: one request.
* `Cursor.answers_after`: a run of requests.
-/

namespace NamedContent

namespace Bytes

/-- Two bytes are the written form of the short number that they denote. -/
theorem ofNat_two_toNat {b : Bytes} (h : b.length = 2) :
    ofNat 2 (UInt16.ofNat (toNat b)).toNat = b := by
  have hbound := toNat_lt_bound b
  have hdigits := ofNat_toNat b
  rw [h] at hbound hdigits
  rwa [UInt16.toNat_ofNat', Nat.mod_eq_of_lt (show toNat b < 2 ^ 16 from hbound)]

end Bytes

theorem Tlv.type_isPrefix (t : Tlv) : Bytes.ofNat 2 t.type.toNat <+: t.toBytes :=
  ⟨Bytes.ofNat 2 t.value.length ++ t.value, (List.append_assoc _ _ _).symm⟩

namespace Cursor

/-! ## Requests and answers -/

/-- A request to a cursor. -/
inductive Request
  | peekType
  | uint16
  | take (count : Nat)
  | advance (count : Nat)
  | container (length : Nat)
  | number (length : Nat)
  | header
  | value (type : UInt16)
  | fixed (type : UInt16) (width : Nat)
  | setPosition (position : Nat)
  | hold (error : DecodeError)
  | clear

/-- What a cursor answers when it does not fail. -/
inductive Answer
  | type (found : Option UInt16)
  | uint16 (n : UInt16)
  | bytes (b : Bytes)
  | container (inner : Cursor)
  | number (n : UInt64)
  | header (type : UInt16) (length : Nat)
  | value (found : Option Bytes)
  | fixed (found : Option Nat)
  | held (recorded : Bool)
  | done

/-- An answer or a failure. -/
abbrev Reply := Except DecodeError Answer

/-- The reply to a request, from the result of the operation that was asked for. -/
def replyWith {α : Type} (answer : α → Answer) : Except DecodeError α × Cursor → Reply × Cursor
  | (result, c) => (result.map answer, c)

/-- The reply of a cursor to a request, and the cursor afterwards. -/
def answer (c : Cursor) : Request → Reply × Cursor
  | .peekType => (.ok (.type c.peekType?), c)
  | .uint16 => replyWith .uint16 c.uint16
  | .take count => replyWith .bytes (c.take count)
  | .advance count => replyWith (fun _ => .done) (c.advance count)
  | .container length => replyWith .container (c.container length)
  | .number length => replyWith .number (c.number length)
  | .header => replyWith (fun (type, length) => .header type length) c.header
  | .value type => replyWith .value (c.value? type)
  | .fixed type width => (.ok (.fixed (c.fixed? type width).1), (c.fixed? type width).2)
  | .setPosition position => replyWith (fun _ => .done) (c.setPosition position)
  | .hold error => (.ok (.held c.held.isNone), c.hold error)
  | .clear => (.ok .done, c.clear)

/-- Requests with the replies to them. -/
abbrev Log := List (Request × Reply)

/-- The replies of a cursor to requests, and the cursor afterwards. -/
def run (c : Cursor) : List Request → Log × Cursor
  | [] => ([], c)
  | request :: rest =>
    let (reply, c') := c.answer request
    let (log, c'') := c'.run rest
    ((request, reply) :: log, c'')

/-! ## One request -/

/-- Whether a request is one that the bytes behind the cursor, or the buffer, can satisfy. -/
def Allows (c : Cursor) : Request → Prop
  | .peekType | .uint16 => 2 ≤ c.remaining
  | .take count | .advance count | .container count => count ≤ c.remaining
  | .number length => 1 ≤ length ∧ length ≤ 8 ∧ length ≤ c.remaining
  | .header => ∃ t : Tlv, t.Fits ∧ t.toBytes <+: c.rest
  | .value type => ∃ t : Tlv, t.type = type ∧ t.Fits ∧ t.toBytes <+: c.rest
  | .fixed type width =>
    ∃ t : Tlv, t.type = type ∧ t.value.length = width ∧ t.Fits ∧ t.toBytes <+: c.rest
  | .setPosition position => position ≤ c.buffer.length
  | .hold _ | .clear => True

/-- Whether a request that cannot be satisfied is a failure. It is none if no type is there to be
told, if a value is asked for and another type is there, or if a number of given width is asked
for. -/
def Fails (c : Cursor) : Request → Prop
  | .peekType | .fixed .. => False
  | .value type => ¬ c.Allows (.value type) ∧ Bytes.ofNat 2 type.toNat <+: c.rest
  | request => ¬ c.Allows request

/-- Whether a reply is a failure, or that there is nothing of the kind asked for. -/
def declined : Reply → Bool
  | .error _ | .ok (.type none) | .ok (.value none) | .ok (.fixed none) => true
  | _ => false

/-- The replies that a cursor may give to a request, and the cursor afterwards. An answer that was
read consists of the bytes that the cursor went over. -/
inductive Answers (c : Cursor) : Request → Reply → Cursor → Prop
  | type {type : UInt16} : Bytes.ofNat 2 type.toNat <+: c.rest →
      Answers c .peekType (.ok (.type (some type))) c
  | uint16 {n : UInt16} {c' : Cursor} : c.Over (Bytes.ofNat 2 n.toNat) c' →
      Answers c .uint16 (.ok (.uint16 n)) c'
  | take {b : Bytes} {c' : Cursor} : c.Over b c' → Answers c (.take b.length) (.ok (.bytes b)) c'
  | advance {b : Bytes} {c' : Cursor} : c.Over b c' →
      Answers c (.advance b.length) (.ok .done) c'
  | container {b : Bytes} {c' : Cursor} : c.Over b c' →
      Answers c (.container b.length) (.ok (.container (start b))) c'
  | number {b : Bytes} {c' : Cursor} {n : UInt64} : c.Over b c' → Bytes.toUInt64? b = some n →
      Answers c (.number b.length) (.ok (.number n)) c'
  | header {t : Tlv} {c' : Cursor} : t.Fits → c.Over (Tlv.header t.type t.value.length) c' →
      t.value <+: c'.rest → Answers c .header (.ok (.header t.type t.value.length)) c'
  | value {t : Tlv} {c' : Cursor} : t.Fits → c.Over t.toBytes c' →
      Answers c (.value t.type) (.ok (.value (some t.value))) c'
  | fixed {t : Tlv} {c' : Cursor} : t.Fits → c.Over t.toBytes c' →
      Answers c (.fixed t.type t.value.length) (.ok (.fixed (some (Bytes.toNat t.value)))) c'
  | moved {position : Nat} (h : position ≤ c.buffer.length) :
      Answers c (.setPosition position) (.ok .done) { c with position, position_le := h }
  | recorded {e : DecodeError} : c.held = none →
      Answers c (.hold e) (.ok (.held true)) { c with held := some e }
  | kept {e : DecodeError} : c.held.isSome → Answers c (.hold e) (.ok (.held false)) c
  | cleared : Answers c .clear (.ok .done) { c with held := none }
  | noType : ¬ c.Allows .peekType → Answers c .peekType (.ok (.type none)) c
  | noValue {type : UInt16} : ¬ Bytes.ofNat 2 type.toNat <+: c.rest →
      Answers c (.value type) (.ok (.value none)) c
  | noFixed {type : UInt16} {width : Nat} : ¬ c.Allows (.fixed type width) →
      Answers c (.fixed type width) (.ok (.fixed none)) c
  | failed {request : Request} {e : DecodeError} : c.Fails request →
      Answers c request (.error e) (c.hold e)

variable {c c' : Cursor} {b : Bytes} {type : UInt16} {n : Nat} {e : DecodeError}

theorem peekType?_eq_some_iff :
    c.peekType? = some type ↔ Bytes.ofNat 2 type.toNat <+: c.rest := by
  unfold peekType? Tlv.type?
  constructor
  · intro h
    split at h
    · next x y behind hrest =>
      cases h
      refine ⟨behind, ?_⟩
      rw [Bytes.ofNat_two_toNat (b := [x, y]) rfl, hrest]
      rfl
    · cases h
  · rintro ⟨behind, hrest⟩
    obtain ⟨x, y, hdigits, hn⟩ := Tlv.exists_ofNat_two type.toNat_lt
    rw [← hrest, hdigits]
    simp only [List.cons_append, List.nil_append, hn, UInt16.ofNat_toNat]

theorem Fails.not_allows {request : Request} (h : c.Fails request) : ¬ c.Allows request := by
  cases request with
  | peekType | fixed => exact absurd h not_false
  | value => exact h.1
  | _ => exact h

theorem Over.length_le_remaining (h : c.Over b c') : b.length ≤ c.remaining := by
  rw [← length_rest, h.rest, List.length_append]
  exact Nat.le_add_right _ _

theorem Over.isPrefix (h : c.Over b c') : b <+: c.rest := ⟨c'.rest, h.rest.symm⟩

@[simp] theorem buffer_hold (c : Cursor) (e : DecodeError) : (c.hold e).buffer = c.buffer := by
  unfold hold
  split <;> rfl

@[simp] theorem position_hold (c : Cursor) (e : DecodeError) :
    (c.hold e).position = c.position := by
  unfold hold
  split <;> rfl

theorem held_hold (c : Cursor) (e : DecodeError) : (c.hold e).held = c.held.or (some e) := by
  unfold hold
  cases h : c.held <;> simp [h]

namespace Answers

variable {request : Request} {reply : Reply}

theorem allows (h : Answers c request reply c') (hdeclined : declined reply = false) :
    c.Allows request := by
  cases h with
  | type h =>
    have hlength := h.length_le
    rwa [Bytes.length_ofNat, length_rest] at hlength
  | uint16 h =>
    have hlength := h.length_le_remaining
    rwa [Bytes.length_ofNat] at hlength
  | take h | advance h | container h => exact h.length_le_remaining
  | number h hn =>
    have hlength := (Bytes.toUInt64?_eq_some_iff.mp hn).1
    exact ⟨hlength.1, hlength.2, h.length_le_remaining⟩
  | @header t c' hfits h hvalue =>
    refine ⟨t, hfits, ?_⟩
    rw [h.rest, Tlv.toBytes]
    exact (List.prefix_append_right_inj _).mpr hvalue
  | value hfits h => exact ⟨_, rfl, hfits, h.isPrefix⟩
  | fixed hfits h => exact ⟨_, rfl, rfl, hfits, h.isPrefix⟩
  | moved h => exact h
  | recorded | kept | cleared => trivial
  | noType | noValue | noFixed | failed => cases hdeclined

theorem not_allows (h : Answers c request reply c') (hdeclined : declined reply = true) :
    ¬ c.Allows request := by
  cases h with
  | noType hno | noFixed hno => exact hno
  | noValue hno =>
    rintro ⟨t, rfl, -, hprefix⟩
    exact hno (t.type_isPrefix.trans hprefix)
  | failed hfails => exact hfails.not_allows
  | _ => cases hdeclined

/-- A request is declined exactly where it cannot be satisfied. -/
theorem declined_iff (h : Answers c request reply c') :
    declined reply = true ↔ ¬ c.Allows request :=
  ⟨h.not_allows, fun hno => by_contra fun hd => hno (h.allows (Bool.eq_false_iff.mpr hd))⟩

/-- A request that is declined does not move the cursor. -/
theorem position_of_declined (h : Answers c request reply c') (hdeclined : declined reply = true) :
    c'.position = c.position := by
  cases h with
  | noType | noValue | noFixed | type | recorded | kept | cleared => rfl
  | failed => exact position_hold c _
  | _ => cases hdeclined

theorem buffer_eq (h : Answers c request reply c') : c'.buffer = c.buffer := by
  cases h with
  | uint16 h | take h | advance h | container h | number h | header _ h | value _ h
  | fixed _ h => exact h.buffer
  | failed => exact buffer_hold c _
  | _ => rfl

end Answers

/-! ### Each operation -/

theorem answers_peekType (c : Cursor) : Answers c .peekType (.ok (.type c.peekType?)) c := by
  cases hpeek : c.peekType? with
  | some type => exact .type (peekType?_eq_some_iff.mp hpeek)
  | none =>
    refine .noType fun hle => ?_
    have hfirst : Bytes.ofNat 2 (UInt16.ofNat (Bytes.toNat (c.rest.take 2))).toNat <+: c.rest := by
      rw [Bytes.ofNat_two_toNat (List.length_take_of_le (by rwa [length_rest]))]
      exact List.take_prefix 2 c.rest
    rw [peekType?_eq_some_iff.mpr hfirst] at hpeek
    cases hpeek

theorem replyWith_map {α β : Type} (f : β → Answer) (g : α → β)
    (outcome : Except DecodeError α × Cursor) :
    replyWith f (outcome.1.map g, outcome.2) = replyWith (fun a => f (g a)) outcome := by
  obtain ⟨result, c⟩ := outcome
  cases result <;> rfl

/-- A request that is answered from the next bytes fails where there are not enough of them. -/
theorem Answers.of_take {request : Request} {count : Nat} {reading : Bytes → Answer}
    (hanswer : c.answer request = replyWith reading (c.take count))
    (hread : ∀ b c', b.length = count → c.Over b c' → Answers c request (.ok (reading b)) c')
    (hfails : ¬ count ≤ c.remaining → c.Fails request) :
    Answers c request (c.answer request).1 (c.answer request).2 := by
  rw [hanswer]
  rcases c.take_cases count with ⟨b, c', htake, hlength, hover⟩ | ⟨hlt, e, htake⟩
  · rw [htake]
    exact hread b c' hlength hover
  · rw [htake]
    exact .failed (hfails (Nat.not_le.mpr hlt))

theorem answers_uint16 (c : Cursor) :
    Answers c .uint16 (c.answer .uint16).1 (c.answer .uint16).2 := by
  refine .of_take (replyWith_map _ _ (c.take 2)) (fun b c' hlength hover => ?_) id
  exact .uint16 (by rwa [Bytes.ofNat_two_toNat hlength])

theorem answers_take (c : Cursor) (count : Nat) :
    Answers c (.take count) (c.answer (.take count)).1 (c.answer (.take count)).2 := by
  refine .of_take rfl ?_ id
  rintro b c' rfl hover
  exact .take hover

theorem answers_advance (c : Cursor) (count : Nat) :
    Answers c (.advance count) (c.answer (.advance count)).1 (c.answer (.advance count)).2 := by
  refine .of_take (replyWith_map _ _ (c.take count)) ?_ id
  rintro b c' rfl hover
  exact .advance hover

theorem answers_container (c : Cursor) (length : Nat) :
    Answers c (.container length) (c.answer (.container length)).1
      (c.answer (.container length)).2 := by
  refine .of_take (replyWith_map _ _ (c.take length)) ?_ id
  rintro b c' rfl hover
  exact .container hover

theorem answers_number (c : Cursor) (length : Nat) :
    Answers c (.number length) (c.answer (.number length)).1 (c.answer (.number length)).2 := by
  by_cases hwidth : 1 ≤ length ∧ length ≤ 8
  · have hanswer : c.answer (.number length) =
        replyWith (fun b => .number (UInt64.ofNat (Bytes.toNat b))) (c.take length) := by
      rw [answer, number, if_pos hwidth]
      exact replyWith_map _ _ (c.take length)
    refine .of_take hanswer ?_ fun hout hallows => hout hallows.2.2
    rintro b c' rfl hover
    exact .number hover (toUInt64?_of_length hwidth)
  · simp only [answer, number, if_neg hwidth]
    exact .failed fun hallows => hwidth ⟨hallows.1, hallows.2.1⟩

theorem not_prefix_of_next_error (h : Tlv.next c.rest = .error e) (t : Tlv) (hfits : t.Fits) :
    ¬ t.toBytes <+: c.rest := by
  rintro ⟨behind, hrest⟩
  rw [Tlv.next_eq_ok_iff.mpr ⟨hfits, hrest.symm⟩] at h
  cases h

theorem answers_header (c : Cursor) :
    Answers c .header (c.answer .header).1 (c.answer .header).2 := by
  cases hnext : Tlv.next c.rest with
  | error e =>
    simp only [answer, header_of_next_error hnext]
    exact .failed fun ⟨t, hfits, hprefix⟩ => not_prefix_of_next_error hnext t hfits hprefix
  | ok found =>
    obtain ⟨t, behind⟩ := found
    obtain ⟨hfits, hrest⟩ := Tlv.next_eq_ok_iff.mp hnext
    have hheader := header_of_rest hfits hrest
    have hover := (header_eq_ok_iff.mp hheader).2
    simp only [answer, hheader]
    refine .header hfits hover ⟨behind, ?_⟩
    rw [hover.rest, Tlv.toBytes, List.append_assoc] at hrest
    exact (List.append_cancel_left hrest).symm

theorem answers_value (c : Cursor) (type : UInt16) :
    Answers c (.value type) (c.answer (.value type)).1 (c.answer (.value type)).2 := by
  by_cases hpeek : c.peekType? = some type
  · cases hnext : Tlv.next c.rest with
    | error e =>
      simp only [answer, value?_of_next_error hpeek hnext]
      refine .failed ⟨?_, peekType?_eq_some_iff.mp hpeek⟩
      rintro ⟨t, -, hfits, hprefix⟩
      exact not_prefix_of_next_error hnext t hfits hprefix
    | ok found =>
      obtain ⟨t, behind⟩ := found
      obtain ⟨hfits, hrest⟩ := Tlv.next_eq_ok_iff.mp hnext
      obtain rfl : t.type = type := Option.some.inj (peekType?_of_rest hrest ▸ hpeek)
      obtain ⟨c', hvalue, hover⟩ := value?_of_rest hfits hrest
      simp only [answer, hvalue]
      exact .value hfits hover
  · simp only [answer, value?_of_peekType? hpeek]
    exact .noValue fun hprefix => hpeek (peekType?_eq_some_iff.mpr hprefix)

theorem answers_fixed (c : Cursor) (type : UInt16) (width : Nat) :
    Answers c (.fixed type width) (c.answer (.fixed type width)).1
      (c.answer (.fixed type width)).2 := by
  cases hfound : c.fixed? type width with
  | mk found c' =>
    cases found with
    | some n =>
      obtain ⟨b, rfl, rfl, hfits, hover⟩ := fixed?_eq_some_iff.mp hfound
      simp only [answer, hfound]
      exact .fixed hfits hover
    | none =>
      have hnone : c.fixed? type width = (none, c) := fixed?_of_none (by rw [hfound])
      simp only [answer, hnone]
      refine .noFixed ?_
      rintro ⟨t, rfl, rfl, hfits, behind, hrest⟩
      rw [fixed?_of_over hfits (over_skip hrest.symm).1] at hnone
      cases hnone

theorem answers_hold (c : Cursor) (e : DecodeError) :
    Answers c (.hold e) (.ok (.held c.held.isNone)) (c.hold e) := by
  cases hheld : c.held with
  | none =>
    rw [hold, hheld]
    exact .recorded hheld
  | some e' =>
    rw [hold, hheld]
    exact .kept (by rw [hheld]; rfl)

/-- Any request. -/
theorem answers_answer (c : Cursor) (request : Request) :
    Answers c request (c.answer request).1 (c.answer request).2 := by
  cases request with
  | peekType => exact answers_peekType c
  | uint16 => exact answers_uint16 c
  | take count => exact answers_take c count
  | advance count => exact answers_advance c count
  | container length => exact answers_container c length
  | number length => exact answers_number c length
  | header => exact answers_header c
  | value type => exact answers_value c type
  | fixed type width => exact answers_fixed c type width
  | setPosition position =>
    by_cases hle : position ≤ c.buffer.length
    · simp only [answer, setPosition, dif_pos hle]
      exact .moved hle
    · simp only [answer, setPosition, dif_neg hle]
      exact .failed hle
  | hold e => exact answers_hold c e
  | clear => exact .cleared

/-! ## What is held -/

namespace Request

/-- Whether a request lets go of what is held. -/
def isClear : Request → Bool
  | .clear => true
  | _ => false

end Request

/-- The failure that a request offers to be held, or that is the reply to it. -/
def offered? : Request × Reply → Option DecodeError
  | (.hold e, _) => some e
  | (_, .error e) => some e
  | _ => none

/-- What was asked since the cursor last let go of what it held. -/
def sinceClear (log : Log) : Log := (log.reverse.takeWhile fun entry => !entry.1.isClear).reverse

/-- The first failure since the cursor last let go of what it held. -/
def firstFailure (log : Log) : Option DecodeError := (sinceClear log).findSome? offered?

theorem firstFailure_concat (log : Log) (entry : Request × Reply) :
    firstFailure (log ++ [entry]) =
      if entry.1.isClear then none else (firstFailure log).or (offered? entry) := by
  unfold firstFailure sinceClear
  rw [List.reverse_append, List.reverse_singleton, List.singleton_append, List.takeWhile_cons]
  cases entry.1.isClear with
  | true => rfl
  | false =>
    simp only [Bool.not_false, if_true, List.reverse_cons, List.findSome?_append,
      Bool.false_eq_true, if_false]
    rw [List.findSome?_singleton]

/-- One request: what is held stays unless it is let go of, and otherwise is the failure offered. -/
theorem Answers.held_eq {request : Request} {reply : Reply} (h : Answers c request reply c') :
    c'.held = if request.isClear then none else c.held.or (offered? (request, reply)) := by
  cases h with
  | uint16 h | take h | advance h | container h | number h | header _ h | value _ h
  | fixed _ h => simp [h.held, Request.isClear, offered?]
  | type | moved | noType | noValue | noFixed => simp [Request.isClear, offered?]
  | recorded h => simp [h, Request.isClear, offered?]
  | kept h =>
    obtain ⟨e', he⟩ := Option.isSome_iff_exists.mp h
    simp [he, Request.isClear, offered?]
  | cleared => rfl
  | @failed request e hfails =>
    cases request with
    | hold | clear => exact absurd trivial hfails
    | _ => simp [held_hold, Request.isClear, offered?]

/-! ## Runs -/

theorem buffer_run (c : Cursor) (requests : List Request) :
    (c.run requests).2.buffer = c.buffer := by
  induction requests generalizing c with
  | nil => rfl
  | cons request rest ih => exact (ih _).trans (answers_answer c request).buffer_eq

/-- A run: what is held is told by all that was asked before and in the run. -/
theorem held_run (past : Log) (requests : List Request) (h : c.held = firstFailure past) :
    (c.run requests).2.held = firstFailure (past ++ (c.run requests).1) := by
  -- What is asked in the run moves into the past, one request after the other.
  induction requests generalizing c past with
  | nil => rwa [run, List.append_nil]
  | cons request rest ih =>
    have hstep : (c.answer request).2.held =
        firstFailure (past ++ [(request, (c.answer request).1)]) := by
      rw [firstFailure_concat, (answers_answer c request).held_eq, h]
    have hrun := ih _ hstep
    rwa [List.append_assoc] at hrun

/-- However a buffer is read, and whatever lengths, types and positions are asked for: the cursor
stays on the buffer and within it. What it holds is the first failure that was met or offered since
it last let go. Each further request is answered from the bytes that the cursor goes over, or is
declined, and then the cursor stays where it is; it is declined exactly where it cannot be
satisfied. -/
theorem answers_after {b : Bytes} {requests : List Request} {log : Log}
    (h : (start b).run requests = (log, c)) :
    c.buffer = b ∧ c.position ≤ b.length ∧ c.held = firstFailure log ∧
    ∀ request reply c', c.answer request = (reply, c') →
      Answers c request reply c' ∧ (declined reply = true → c'.position = c.position) ∧
      (declined reply = true ↔ ¬ c.Allows request) := by
  have hbuffer := buffer_run (start b) requests
  have hheld := held_run (c := start b) [] requests rfl
  rw [h] at hbuffer hheld
  refine ⟨hbuffer, ?_, hheld, ?_⟩
  · have hle := c.position_le
    rwa [hbuffer] at hle
  · intro request reply c' hanswer
    have hanswers := answers_answer c request
    rw [hanswer] at hanswers
    exact ⟨hanswers, hanswers.position_of_declined, hanswers.declined_iff⟩

/-! A header is read, and then more than is there. This failure is let go of, and a position that is
not there is asked for. -/

namespace Sample

/-- Five requests, two of which fail. -/
def requests : List Request := [.header, .take 4, .clear, .setPosition 9, .fixed 0x0006 2]

/-- What they are answered with. -/
def log : Log :=
  [(.header, .ok (.header 0x0006 2)), (.take 4, .error (.fieldBeyondPacketEnd 4 4 3)),
    (.clear, .ok .done), (.setPosition 9, .error (.fieldBeyondPacketEnd 9 0 0)),
    (.fixed 0x0006 2, .ok (.fixed none))]

/-- The cursor afterwards: behind the header, and with the second failure held. -/
def behindHeader : Cursor :=
  { number with
    position := 4
    held := some (.fieldBeyondPacketEnd 9 0 0)
    position_le := by decide }

end Sample

theorem answers_after_sample :
    (start Sample.number.buffer).run Sample.requests = (Sample.log, Sample.behindHeader) ∧
      firstFailure Sample.log = some (.fieldBeyondPacketEnd 9 0 0) ∧
      ¬ Sample.behindHeader.Allows (.take 4) ∧
      (Sample.behindHeader.answer (.take 4)).2.position = 4 := by
  have hrun : (start Sample.number.buffer).run Sample.requests =
      (Sample.log, Sample.behindHeader) := rfl
  obtain ⟨-, -, hheld, hanswers⟩ := answers_after hrun
  obtain ⟨-, hposition, hdeclined⟩ := hanswers (.take 4) _ _ rfl
  exact ⟨hrun, hheld.symm, hdeclined.mp rfl, hposition rfl⟩

end Cursor

end NamedContent
