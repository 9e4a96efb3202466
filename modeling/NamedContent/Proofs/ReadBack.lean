import NamedContent.Control
import NamedContent.Proofs.Objects
import NamedContent.Proofs.Requests

/-!
# Messages read back

Whatever is made and changed by the operations of Interests, returned Interests, content objects and
control messages, and then written without a signer, is read back as a message of which every
question has the answer that it had before (`Message.toWire_reads_back`).
-/

namespace NamedContent

/-! ## Control messages -/

namespace Control

/-- Every question about two control messages has the same answer. -/
structure Same (a b : Control) : Prop where
  name : a.name? = b.name?
  json : a.json? = b.json?
  payload : a.payload = b.payload

/-- What is written for a control message is read back. -/
theorem reads_back {name : Option Name} (hname : ∀ n ∈ name, n.Plain) (payload : Json)
    {now : UInt64} {w : WireMessage} (hok : (create name payload).toWire now = .ok w) :
    w.ReadsBack ofMessage (·.Same (create name payload)) := by
  have htellable : (create name payload).message.Tellable := by
    refine ((Message.Tellable.empty .control).setIfSome fun v hv => ?_).set ?_
    · obtain ⟨n, hn, rfl⟩ := Option.map_eq_some_iff.mp hv
      exact Field.holds_name (hname n hn)
    · rw [Message.kind_setIfSome]
      exact ⟨.body, ⟨.payload, 0x0001, .payload true⟩, List.mem_cons_of_mem _ List.mem_cons_self,
        rfl, rfl⟩
  have hunsigned : (create name payload).message.Unsigned := by
    have hframe : Message.Frame [.name, .payload] (.empty .control)
        (create name payload).message := .trans (.setIfSome _ (by simp) _) (.set _ (by simp) _)
    exact Message.Unsigned.frame (fun _ _ => rfl) hframe (by simp [Message.validationFields])
  obtain ⟨form, d, hform, hd, hframe⟩ := Message.exists_decoded_of_unsigned hok htellable hunsigned
    (Message.headed_of_not_request (by rw [(create name payload).kind_eq]; rfl))
  have hkind : d.message.kind = .control := hframe.kind.trans (create name payload).kind_eq
  refine ⟨form, d, ⟨d.message, hkind⟩, hform, hd, dif_pos hkind, ?_⟩
  have hjson : Control.json? ⟨d.message, hkind⟩ = (create name payload).json? :=
    hframe.json? (by simp)
  constructor
  · exact hframe.name? (by simp)
  · exact hjson
  · rw [Control.payload, Control.payload, hjson]

end Control

/-! ## All messages -/

namespace Message

/-- What was made by the operations, with names, links and identifiers without parameters, and
written without a signer, is read back with the same answers. The one exception is the place of the
key of a content object, which a packet does not tell without a crypto suite, nor by a link without
any part. -/
theorem toWire_reads_back (now : UInt64) :
    (∀ (name : Name) (i : Interest) (es : List Interest.Edit),
      name.Plain → Interest.Created name i → (∀ e ∈ es, e.Plain) →
        ∃ j, es.foldlM Interest.edit i = .ok j ∧
          (∀ w, j.toWire none now = .ok w → w.ReadsBack Interest.ofMessage (·.Same j)) ∧
          ∀ code w, (InterestReturn.create j code).toWire none now = .ok w →
            w.ReadsBack InterestReturn.ofMessage fun r =>
              r.Same (.create j code) ∧ r.code = .ok code ∧ r.interest.Same j) ∧
    (∀ (name : Name) (o : ContentObject) (es : List ContentObject.Edit),
      name.Plain → ContentObject.Created name o → (∀ e ∈ es, e.Plain) →
        ∀ w, (es.foldl ContentObject.edit o).toWire none now = .ok w →
          w.ReadsBack ContentObject.ofMessage (·.ReadFrom (es.foldl ContentObject.edit o))) ∧
    ∀ (name : Option Name) (payload : Json), (∀ n ∈ name, n.Plain) →
      ∀ w, (Control.create name payload).toWire now = .ok w →
        w.ReadsBack Control.ofMessage (·.Same (.create name payload)) := by
  refine ⟨fun name i es hname hi hes => ?_, fun name o es hname ho hes w hok => ?_,
    fun name payload hname w hok => Control.reads_back hname payload hok⟩
  · obtain ⟨j, hj, hsound⟩ := (Interest.Sound.created hname hi).edits hes
    exact ⟨j, hj, fun w hok => hsound.reads_back hok,
      fun code w hok => InterestReturn.reads_back hsound code hok⟩
  · exact ((ContentObject.Sound.created hname ho).edits hes).reads_back hok

/-! An Interest with an identifier in its name, the same on its way back, a signed content object
with a link to the key, and a control message. -/

namespace Sample

def name : Name := ⟨[Segment.ofType .name [0x61]]⟩

/-- The default lifetime, which is written once it has been set, and an empty payload. -/
def requestEdits : List Interest.Edit :=
  [.lifetime defaultLifetime, .payloadWithId [] (.create [0x07] PayloadId.nonceType), .hopLimit 3]

/-- Another type and payload, and a signature with a link to the key. -/
def objectEdits : List ContentObject.Edit :=
  [.payload .key [0x05],
    .signature .rsaSha256 [0x0A] [0x0B] (some (.link { name, keyId := some [0x0C] }))]

theorem plain_name : name.Plain := by
  intro s hs
  rw [List.mem_singleton.mp hs]
  rfl

theorem plain_requestEdits : ∀ e ∈ requestEdits, e.Plain := by
  intro e he
  simp only [requestEdits, List.mem_cons, List.not_mem_nil, or_false] at he
  rcases he with rfl | rfl | rfl
  · trivial
  · rfl
  · trivial

theorem plain_objectEdits : ∀ e ∈ objectEdits, e.Plain := by
  intro e he
  simp only [objectEdits, List.mem_cons, List.not_mem_nil, or_false] at he
  rcases he with rfl | rfl
  · trivial
  · intro locator hlocator
    obtain rfl := Option.some.inj hlocator
    exact plain_name

end Sample

theorem toWire_reads_back_sample :
    Sample.name.Plain ∧ (∀ e ∈ Sample.requestEdits, e.Plain) ∧ (∀ e ∈ Sample.objectEdits, e.Plain) ∧
      (∃ j w w', Sample.requestEdits.foldlM Interest.edit (.simple Sample.name) = .ok j ∧
        j.toWire none 7 = .ok w ∧ w.ReadsBack Interest.ofMessage (·.Same j) ∧
          (InterestReturn.create j .noRoute).toWire none 7 = .ok w' ∧
            w'.ReadsBack InterestReturn.ofMessage fun r => r.Same (.create j .noRoute) ∧
              r.code = .ok .noRoute ∧ r.interest.Same j) ∧
      (∃ o w, Sample.objectEdits.foldl ContentObject.edit (.create Sample.name .data) = o ∧
        ¬ o.Untold ∧ o.toWire none 7 = .ok w ∧ w.ReadsBack ContentObject.ofMessage (·.ReadFrom o)) ∧
        ∃ w, (Control.create Sample.name Json.null).toWire 7 = .ok w ∧
          w.ReadsBack Control.ofMessage (·.Same (.create Sample.name .null)) := by
  obtain ⟨hrequest, hobject, hcontrol⟩ := toWire_reads_back 7
  obtain ⟨j, hj, hread, hreturned⟩ :=
    hrequest Sample.name _ Sample.requestEdits Sample.plain_name .simple Sample.plain_requestEdits
  obtain ⟨w, hw⟩ : ∃ w, (Sample.requestEdits.foldlM Interest.edit (.simple Sample.name) >>=
      fun j => j.toWire none 7) = .ok w := ⟨_, rfl⟩
  obtain ⟨w', hw'⟩ : ∃ w, (Sample.requestEdits.foldlM Interest.edit (.simple Sample.name) >>=
      fun j => (InterestReturn.create j .noRoute).toWire none 7) = .ok w := ⟨_, rfl⟩
  rw [hj] at hw hw'
  have hwritten : j.toWire none 7 = .ok w := hw
  have hwritten' : (InterestReturn.create j .noRoute).toWire none 7 = .ok w' := hw'
  obtain ⟨v, hv⟩ : ∃ w, (Sample.objectEdits.foldl ContentObject.edit
      (.create Sample.name .data)).toWire none 7 = .ok w := ⟨_, rfl⟩
  obtain ⟨u, hu⟩ : ∃ w, (Control.create Sample.name Json.null).toWire 7 = .ok w := ⟨_, rfl⟩
  refine ⟨Sample.plain_name, Sample.plain_requestEdits, Sample.plain_objectEdits,
    ⟨j, w, w', hj, hwritten, hread w hwritten, hwritten', hreturned _ w' hwritten'⟩,
    ⟨_, v, rfl, by decide, hv, ?_⟩, u, hu, ?_⟩
  · exact hobject _ _ _ Sample.plain_name (.create .data) Sample.plain_objectEdits v hv
  · exact hcontrol _ _ (fun n hn => Option.some.inj hn ▸ Sample.plain_name) u hu

end Message

end NamedContent
