import NamedContent.ContentObject
import NamedContent.Proofs.Canonical
import NamedContent.Proofs.Tellable

/-!
# Content objects read back

The crypto suite of a packet is the one place that tells who signed and where the key is. So a
content object that was made and changed by its operations and then written without a signer is read
back with everything but a key locator without a crypto suite, and a link to a key that has no part
(`ContentObject.Sound.reads_back`).

* `ContentObject.Sound.edits`: what every change preserves.
* `ContentObject.told`: what is left of an object in its packet.
-/

namespace NamedContent

/-! ## Key locators -/

namespace Message

variable {m r : Message}

/-- The fields that tell where the key is. -/
def locatorFields : List Field := [.publicKey, .keyName, .keyNameKeyId, .keyNameContentHash]

/-- A message tells at most one place of the key, and no part of a link without its name. -/
structure Located (m : Message) : Prop where
  key : m.contains .publicKey = true → m.fields .keyName = none
  restrictions : m.fields .keyName = none →
    ∀ f ∈ [Field.keyNameKeyId, .keyNameContentHash], m.fields f = none

theorem Located.publicKey_none (h : m.Located) {link : Link} (hlink : m.keyLink? = some link) :
    m.fields .publicKey = none := by
  by_contra hne
  rw [keyLink?, name?, h.key (Option.isSome_iff_ne_none.mpr hne)] at hlink
  cases hlink

theorem Located.frame {changed : List Field} (h : m.Located) (hframe : Frame changed m r)
    (hdisjoint : ∀ f ∈ locatorFields, f ∉ changed) : r.Located := by
  have hname := hframe.fields .keyName (hdisjoint _ (by simp [locatorFields]))
  have hkey := hframe.contains (hdisjoint .publicKey (by simp [locatorFields]))
  constructor
  · rw [hkey, hname]
    exact h.key
  · intro hnone f hf
    have hmem : f ∈ locatorFields := List.mem_cons_of_mem _ (List.mem_cons_of_mem _ hf)
    rw [hname] at hnone
    rw [hframe.fields f (hdisjoint f hmem)]
    exact h.restrictions hnone f hf

end Message

/-- No label in the link to a key has a parameter. -/
def KeyLocator.Plain : KeyLocator → Prop
  | .key _ => True
  | .link target => target.name.Plain

namespace ContentObject

variable {m : Message}

theorem frame_withoutKeyLocator (m : Message) :
    Message.Frame Message.locatorFields m (withoutKeyLocator m) := by
  refine .trans (.trans (.trans (.erase m ?_) (.erase _ ?_)) (.erase _ ?_)) (.erase _ ?_)
  all_goals simp [Message.locatorFields]

theorem fields_withoutKeyLocator (m : Message) :
    ∀ f ∈ Message.locatorFields, (withoutKeyLocator m).fields f = none := by
  intro f hf
  simp only [Message.locatorFields, List.mem_cons, List.not_mem_nil, or_false] at hf
  rcases hf with rfl | rfl | rfl | rfl <;> rfl

theorem keyLink_withoutKeyLocator (m : Message) : (withoutKeyLocator m).keyLink? = none := rfl

theorem frame_withKeyLocator (m : Message) (locator : KeyLocator) :
    Message.Frame Message.locatorFields m (withKeyLocator m locator) := by
  have hwithout := frame_withoutKeyLocator m
  cases locator with
  | key key => exact hwithout.trans (.set _ (by simp [Message.locatorFields]) _)
  | link target =>
    refine ((hwithout.trans (.set _ ?_ _)).trans (.setIfSome _ ?_ _)).trans (.setIfSome _ ?_ _)
    all_goals simp [Message.locatorFields]

theorem located_withKeyLocator (m : Message) (locator : KeyLocator) :
    (withKeyLocator m locator).Located := by
  cases locator with
  | key key =>
    refine ⟨fun _ => rfl, fun _ f hf => ?_⟩
    simp only [List.mem_cons, List.not_mem_nil, or_false] at hf
    rcases hf with rfl | rfl <;> rfl
  | link target =>
    obtain ⟨name, keyId, contentHash⟩ := target
    have hfields : (withKeyLocator m (.link ⟨name, keyId, contentHash⟩)).fields .publicKey = none ∧
        (withKeyLocator m (.link ⟨name, keyId, contentHash⟩)).fields .keyName =
          some (.name name) := by
      cases keyId <;> cases contentHash <;> exact ⟨rfl, rfl⟩
    obtain ⟨hkey, hname⟩ := hfields
    refine ⟨fun hcontains => ?_, fun hnone => ?_⟩
    · rw [Message.contains, hkey] at hcontains
      cases hcontains
    · rw [hname] at hnone
      cases hnone

theorem tellable_withoutKeyLocator (h : m.Tellable) : (withoutKeyLocator m).Tellable :=
  (((h.erase _).erase _).erase _).erase _

theorem tellable_withKeyLocator (h : m.Tellable) {locator : KeyLocator} (hplain : locator.Plain) :
    (withKeyLocator m locator).Tellable := by
  have hwithout := tellable_withoutKeyLocator h
  cases locator with
  | key key =>
    exact hwithout.set
      ⟨.suite, ⟨.publicKey, 0x000B, .optional⟩, mem_slots_of_key (by decide), rfl, trivial⟩
  | link target =>
    have hname : Field.keyName.Holds (withoutKeyLocator m).kind (.name target.name) :=
      ⟨.suite, ⟨.keyName, 0x000E, .link⟩, mem_slots_of_key (by decide), rfl, hplain⟩
    have hbytes : ∀ {kind : MessageKind} {f : Field},
        f ∈ [Field.keyNameKeyId, .keyNameContentHash] → ∀ b, f.Holds kind (.bytes b) := by
      intro kind f hf b
      simp only [List.mem_cons, List.not_mem_nil, or_false] at hf
      rcases hf with rfl | rfl <;> exact ⟨b, rfl⟩
    exact ((hwithout.set hname).setIfSome (.map_bytes (hbytes (by simp)) _)).setIfSome
      (.map_bytes (hbytes (by simp)) _)

/-! ## Content objects -/

/-- The ways to make a content object with a name. -/
inductive Created (name : Name) : ContentObject → Prop
  | create (type : PayloadType) : Created name (.create name type)
  | createWithPayload (payload : Bytes) : Created name (.createWithPayload name payload)

/-- A change of a content object. -/
inductive Edit
  | payload (type : PayloadType) (payload : Bytes)
  | expiryTime (time : UInt64)
  | finalChunk (chunk : UInt64)
  | keyLocator (locator : KeyLocator)
  | signature (suite : CryptoSuite) (keyId signature : Bytes) (locator : Option KeyLocator)

/-- No label in the link to a key has a parameter. -/
def Edit.Plain : Edit → Prop
  | .keyLocator locator => locator.Plain
  | .signature _ _ _ locator => ∀ l ∈ locator, l.Plain
  | _ => True

/-- A content object after a change. -/
def edit (o : ContentObject) : Edit → ContentObject
  | .payload type payload => o.setPayload type payload
  | .expiryTime time => o.setExpiryTime time
  | .finalChunk chunk => o.setFinalChunk chunk
  | .keyLocator locator => o.setKeyLocator locator
  | .signature suite keyId signature locator => o.setSignature suite keyId signature locator

/-- A signature alone leaves the key locator as it is. -/
theorem frame_setSignature (o : ContentObject) (suite : CryptoSuite) (keyId signature : Bytes) :
    Message.Frame [.cryptoSuite, .keyId, .signature] o.message
      (o.setSignature suite keyId signature none).message :=
  .trans (.trans (.set _ (by simp) _) (.set _ (by simp) _)) (.set _ (by simp) _)

/-! ### What every change preserves -/

/-- A packet can tell each field of the object; the key is in one place, and nothing but this is
told about it without a crypto suite. -/
structure Sound (o : ContentObject) : Prop where
  tellable : o.message.Tellable
  located : o.message.Located
  unsigned : o.cryptoSuite? = none →
    ∀ f ∈ Message.validationFields, f ∉ Message.locatorFields → o.message.fields f = none

theorem holds_payloadType (type : PayloadType) :
    Field.payloadType.Holds .contentObject (.int type.code.toUInt64) :=
  ⟨.body, ⟨.payloadType, 0x0005, .octet⟩, by decide, rfl, Layout.toNat_byte_le type.code⟩

namespace Sound

variable {o : ContentObject} {name : Name}

theorem cryptoSuite_congr {o' : ContentObject}
    (h : o'.message.int? .cryptoSuite = o.message.int? .cryptoSuite) :
    o'.cryptoSuite? = o.cryptoSuite? := by
  rw [cryptoSuite?, cryptoSuite?, h]

/-- To set a field that the packet has a place for, in front of the validation. -/
theorem set (h : o.Sound) {f : Field} {v : Value} (hf : f ∉ Message.validationFields)
    (hv : f.Holds .contentObject v) : Sound ⟨o.message.set f v, o.kind_eq⟩ := by
  have hframe : Message.Frame [f] o.message (o.message.set f v) := .set _ List.mem_cons_self v
  have hne : ∀ g ∈ Message.validationFields, g ∉ [f] := by
    intro g hg hmem
    exact hf (List.mem_singleton.mp hmem ▸ hg)
  have hsub : Message.locatorFields ⊆ Message.validationFields := by
    simp [Message.locatorFields, Message.validationFields]
  refine ⟨h.tellable.set (o.kind_eq ▸ hv), h.located.frame hframe fun g hg => hne g (hsub hg), ?_⟩
  intro hnone g hg hlocator
  rw [cryptoSuite_congr (hframe.int? (hne _ List.mem_cons_self))] at hnone
  rw [hframe.fields g (hne g hg)]
  exact h.unsigned hnone g hg hlocator

theorem setPayload (h : o.Sound) (type : PayloadType) (payload : Bytes) :
    (o.setPayload type payload).Sound :=
  (h.set (by decide) (holds_payloadType type)).set (by decide)
    (Field.holds_payload (by nofun) payload)

theorem setKeyLocator (h : o.Sound) {locator : KeyLocator} (hplain : locator.Plain) :
    (o.setKeyLocator locator).Sound := by
  have hframe := frame_withKeyLocator o.message locator
  refine ⟨tellable_withKeyLocator h.tellable hplain, located_withKeyLocator _ _, ?_⟩
  intro hnone f hf hlocator
  have hsame : (o.setKeyLocator locator).cryptoSuite? = o.cryptoSuite? :=
    cryptoSuite_congr (hframe.int? (by simp [Message.locatorFields]))
  rw [hsame] at hnone
  exact (hframe.fields f hlocator).trans (h.unsigned hnone f hf hlocator)

/-- A signature comes with its crypto suite. -/
theorem setSignature (h : o.Sound) (suite : CryptoSuite) (keyId signature : Bytes)
    {locator : Option KeyLocator} (hplain : ∀ l ∈ locator, l.Plain) :
    (o.setSignature suite keyId signature locator).Sound := by
  have hsigned : (o.setSignature suite keyId signature none).Sound := by
    have hkeyId : ∀ kind, Field.keyId.Holds kind (.bytes keyId) := fun kind =>
      ⟨.suite, ⟨.keyId, 0x0009, .optional⟩, mem_slots_of_key (by decide), rfl, trivial⟩
    have hframe := frame_setSignature o suite keyId signature
    refine ⟨?_, h.located.frame hframe (by simp [Message.locatorFields]), fun hnone => ?_⟩
    · exact ((h.tellable.set (f := .cryptoSuite) ⟨suite.code, rfl⟩).set (hkeyId _)).set
        (f := .signature) ⟨signature, rfl⟩
    · have hsuite : (o.setSignature suite keyId signature none).cryptoSuite? = some suite := by
        cases suite <;> rfl
      rw [hsuite] at hnone
      cases hnone
  cases locator with
  | none => exact hsigned
  | some locator => exact hsigned.setKeyLocator (hplain locator rfl)

theorem edit (h : o.Sound) {e : Edit} (he : e.Plain) : (o.edit e).Sound := by
  cases e with
  | payload type payload => exact h.setPayload type payload
  | expiryTime time =>
    exact h.set (by decide) ⟨.body, ⟨.expiryTime, 0x0006, .number⟩, by decide, rfl, trivial⟩
  | finalChunk chunk =>
    exact h.set (by decide) ⟨.body, ⟨.endChunkNumber, 0x0019, .number⟩, by decide, rfl, trivial⟩
  | keyLocator locator => exact h.setKeyLocator he
  | signature suite keyId signature locator => exact h.setSignature suite keyId signature he

theorem messageOf (h : name.Plain) (type : PayloadType) (payload : Option Bytes) :
    Sound ⟨messageOf name type payload, kind_messageOf ..⟩ := by
  have hframe : Message.Frame [.name, .payloadType, .payload] (.empty .contentObject)
      (ContentObject.messageOf name type payload) :=
    .trans (.trans (.set _ (by simp) _) (.set _ (by simp) _)) (.setIfSome _ (by simp) _)
  refine ⟨?_, ?_, fun _ f hf _ => ?_⟩
  · exact (((Message.Tellable.empty .contentObject).set (Field.holds_name h)).set
      (holds_payloadType type)).setIfSome
        (.map_bytes (Field.holds_payload (by nofun)) payload)
  · exact Message.Located.frame ⟨fun _ => rfl, fun _ _ _ => rfl⟩ hframe
      (by simp [Message.locatorFields])
  · have hdisjoint : ∀ f ∈ Message.validationFields, f ∉ [Field.name, .payloadType, .payload] := by
      decide
    exact hframe.fields f (hdisjoint f hf)

theorem created (hname : name.Plain) (h : Created name o) : o.Sound := by
  cases h with
  | create type => exact .messageOf hname type none
  | createWithPayload payload => exact .messageOf hname .data (some payload)

theorem edits (h : o.Sound) {es : List Edit} (hes : ∀ e ∈ es, e.Plain) :
    (es.foldl ContentObject.edit o).Sound := by
  induction es generalizing o with
  | nil => exact h
  | cons e es ih =>
    obtain ⟨he, hes⟩ := List.forall_mem_cons.mp hes
    exact ih (h.edit he) hes

end Sound

/-! ### What the packet tells -/

variable {o : ContentObject}

/-- The packet of an object does not tell where the key is: it has no suite to tell it in, or the
locator is a link that has no part. -/
def Untold (o : ContentObject) : Prop :=
  o.cryptoSuite? = none ∨ o.keyLocator? = some (.link {})

instance (o : ContentObject) : Decidable o.Untold := inferInstanceAs (Decidable (_ ∨ _))

/-- What is left of an object in its packet. -/
def told (o : ContentObject) : Message :=
  if o.Untold then withoutKeyLocator o.message else o.message

theorem frame_told (o : ContentObject) : Message.Frame Message.locatorFields o.message o.told := by
  unfold told
  split
  · exact frame_withoutKeyLocator o.message
  · exact .refl _ _

/-- A link without any part is the one locator that nothing is written for. -/
theorem Sound.untold_of_isEmpty (h : o.Sound) {link : Link} (hlink : o.message.keyLink? = some link)
    (hempty : link.isEmpty = true) : o.keyLocator? = some (.link {}) := by
  have hkey := h.located.publicKey_none hlink
  obtain rfl : link = {} := by
    obtain ⟨⟨segments⟩, keyId, contentHash⟩ := link
    cases segments <;> cases keyId <;> cases contentHash <;> first | rfl | cases hempty
  rw [keyLocator?, keyLocatorOf?, Message.bytes?, hkey, hlink]
  rfl

theorem Sound.tellable_told (h : o.Sound) : o.told.Tellable := by
  unfold told
  split
  · exact tellable_withoutKeyLocator h.tellable
  · exact h.tellable

theorem Sound.shaped_told (h : o.Sound) : o.told.Shaped := by
  have htellable := h.tellable_told
  by_cases huntold : o.Untold
  · have hnone := fields_withoutKeyLocator o.message
    have htold : o.told = withoutKeyLocator o.message := if_pos huntold
    rw [htold] at htellable ⊢
    refine htellable.shaped (fun _ f hf => hnone f ?_) fun link hlink => ?_
    · exact List.mem_cons_of_mem _ (List.mem_cons_of_mem _ hf)
    · rw [keyLink_withoutKeyLocator] at hlink
      cases hlink
  · have htold : o.told = o.message := if_neg huntold
    rw [htold]
    refine h.tellable.shaped h.located.restrictions fun link hlink => ?_
    -- An empty link would have been left out.
    by_contra hempty
    exact huntold (.inr (h.untold_of_isEmpty hlink (by simpa using hempty)))

theorem Sound.unsigned_withoutKeyLocator (h : o.Sound) (hnone : o.cryptoSuite? = none) :
    (withoutKeyLocator o.message).Unsigned := by
  intro f hf
  by_cases hlocator : f ∈ Message.locatorFields
  · exact fields_withoutKeyLocator _ f hlocator
  · rw [(frame_withoutKeyLocator _).fields f hlocator]
    exact h.unsigned hnone f hf hlocator

theorem Sound.settled_told (h : o.Sound) : o.told.Settled := by
  refine h.tellable_told.settled fun hnone => ?_
  rw [(frame_told o).fields .cryptoSuite (by simp [Message.locatorFields])] at hnone
  have hsuite : o.cryptoSuite? = none := by rw [cryptoSuite?, Message.int?, hnone]
  rw [told, if_pos (.inl hsuite)]
  exact h.unsigned_withoutKeyLocator hsuite

/-- Where the key is makes no difference outside of the suite. -/
theorem not_mem_locatorFields {kind : MessageKind} {zone : Zone} {slot : Slot}
    (hzone : zone ≠ .suite) (hs : slot ∈ slots kind zone) :
    ∀ f ∈ slot.fields, f ∉ Message.locatorFields := by
  have table : zone ≠ .suite →
      ∀ s ∈ slots kind zone, ∀ f ∈ s.fields, f ∉ Message.locatorFields := by
    cases kind <;> cases zone <;> decide
  exact table hzone slot hs

/-- The locator that is left out would not have been written in the suite. -/
theorem Sound.elements_suite (h : o.Sound) (hlink : o.keyLocator? = some (.link {})) :
    (withoutKeyLocator o.message).elements .suite = o.message.elements .suite := by
  have hframe := frame_withoutKeyLocator o.message
  have hnone := fields_withoutKeyLocator o.message
  have hempty : o.message.keyLink? = some {} := by
    unfold keyLocator? keyLocatorOf? at hlink
    split at hlink
    · cases hlink
    · obtain ⟨link, hsome, heq⟩ := Option.map_eq_some_iff.mp hlink
      cases heq
      exact hsome
  unfold Message.elements
  rw [hframe.kind, hframe.extras]
  congr 1
  refine List.filterMap_congr fun slot hs => ?_
  rw [Slot.element?, Slot.element?]
  congr 1
  have table : ∀ s ∈ suiteSlots, (∀ f ∈ s.fields, f ∉ Message.locatorFields) ∨
      s = ⟨.publicKey, 0x000B, .optional⟩ ∨ s = ⟨.keyName, 0x000E, .link⟩ := by decide
  -- The key itself is not in the message, and for a link without any part nothing is written.
  rcases table slot hs with hother | rfl | rfl
  · exact Slot.content?_congr (proper_of_mem hs) fun f hf => hframe.fields f (hother f hf)
  · refine Slot.content?_congr (proper_of_mem hs) fun f hf => ?_
    rw [List.mem_singleton.mp hf, h.located.publicKey_none hempty]
    rfl
  · rw [Slot.content?, Slot.content?, if_pos rfl, if_pos rfl, keyLink_withoutKeyLocator, hempty]
    rfl

/-- What is left of an object is written as the same packet. -/
theorem Sound.ofMessage_told (h : o.Sound) :
    Layout.ofMessage o.told = Layout.ofMessage o.message := by
  unfold told
  split
  · next huntold =>
    have hframe := frame_withoutKeyLocator o.message
    have hkind : (withoutKeyLocator o.message).kind = .contentObject := o.kind_eq
    have hsuite : (withoutKeyLocator o.message).int? .cryptoSuite = o.message.int? .cryptoSuite :=
      hframe.int? (by simp [Message.locatorFields])
    have hsignature : (withoutKeyLocator o.message).bytes? .signature =
        o.message.bytes? .signature := hframe.bytes? (by simp [Message.locatorFields])
    have hhop : (withoutKeyLocator o.message).elements .hop = o.message.elements .hop :=
      hframe.elements fun slot => not_mem_locatorFields nofun
    have hbody : (withoutKeyLocator o.message).elements .body = o.message.elements .body :=
      hframe.elements fun slot => not_mem_locatorFields nofun
    have hvalidation : (Layout.ofMessage (withoutKeyLocator o.message)).validation =
        (Layout.ofMessage o.message).validation := by
      simp only [Layout.ofMessage, hsuite, hsignature]
      -- Without a suite there is no validation, and with one the locator is an empty link.
      cases hn : o.message.int? .cryptoSuite with
      | none => rfl
      | some n =>
        rcases huntold with hnone | hlink
        · have hfield := h.unsigned hnone .cryptoSuite List.mem_cons_self
            (by simp [Message.locatorFields])
          rw [Message.int?, hfield] at hn
          cases hn
        · rw [h.elements_suite hlink]
    have hrequest : (withoutKeyLocator o.message).kind.isRequest = false ∧
        o.message.kind.isRequest = false := by
      rw [hkind, o.kind_eq]
      exact ⟨rfl, rfl⟩
    refine Layout.eq_of (hkind.trans o.kind_eq.symm) ?_ ?_ ?_ hhop hbody hvalidation
    · simp only [Layout.ofMessage, hrequest, Bool.false_eq_true, if_false]
    · simp only [Layout.ofMessage, hkind, o.kind_eq, reduceCtorEq, if_false]
    · simp only [Layout.ofMessage, hrequest, Bool.false_eq_true, if_false]
  · rfl

/-! ### There and back -/

/-- Every question about an object that was read has the answer of the object that was written. The
place of the key is told in the crypto suite, and only by a locator that has some part. -/
structure ReadFrom (a b : ContentObject) : Prop where
  name : a.name = b.name
  payload : a.payload? = b.payload?
  payloadType : a.payloadType = b.payloadType
  expiryTime : a.expiryTime? = b.expiryTime?
  finalChunk : a.finalChunk? = b.finalChunk?
  keyId : a.keyId? = b.keyId?
  signature : a.signature? = b.signature?
  cryptoSuite : a.cryptoSuite? = b.cryptoSuite?
  keyLocator : a.keyLocator? = if b.Untold then none else b.keyLocator?

theorem keyLocator_of_frame {a b : ContentObject}
    (h : Message.Frame [.fixedHeader] b.told a.message) :
    a.keyLocator? = if b.Untold then none else b.keyLocator? := by
  have hsame : a.keyLocator? = keyLocatorOf? b.told := by
    rw [keyLocator?, keyLocatorOf?, keyLocatorOf?, h.bytes? (f := .publicKey) (by simp),
      h.keyLink? (by simp)]
  rw [hsame, told]
  split
  · rfl
  · rfl

/-- An object that was read has the fields that were left of the one that was written. -/
theorem readFrom_of_frame {a b : ContentObject}
    (h : Message.Frame [.fixedHeader] b.told a.message) : a.ReadFrom b := by
  have hframe : Message.Frame (.fixedHeader :: Message.locatorFields) b.message a.message :=
    ((frame_told b).mono (by simp)).trans (h.mono (by simp))
  constructor
  · rw [name, name, nameOf, nameOf, hframe.name? (f := .name) (by simp [Message.locatorFields])]
  · exact hframe.content? (by simp [Message.locatorFields])
  · rw [payloadType, payloadType, payloadTypeOf, payloadTypeOf,
      hframe.int? (f := .payloadType) (by simp [Message.locatorFields])]
  · exact hframe.number? (by simp [Message.locatorFields])
  · exact hframe.number? (by simp [Message.locatorFields])
  · exact hframe.bytes? (by simp [Message.locatorFields])
  · exact hframe.bytes? (by simp [Message.locatorFields])
  · exact Sound.cryptoSuite_congr (hframe.int? (by simp [Message.locatorFields]))
  · exact keyLocator_of_frame h

/-- What is written for a sound object is read back as what its packet tells. -/
theorem Sound.reads_back (h : o.Sound) {now : UInt64} {w : WireMessage}
    (hok : o.toWire none now = .ok w) : w.ReadsBack ofMessage (·.ReadFrom o) := by
  have hkind : o.told.kind = .contentObject := (frame_told o).kind.trans o.kind_eq
  have hbody : o.message.Writable .body → o.told.Writable .body := fun hwritable =>
    (frame_told o).writable (fun slot hs => not_mem_locatorFields (by nofun) hs) hwritable
  obtain ⟨form, d, hform, hd, hframe⟩ := Message.exists_decoded hok h.ofMessage_told h.shaped_told
    h.settled_told hbody (Message.headed_of_not_request (by rw [hkind]; rfl))
  have hkind' : d.message.kind = .contentObject := hframe.kind.trans hkind
  exact ⟨form, d, ⟨d.message, hkind'⟩, hform, hd, dif_pos hkind', readFrom_of_frame hframe⟩

end ContentObject

end NamedContent
