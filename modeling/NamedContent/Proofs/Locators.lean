import NamedContent.Proofs.Objects
import NamedContent.Proofs.Signing

/-!
# The key locators of content objects

A key locator is spread over four fields: that of the key itself and those of the link to one, of
which the key comes first. So what an earlier locator left in another field could stand in the way
of a later one, in the object and in every packet of it.

* `KeyLocator.HeldBy`: the four fields tell one locator, and nothing of another.
* `KeyLocator.HeldBy.decoded`: then it is read from the packet as it was written.
* `ContentObject.follows_edits`: what a run of changes does to the four fields and to the others.
* `ContentObject.edits_locate`: after any run of changes the last locator is there, and no other.
-/

namespace NamedContent

/-! ## Locators in fields -/

namespace KeyLocator

variable {locator : KeyLocator} {m r : Message}

/-- What a field holds that tells where the key is. -/
def held : KeyLocator → Field → Option Value
  | .key k, .publicKey => some (.bytes k)
  | .link target, .keyName => some (.name target.name)
  | .link target, .keyNameKeyId => target.keyId.map .bytes
  | .link target, .keyNameContentHash => target.contentHash.map .bytes
  | _, _ => none

/-- The fields of a message tell where the key is, and nothing of another place. -/
def HeldBy (locator : KeyLocator) (m : Message) : Prop :=
  ∀ f ∈ Message.locatorFields, m.fields f = locator.held f

/-- Something is written for the locator: it is the key, or a link that has some part. -/
def Told : KeyLocator → Prop
  | .key _ => True
  | .link target => target.isEmpty = false

theorem held_restriction (target : Link) {f : Field}
    (hf : f ∈ [Field.keyNameKeyId, .keyNameContentHash]) :
    ∃ o : Option Bytes, (link target).held f = o.map .bytes := by
  simp only [List.mem_cons, List.not_mem_nil, or_false] at hf
  rcases hf with rfl | rfl
  · exact ⟨target.keyId, rfl⟩
  · exact ⟨target.contentHash, rfl⟩

theorem heldBy_withKeyLocator (m : Message) (locator : KeyLocator) :
    locator.HeldBy (ContentObject.withKeyLocator m locator) := by
  intro f hf
  simp only [Message.locatorFields, List.mem_cons, List.not_mem_nil, or_false] at hf
  cases locator with
  | key k => rcases hf with rfl | rfl | rfl | rfl <;> rfl
  | link target =>
    obtain ⟨name, keyId, contentHash⟩ := target
    rcases hf with rfl | rfl | rfl | rfl <;> cases keyId <;> cases contentHash <;> rfl

namespace HeldBy

theorem congr (h : locator.HeldBy m)
    (heq : ∀ f ∈ Message.locatorFields, r.fields f = m.fields f) : locator.HeldBy r :=
  fun f hf => (heq f hf).trans (h f hf)

theorem bytes?_publicKey (h : locator.HeldBy m) : m.bytes? .publicKey = locator.key? := by
  rw [Message.bytes?, h .publicKey (by decide)]
  cases locator with
  | key k => rfl
  | link target => rfl

theorem keyLink? (h : locator.HeldBy m) : m.keyLink? = locator.link? := by
  rw [Message.keyLink?, Message.name?, Message.bytes?, Message.bytes?, h .keyName (by decide),
    h .keyNameKeyId (by decide), h .keyNameContentHash (by decide)]
  cases locator with
  | key k => rfl
  | link target =>
    obtain ⟨name, keyId, contentHash⟩ := target
    cases keyId <;> cases contentHash <;> rfl

/-- A key that is there comes first, but beside a link there is none. -/
theorem keyLocatorOf? (h : locator.HeldBy m) : ContentObject.keyLocatorOf? m = some locator := by
  rw [ContentObject.keyLocatorOf?, h.bytes?_publicKey, h.keyLink?]
  cases locator with
  | key k => rfl
  | link target => rfl

/-! ### In a packet -/

theorem shaped_publicKey (h : locator.HeldBy m) :
    Slot.Shaped ⟨.publicKey, 0x000B, .optional⟩ m := by
  refine ⟨fun v hv => ?_, nofun, nofun⟩
  rw [h .publicKey (by decide)] at hv
  cases locator with
  | key k =>
    cases hv
    trivial
  | link target => cases hv

theorem shaped_keyName (h : locator.HeldBy m) (hplain : locator.Plain) (htold : locator.Told) :
    Slot.Shaped ⟨.keyName, 0x000E, .link⟩ m := by
  have hname := h .keyName (by decide)
  refine ⟨fun v hv => ?_, fun _ f hf v hv => ?_, fun _ link hlink => ?_⟩
  · rw [hname] at hv
    cases locator with
    | key k => cases hv
    | link target =>
      cases hv
      exact hplain
  -- The restrictions of a link come with its name.
  · rw [h f (List.mem_cons_of_mem _ (List.mem_cons_of_mem _ hf))] at hv
    cases locator with
    | key k =>
      simp only [List.mem_cons, List.not_mem_nil, or_false] at hf
      rcases hf with rfl | rfl <;> cases hv
    | link target =>
      obtain ⟨o, ho⟩ := held_restriction target hf
      rw [ho] at hv
      obtain ⟨b, -, rfl⟩ := Option.map_eq_some_iff.mp hv
      exact ⟨by rw [Message.contains, hname]; rfl, b, rfl⟩
  · rw [h.keyLink?] at hlink
    cases locator with
    | key k => cases hlink
    | link target =>
      cases hlink
      exact htold

/-- A locator that something is written for is read as it was written, whoever signed the packet. -/
theorem decoded {signer : Option Signer} {config : Config} {now : UInt64} {e : Packet.Encoded}
    {d : Packet.Decoded} (h : locator.HeldBy m) (hplain : locator.Plain) (htold : locator.Told)
    (hsuite : (m.int? .cryptoSuite).isSome)
    (hextras : ∀ t ∈ m.extras .suite, t.type ∉ knownTypes m.kind .suite)
    (hok : Packet.encode m signer config now = .ok e)
    (hread : Packet.decode e.wire.toBytes = .ok d) : locator.HeldBy d.message := by
  have hpublicKey : ⟨.publicKey, 0x000B, .optional⟩ ∈ slots m.kind .suite :=
    mem_slots_of_key (by decide)
  have hkeyName : ⟨.keyName, 0x000E, .link⟩ ∈ slots m.kind .suite := mem_slots_of_key (by decide)
  have hkey := Packet.fields_of_decode_kept hpublicKey (by decide) (fun _ => hsuite)
    h.shaped_publicKey hextras hok hread
  have hlink := Packet.fields_of_decode_kept hkeyName (by decide) (fun _ => hsuite)
    (h.shaped_keyName hplain htold) hextras hok hread
  refine h.congr fun f hf => ?_
  rcases List.mem_cons.mp hf with rfl | hf
  · exact hkey _ List.mem_cons_self
  · exact hlink f hf

end HeldBy

end KeyLocator

/-! ## Content objects -/

namespace ContentObject

variable {o p q : ContentObject} {locator : KeyLocator} {es : List Edit}

/-- The key locator that a change gives. -/
def Edit.locator? : Edit → Option KeyLocator
  | .keyLocator l => some l
  | .signature _ _ _ l => l
  | _ => none

/-- The fields that a change writes to. -/
def Edit.fields : Edit → List Field
  | .payload _ _ => [.payloadType, .payload]
  | .expiryTime _ => [.expiryTime]
  | .finalChunk _ => [.endChunkNumber]
  | .keyLocator _ => Message.locatorFields
  | .signature _ _ _ none => [.cryptoSuite, .keyId, .signature]
  | .signature _ _ _ (some _) => [.cryptoSuite, .keyId, .signature] ++ Message.locatorFields

/-- The last key locator that is given in a run of changes. -/
def lastLocator? (es : List Edit) : Option KeyLocator := es.reverse.findSome? Edit.locator?

theorem lastLocator?_cons (e : Edit) (es : List Edit) :
    lastLocator? (e :: es) = (lastLocator? es).or e.locator? := by
  simp [lastLocator?, List.findSome?_append]

/-- One object comes from another one by changes that write to some fields. The locator is the last
in them; without one the fields that tell where the key is are as they were. -/
structure Follows (locator : Option KeyLocator) (changed : List Field) (o p : ContentObject) :
    Prop where
  held : ∀ l ∈ locator, l.HeldBy p.message
  kept : locator = none → ∀ f ∈ Message.locatorFields, p.message.fields f = o.message.fields f
  frame : Message.Frame changed o.message p.message

theorem Follows.trans {locator locator' : Option KeyLocator} {changed changed' : List Field}
    (h : Follows locator changed o p) (h' : Follows locator' changed' p q) :
    Follows (locator'.or locator) (changed ++ changed') o q := by
  have hframe := h.frame.append h'.frame
  cases locator' with
  | some l => exact ⟨h'.held, nofun, hframe⟩
  | none =>
    refine ⟨fun l hl => (h.held l hl).congr (h'.kept rfl), fun hnone f hf => ?_, hframe⟩
    exact (h'.kept rfl f hf).trans (h.kept hnone f hf)

/-! ### One change -/

/-- A change that gives no locator leaves the fields of the locator alone. -/
theorem follows_of_frame {changed : List Field}
    (hframe : Message.Frame changed o.message p.message)
    (hdisjoint : ∀ f ∈ Message.locatorFields, f ∉ changed) : Follows none changed o p :=
  ⟨nofun, fun _ f hf => hframe.fields f (hdisjoint f hf), hframe⟩

theorem follows_setKeyLocator (o : ContentObject) (locator : KeyLocator) :
    Follows (some locator) Message.locatorFields o (o.setKeyLocator locator) := by
  refine ⟨fun l hl => ?_, nofun, frame_withKeyLocator o.message locator⟩
  cases hl
  exact KeyLocator.heldBy_withKeyLocator o.message locator

theorem follows_edit (o : ContentObject) (e : Edit) : Follows e.locator? e.fields o (o.edit e) := by
  cases e with
  | payload type payload =>
    show Follows none [.payloadType, .payload] o _
    exact follows_of_frame (.trans (.set _ (by simp) _) (.set _ (by simp) _)) (by decide)
  | expiryTime time =>
    show Follows none [.expiryTime] o _
    exact follows_of_frame (.set _ List.mem_cons_self _) (by decide)
  | finalChunk chunk =>
    show Follows none [.endChunkNumber] o _
    exact follows_of_frame (.set _ List.mem_cons_self _) (by decide)
  | keyLocator l => exact follows_setKeyLocator o l
  | signature suite keyId signature l =>
    have hsigned := follows_of_frame (frame_setSignature o suite keyId signature) (by decide)
    cases l with
    | none => exact hsigned
    | some l => exact hsigned.trans (follows_setKeyLocator _ l)

/-! ### A run of changes -/

theorem follows_edits (o : ContentObject) (es : List Edit) :
    Follows (lastLocator? es) (es.flatMap Edit.fields) o (es.foldl edit o) := by
  -- The rest of the run starts with the object that the first change leaves.
  induction es generalizing o with
  | nil => exact ⟨nofun, fun _ _ _ => rfl, .refl _ _⟩
  | cons e es ih =>
    rw [lastLocator?_cons, List.flatMap_cons, List.foldl_cons]
    exact (follows_edit o e).trans (ih (o.edit e))

/-- The ways to come by a content object: it was made, or read from a packet. -/
inductive Obtained : ContentObject → Prop
  | created {name : Name} {o : ContentObject} : Created name o → Obtained o
  | read {b : Bytes} {d : Packet.Decoded} {o : ContentObject} : Packet.decode b = .ok d →
      ofMessage d.message = .ok o → Obtained o

/-- What stands beside the fields of the validation has no field of its own. -/
theorem Obtained.not_mem_knownTypes (h : Obtained o) :
    ∀ t ∈ o.message.extras .suite, t.type ∉ knownTypes .contentObject .suite := by
  cases h with
  | created h =>
    intro t ht
    cases h with
    | create type => cases ht
    | createWithPayload payload => cases ht
  | @read b d _ hd ho =>
    obtain ⟨layout, -, behind, -, rfl⟩ := Packet.exists_layout_of_decode hd
    have hunknown := (Layout.carries_message layout).not_mem_knownTypes .suite
    unfold ofMessage at ho
    split at ho
    · next hkind =>
      cases ho
      rwa [hkind] at hunknown
    · cases ho

/-- After a run of changes the last locator is told by the object, with nothing of an earlier one,
and by every packet of the object that tells a locator at all. -/
theorem edits_locate (o : ContentObject) (hlast : lastLocator? es = some locator) :
    (es.foldl edit o).keyLocator? = some locator ∧
      (∀ f ∈ Message.locatorFields, (es.foldl edit o).message.fields f = locator.held f) ∧
      Message.Frame (es.flatMap Edit.fields) o.message (es.foldl edit o).message ∧
      (Obtained o → ∀ t ∈ (es.foldl edit o).message.extras .suite,
        t.type ∉ knownTypes .contentObject .suite) ∧
      ∀ signer config now e d, ((es.foldl edit o).message.int? .cryptoSuite).isSome →
        (∀ t ∈ (es.foldl edit o).message.extras .suite,
          t.type ∉ knownTypes .contentObject .suite) →
        locator.Plain → locator.Told →
        Packet.encode (es.foldl edit o).message signer config now = .ok e →
        Packet.decode e.wire.toBytes = .ok d →
        ∃ read, ofMessage d.message = .ok read ∧ read.keyLocator? = some locator := by
  have hfollows := follows_edits o es
  have hheld : locator.HeldBy (es.foldl edit o).message := hfollows.held locator hlast
  refine ⟨hheld.keyLocatorOf?, hheld, hfollows.frame, fun hobtained => ?_, ?_⟩
  · rw [hfollows.frame.extras]
    exact hobtained.not_mem_knownTypes
  · intro signer config now e d hsuite hextras hplain htold hok hread
    have hkind := (es.foldl edit o).kind_eq
    have hdecoded := hheld.decoded hplain htold hsuite (hkind ▸ hextras) hok hread
    exact ⟨⟨d.message, (Packet.kind_of_decode hok hread).trans hkind⟩, dif_pos _,
      hdecoded.keyLocatorOf?⟩

/-! An object that tells two places of the key at once, to which another key is given and then a
signature with a link. -/

namespace Sample

def ambiguous : ContentObject :=
  ⟨(((messageOf ⟨[.ofType .name [0x61]]⟩ .data none).set .publicKey (.bytes [1])).set .keyName
    (.name ⟨[.ofType .name [0x62]]⟩)).set .keyNameKeyId (.bytes [2]), rfl⟩

def target : KeyLocator := .link ⟨⟨[.ofType .name [0x63]]⟩, none, some [3]⟩

def moves : List Edit :=
  [.keyLocator (.key [4]), .payload .data [5], .signature .crc32c [6] [7] (some target),
    .expiryTime 8]

def moved : ContentObject := moves.foldl edit ambiguous

end Sample

theorem edits_locate_sample :
    (lastLocator? Sample.moves = some Sample.target ∧ Sample.target.Plain ∧ Sample.target.Told ∧
      Sample.ambiguous.keyLocator? = some (.key [1]) ∧
      Sample.moved.keyLocator? = some Sample.target ∧
      ∃ e d read, Packet.encode Sample.moved.message none {} 0 = .ok e ∧
        Packet.decode e.wire.toBytes = .ok d ∧ ofMessage d.message = .ok read ∧
        read.keyLocator? = some Sample.target) ∧
      ∀ t ∈ (Sample.moves.foldl edit (create {} .data)).message.extras .suite,
        t.type ∉ knownTypes .contentObject .suite := by
  have hlast : lastLocator? Sample.moves = some Sample.target := rfl
  constructor
  · have hplain : Sample.target.Plain := fun s hs => List.mem_singleton.mp hs ▸ rfl
    have htold : Sample.target.Told := rfl
    obtain ⟨hlocator, -, -, -, hdecoded⟩ := edits_locate Sample.ambiguous hlast
    obtain ⟨e, hok, hread⟩ : ∃ e, Packet.encode Sample.moved.message none {} 0 = .ok e ∧
        (Packet.decode e.wire.toBytes).isOk = true := ⟨_, rfl, by decide +kernel⟩
    cases hd : Packet.decode e.wire.toBytes with
    | error fault =>
      rw [hd] at hread
      cases hread
    | ok d =>
      obtain ⟨read, hread, hfound⟩ := hdecoded none {} 0 e d rfl nofun hplain htold hok hd
      exact ⟨hlast, hplain, htold, rfl, hlocator, e, d, read, hok, hd, hread, hfound⟩
  · obtain ⟨-, -, -, hextras, -⟩ := edits_locate (create {} .data) hlast
    exact hextras (.created (.create .data))

end ContentObject

end NamedContent
