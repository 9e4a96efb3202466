import NamedContent.Proofs.Cursors
import NamedContent.Proofs.Encoding
import NamedContent.Proofs.ManifestWire

/-!
# Elements within elements

What is written for a name, a link, the parts of a packet or a section of a manifest is a sequence
of elements, and the values of some of them are sequences again. `Nesting` is such a sequence, down
to the values that are none, and `Cursor.Walks` is the way in which a cursor reads it, level by
level, with nothing left over at the end of any.

* `Nesting.bytes_eq`, `Nesting.fits_iff`: the outermost elements tell bytes, and whether they fit.
* `Nesting.walks_of_rest`: a cursor reads a nesting where its bytes stand.
* `Emit.Nests`: what was written is a nesting, of which the number of bytes was told.
-/

namespace NamedContent

/-- Elements in a row, each with plain bytes as its value or with elements again. -/
inductive Nesting
  | nil
  | leaf (t : Tlv) (rest : Nesting)
  | container (type : UInt16) (inner rest : Nesting)

namespace Nesting

/-- The bytes of all elements in a row. -/
def bytes : Nesting → Bytes
  | nil => []
  | leaf t rest => t.toBytes ++ rest.bytes
  | container type inner rest => Tlv.toBytes ⟨type, inner.bytes⟩ ++ rest.bytes

/-- The outermost elements. -/
def elements : Nesting → List Tlv
  | nil => []
  | leaf t rest => t :: rest.elements
  | container type inner rest => ⟨type, inner.bytes⟩ :: rest.elements

/-- At each level two bytes can announce the lengths of the values. -/
def Fits : Nesting → Prop
  | nil => True
  | leaf t rest => t.Fits ∧ rest.Fits
  | container type inner rest => Tlv.Fits ⟨type, inner.bytes⟩ ∧ inner.Fits ∧ rest.Fits

/-- One row behind another. -/
def append : Nesting → Nesting → Nesting
  | nil, other => other
  | leaf t rest, other => leaf t (rest.append other)
  | container type inner rest, other => container type inner (rest.append other)

instance : Append Nesting := ⟨append⟩

/-- Elements of which no value is a sequence. -/
def ofElements (ts : List Tlv) : Nesting := ts.foldr leaf nil

/-- Rows one behind the other. -/
def join (ns : List Nesting) : Nesting := ns.foldr append nil

variable {n : Nesting} {ts : List Tlv}

@[simp] theorem elements_append (n other : Nesting) :
    (n ++ other).elements = n.elements ++ other.elements := by
  show (n.append other).elements = _
  induction n with
  | nil => rfl
  | leaf t rest ih => exact congrArg (t :: ·) ih
  | container type inner rest _ ih => exact congrArg (_ :: ·) ih

@[simp] theorem elements_ofElements (ts : List Tlv) : (ofElements ts).elements = ts := by
  induction ts with
  | nil => rfl
  | cons t ts ih => exact congrArg (t :: ·) ih

@[simp] theorem elements_join (ns : List Nesting) : (join ns).elements = ns.flatMap elements := by
  induction ns with
  | nil => rfl
  | cons n ns ih => exact (elements_append n (join ns)).trans (congrArg _ ih)

/-- Containers one behind the other. -/
theorem elements_join_map {δ : Type} {f : δ → Nesting} {tlv : δ → Tlv}
    (h : ∀ d, (f d).elements = [tlv d]) (ds : List δ) :
    (join (ds.map f)).elements = ds.map tlv := by
  rw [elements_join, List.flatMap_map, funext h]
  exact List.map_eq_flatMap.symm

theorem bytes_eq (n : Nesting) : n.bytes = Tlv.concat n.elements := by
  induction n with
  | nil => rfl
  | leaf t rest ih => exact congrArg _ ih
  | container type inner rest _ ih => exact congrArg _ ih

@[simp] theorem bytes_ofElements (ts : List Tlv) : (ofElements ts).bytes = Tlv.concat ts := by
  rw [bytes_eq, elements_ofElements]

/-- Where the outermost elements fit, so do all: what is within an element is shorter than it. -/
theorem fits_iff : n.Fits ↔ ∀ t ∈ n.elements, t.Fits := by
  induction n with
  | nil => exact iff_of_true trivial nofun
  | leaf t rest ih => rw [Fits, ih, elements, List.forall_mem_cons]
  | container type inner rest ihinner ih =>
    rw [Fits, ih, elements, List.forall_mem_cons]
    constructor
    · rintro ⟨houter, -, hrest⟩
      exact ⟨houter, hrest⟩
    · rintro ⟨houter, hrest⟩
      have hinner : (Tlv.concat inner.elements).length ≤ maxLength := by
        rwa [← bytes_eq]
      exact ⟨houter, ihinner.mpr (Tlv.fits_of_mem hinner), hrest⟩

end Nesting

/-! ## Reading -/

namespace Cursor

/-- A cursor reads elements in a row: the header of each and then its value, and the elements of a
container with a cursor of their own, up to its end. -/
inductive Walks : Nesting → Cursor → Cursor → Prop
  | nil {c : Cursor} : Walks .nil c c
  | leaf {t : Tlv} {rest : Nesting} {c inside behind c' : Cursor} :
      c.header = (.ok (t.type, t.value.length), inside) →
      inside.take t.value.length = (.ok t.value, behind) → Walks rest behind c' →
      Walks (.leaf t rest) c c'
  | container {type : UInt16} {length : Nat} {inner rest : Nesting}
      {c inside behind c' content content' : Cursor} :
      c.header = (.ok (type, length), inside) →
      inside.container length = (.ok content, behind) → Walks inner content content' →
      content'.atEnd = true → Walks rest behind c' → Walks (.container type inner rest) c c'

variable {c : Cursor}

theorem Over.nil (c : Cursor) : c.Over [] c :=
  ⟨rfl, rfl, rfl, Bytes.slice_eq_nil_of_le (Nat.le_refl _) _⟩

theorem atEnd_of_rest (h : c.rest = []) : c.atEnd = true := by
  rw [atEnd, ← length_rest, h]
  rfl

end Cursor

/-- A cursor reads a nesting where its bytes stand, and goes over nothing else. -/
theorem Nesting.walks_of_rest {n : Nesting} {c : Cursor} {behind : Bytes} (hfits : n.Fits)
    (h : c.rest = n.bytes ++ behind) :
    ∃ c', c.Walks n c' ∧ c.Over n.bytes c' ∧ c'.rest = behind := by
  induction n generalizing c behind with
  | nil => exact ⟨c, .nil, .nil c, h⟩
  | leaf t rest ih =>
    obtain ⟨ht, hrest⟩ := hfits
    rw [bytes, List.append_assoc] at h
    obtain ⟨inside, next, hheader, htake, hover, hnext⟩ := Cursor.header_take_of_rest ht h
    obtain ⟨c', hwalks, hover', hbehind⟩ := ih hrest hnext
    exact ⟨c', .leaf hheader htake hwalks, hover.trans hover', hbehind⟩
  | container type inner rest ihinner ih =>
    obtain ⟨houter, hinner, hrest⟩ := hfits
    rw [bytes, List.append_assoc] at h
    obtain ⟨inside, next, hheader, htake, hover, hnext⟩ := Cursor.header_take_of_rest houter h
    have hcontainer : inside.container inner.bytes.length = (.ok (.start inner.bytes), next) := by
      rw [Cursor.container, htake]
      rfl
    -- The content is read by a cursor of its own, which has nothing in front of it at the end.
    have hall : (Cursor.start inner.bytes).rest = inner.bytes ++ [] := (List.append_nil _).symm
    obtain ⟨content', hcontent, -, hend⟩ := ihinner hinner hall
    obtain ⟨c', hwalks, hover', hbehind⟩ := ih hrest hnext
    exact ⟨c', .container hheader hcontainer hcontent (Cursor.atEnd_of_rest hend) hwalks,
      hover.trans hover', hbehind⟩

/-! ## Writing -/

/-- What was written is a nesting that fits at each level, and the number of its bytes was told. -/
def Emit.Nests (m : Emit Nat) (n : Nesting) : Prop :=
  ∀ k, m.result = .ok k → m.Wrote n.bytes ∧ n.Fits

theorem Emit.Yields.nests {m : Emit Nat} {n : Nesting} {p : Prop} {b : Bytes} (h : m.Writes p b)
    (hb : n.bytes = b) (hfits : p → ∀ t ∈ n.elements, t.Fits) : m.Nests n := by
  intro k hk
  rw [hb]
  exact ⟨h.wrote_of_result hk, Nesting.fits_iff.mpr (hfits (h.ok_of hk))⟩

/-- What is written as a list of elements is a nesting of which these are the outermost ones. -/
theorem Emit.Yields.nests_concat {m : Emit Nat} {n : Nesting} {p : Prop} {ts : List Tlv}
    (h : m.Writes p (Tlv.concat ts)) (hn : n.elements = ts) (hfits : p → ∀ t ∈ ts, t.Fits) :
    m.Nests n :=
  h.nests (by rw [n.bytes_eq, hn]) (by rwa [hn])

/-- What is written as one element is a nesting of nothing else. -/
theorem Emit.Yields.nests_toBytes {m : Emit Nat} {n : Nesting} {p : Prop} {t : Tlv}
    (h : m.Writes p t.toBytes) (hn : n.elements = [t]) (hfits : p → t.Fits) : m.Nests n := by
  refine h.nests (by rw [n.bytes_eq, hn, Tlv.concat_cons, Tlv.concat_nil, List.append_nil]) ?_
  rwa [hn, List.forall_mem_singleton]

theorem Emit.nests_done : (done 0).Nests .nil := writes_done.nests rfl fun _ => nofun

namespace Name

/-- A name: its segments in an element of the given type. -/
def nesting (type : UInt16) (name : Name) : Nesting :=
  .container type (.ofElements name.elements) .nil

theorem elements_nesting (type : UInt16) (name : Name) :
    (name.nesting type).elements = [⟨type, name.wire⟩] := by
  rw [nesting, Nesting.elements, Nesting.bytes_ofElements]
  rfl

theorem nests_emit (type : UInt16) (name : Name) : (name.emit type).Nests (name.nesting type) :=
  (name.writes_emit type).nests_toBytes (name.elements_nesting type) id

end Name

namespace Link

/-- A link: its name, unless it is empty, and the restrictions that it has. -/
def nesting (link : Link) : Nesting :=
  (if link.name.segments.isEmpty then .nil else link.name.nesting nameType) ++
    .ofElements ((link.keyId.map (Tlv.mk keyIdType)).toList ++
      (link.contentHash.map (Tlv.mk contentHashType)).toList)

theorem elements_nesting (link : Link) : link.nesting.elements = link.elements := by
  rw [nesting, elements, Nesting.elements_append, Nesting.elements_ofElements, List.append_assoc]
  split
  · rfl
  · rw [Name.elements_nesting]

theorem bytes_nesting (link : Link) : link.nesting.bytes = link.wire := by
  rw [Nesting.bytes_eq, elements_nesting, wire]

theorem nests_emit (link : Link) : link.emit.Nests link.nesting :=
  link.writes_emit.nests_concat link.elements_nesting id

end Link

namespace Slot

/-- The field of a slot: a name or a link is a sequence again, all else are plain bytes. -/
def nesting (slot : Slot) (m : Message) : Nesting :=
  match slot.form with
  | .name _ => ((m.name? slot.field).map (Name.nesting slot.type)).getD .nil
  | .link =>
    ((m.keyLink?.filter fun link => !link.isEmpty).map fun link =>
      .container slot.type link.nesting .nil).getD .nil
  | _ => .ofElements (slot.element? m).toList

theorem elements_nesting (slot : Slot) (m : Message) :
    (slot.nesting m).elements = (slot.element? m).toList := by
  obtain ⟨field, type, form⟩ := slot
  cases form with
  | name required =>
    have hlink : Form.name required ≠ .link := nofun
    simp only [nesting, element?, content?, if_neg hlink, Message.name?]
    split
    · next name hname =>
      rw [hname]
      exact name.elements_nesting type
    · next hother =>
      cases hfield : m.fields field with
      | none => rfl
      | some v =>
        cases v with
        | name name => exact absurd hfield (hother name)
        | _ => rfl
  | link =>
    simp only [nesting, element?, content?, if_true]
    cases m.keyLink?.filter fun link => !link.isEmpty with
    | none => rfl
    | some link => exact congrArg (fun b => [Tlv.mk type b]) link.bytes_nesting
  | _ => exact Nesting.elements_ofElements _

end Slot

namespace Message

/-- A zone: its slots, and behind them its other elements. -/
def nesting (m : Message) (zone : Zone) : Nesting :=
  .join ((slots m.kind zone).map fun slot => slot.nesting m) ++ .ofElements (m.extras zone)

theorem elements_nesting (m : Message) (zone : Zone) :
    (m.nesting zone).elements = m.elements zone := by
  have hslots : ∀ table : List Slot,
      (table.map fun slot => slot.nesting m).flatMap Nesting.elements =
        table.filterMap fun slot => slot.element? m := by
    intro table
    rw [List.flatMap_map, List.filterMap_eq_flatMap_toList]
    exact congrArg (table.flatMap ·) (funext fun slot => slot.elements_nesting m)
  rw [nesting, elements, Nesting.elements_append, Nesting.elements_join,
    Nesting.elements_ofElements, hslots]

theorem nests_emitZone (m : Message) (zone : Zone) : (m.emitZone zone).Nests (m.nesting zone) :=
  (writes_emitZone m zone).nests_concat (m.elements_nesting zone) And.right

end Message

namespace Packet

/-- The message element: the body of the message. -/
def messageNesting (m : Message) : Nesting := .container m.kind.elementType (m.nesting .body) .nil

theorem nests_emitMessage (m : Message) : (emitMessage m).Nests (messageNesting m) := by
  refine (writes_emitMessage m).nests_toBytes ?_ And.right
  rw [messageNesting, Nesting.elements, Nesting.bytes_eq, Message.elements_nesting]
  rfl

end Packet

namespace Validation

/-- The validation algorithm: in its element the suite, and in it the fields that a suite has. -/
def algorithmNesting (m : Message) (signer : Option Signer) (config : Config) (now : UInt64) :
    Nesting :=
  match suiteCode? m signer with
  | .ok (some suite) =>
    .container Part.algorithmType
      (.container suite ((withAlgorithm m suite signer config now).nesting .suite) .nil) .nil
  | _ => .nil

theorem nests_algorithm (m : Message) (signer : Option Signer) (config : Config) (now : UInt64) :
    (algorithm m signer config now).1.Nests (algorithmNesting m signer config now) := by
  intro k hk
  rcases algorithm_of_result hk with ⟨hcode, heq⟩ | ⟨suite, hcode, heq⟩
  · rw [heq, algorithmNesting, hcode]
    exact Emit.nests_done 0 rfl
  · rw [heq] at hk ⊢
    rw [algorithmNesting, hcode]
    refine (writes_emitSuite _ suite).nests_toBytes ?_ And.right k hk
    simp only [Nesting.elements, Nesting.bytes_eq, Message.elements_nesting, Tlv.concat_cons,
      Tlv.concat_nil, List.append_nil]

/-- The signature: that of the message, or the one that a signer makes of the bytes it covers. -/
def signatureNesting (m : Message) (signer : Option Signer) (covered : Option Bytes) : Nesting :=
  .ofElements ((covered.bind fun covered =>
    (m.bytes? .signature).or (signer.bind fun s => (s.sign covered).toOption)).map
      (Tlv.mk Part.signatureType)).toList

theorem nests_signature (m : Message) (signer : Option Signer) (covered : Option Bytes) :
    (signature m signer covered).1.Nests (signatureNesting m signer covered) := by
  have hemit : ∀ b, (emitSignature b).Nests (.ofElements [⟨Part.signatureType, b⟩]) := fun b =>
    (Emit.writes_element ⟨Part.signatureType, b⟩).nests_toBytes rfl id
  intro k hk
  cases covered with
  | none =>
    rw [(signature_none_of_result hk).2]
    exact Emit.nests_done 0 rfl
  | some covered =>
    rcases signature_cases hk with ⟨b, hb, heq⟩ | ⟨hb, rfl, heq⟩ | ⟨hb, s, b, rfl, hsign, heq⟩
    · rw [heq] at hk ⊢
      simp only [signatureNesting, Option.bind_some, hb, Option.some_or]
      exact hemit b k hk
    · rw [heq]
      simp only [signatureNesting, Option.bind_some, hb, Option.none_or]
      exact Emit.nests_done 0 rfl
    · rw [heq] at hk ⊢
      simp only [signatureNesting, Option.bind_some, hb, Option.none_or, hsign]
      exact hemit b k hk

end Validation

namespace ManifestSection

/-- The link to the rules of access. -/
def accessNesting (link : Link) : Nesting := .container accessType link.nesting .nil

/-- A named chunk: its number and its name. -/
def nameNesting (entry : NameEntry) : Nesting :=
  .container nameEntryType
    (.leaf ⟨chunkType, Bytes.minimal entry.chunk⟩ (entry.name.nesting Link.nameType)) .nil

/-- A digest: its index and its bytes. -/
def hashNesting (entry : HashEntry) : Nesting :=
  .container hashEntryType (.ofElements entry.elements) .nil

/-- A section: the link to the rules of access, the named chunks and the digests. -/
def nesting (type : UInt16) (s : ManifestSection) : Nesting :=
  .container type
    (.join (s.access.toList.map accessNesting) ++ .join (s.names.map nameNesting) ++
      .join (s.hashes.map hashNesting)) .nil

theorem elements_accessNesting (link : Link) :
    (accessNesting link).elements = [accessTlv link] := by
  rw [accessNesting, Nesting.elements, link.bytes_nesting]
  rfl

theorem elements_nameNesting (entry : NameEntry) :
    (nameNesting entry).elements = [entry.toTlv] := by
  have hinner : (Nesting.leaf ⟨chunkType, Bytes.minimal entry.chunk⟩
      (entry.name.nesting Link.nameType)).elements = entry.elements :=
    congrArg _ (entry.name.elements_nesting Link.nameType)
  rw [nameNesting, Nesting.elements, Nesting.bytes_eq, hinner]
  rfl

theorem elements_hashNesting (entry : HashEntry) :
    (hashNesting entry).elements = [entry.toTlv] := by
  rw [hashNesting, Nesting.elements, Nesting.bytes_ofElements]
  rfl

theorem elements_nesting (type : UInt16) (s : ManifestSection) :
    (s.nesting type).elements = [⟨type, s.wire⟩] := by
  have haccess : (Nesting.join (s.access.toList.map accessNesting)).elements =
      (s.access.map accessTlv).toList := by
    rw [Nesting.elements_join_map elements_accessNesting, Option.toList_map]
  rw [nesting, Nesting.elements, Nesting.bytes_eq, Nesting.elements_append,
    Nesting.elements_append, haccess, Nesting.elements_join_map elements_nameNesting,
    Nesting.elements_join_map elements_hashNesting]
  rfl

theorem nests_emit (type : UInt16) (s : ManifestSection) : (s.emit type).Nests (s.nesting type) :=
  (s.writes_emit type).nests_toBytes (s.elements_nesting type) id

end ManifestSection

end NamedContent
