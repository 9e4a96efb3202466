import NamedContent.Proofs.Nesting
import NamedContent.Proofs.Patching
import NamedContent.Proofs.Writing

/-!
# Parts step by step

Names, links, the parts of a packet and the sections of a manifest are written in steps, in which
the length of every container is filled in once its content is written. Each writer does what the
emission of the same part does, and what it appends is a nesting of whole elements.

* `Message.performs_writeZone`, `Validation.performs_writeAlgorithm` and the others: each writer.
* `Encoder.writes_nested`: all of them, at every encoder.
-/

namespace NamedContent

/-! ## Writers -/

namespace Name

/-- Writes a name: its segments in a container. -/
def write (type : UInt16) (name : Name) : Writing Nat :=
  .container type (.each (fun segment => .append segment.emit) name.segments)

end Name

namespace Link

/-- Writes the name of a link, unless it is empty. -/
def writeName (name : Name) : Writing Nat :=
  if name.segments.isEmpty then return 0 else name.write nameType

/-- Writes the parts of a link that are present. -/
def write (link : Link) : Writing Nat := do
  let name ← writeName link.name
  let keyId ← Writing.append (emitOptional keyIdType link.keyId)
  let contentHash ← Writing.append (emitOptional contentHashType link.contentHash)
  return name + keyId + contentHash

/-- Writes a link in a container. -/
def writeIn (type : UInt16) (link : Link) : Writing Nat := .container type link.write

end Link

/-- Writes the field of a slot. All but names and links are single elements. -/
def Slot.write (slot : Slot) (m : Message) : Writing Nat :=
  match slot.form with
  | .name _ =>
    match m.name? slot.field with
    | some name => name.write slot.type
    | none => .append (slot.emit m)
  | .link =>
    match m.keyLink? with
    | some link => .containerUnlessEmpty slot.type link.write
    | none => .append (slot.emit m)
  | _ => .append (slot.emit m)

/-- Writes a zone: its slots, then its other elements. -/
def Message.writeZone (m : Message) (zone : Zone) : Writing Nat := do
  let known ← Writing.each (fun slot => slot.write m) (slots m.kind zone)
  let others ← Writing.each (fun t => .append (Emit.element t.type t.value)) (m.extras zone)
  return known + others

/-- Writes the message element. -/
def Packet.writeMessage (m : Message) : Writing Nat :=
  .container m.kind.elementType (m.writeZone .body)

namespace Validation

/-- Writes the validation algorithm of a suite: one element within the other. -/
def writeSuite (m : Message) (suite : UInt16) : Writing Nat :=
  .container Part.algorithmType (.container suite (m.writeZone .suite))

/-- Writes the validation algorithm that applies with a signer, if one does. -/
def writeAlgorithmFor (m : Message) (config : Config) (now : UInt64) (signer : Option Signer) :
    Writing Nat :=
  match suiteCode? m signer with
  | .error e => Writing.fail e
  | .ok none => return 0
  | .ok (some suite) => writeSuite (withAlgorithm m suite signer config now) suite

/-- Writes the validation algorithm that applies with the signer of what is written. -/
def writeAlgorithm (m : Message) (config : Config) (now : UInt64) : Writing Nat := do
  let signer ← Writing.signer
  writeAlgorithmFor m config now signer

/-- Writes a signature that was made, if there is one. -/
def writeMade : Option Bytes → Writing Nat
  | some b => .append (emitSignature b)
  | none => return 0

/-- Writes the signature of a message, or the one that the signer makes of the bytes at
`[start, stop)`. -/
def writeSignature (m : Message) (covered : Option (Nat × Nat)) : Writing Nat :=
  match covered with
  | none =>
    if m.contains .signature then Writing.fail .signatureWithoutAlgorithm else return 0
  | some (start, stop) =>
    match m.bytes? .signature with
    | some b => .append (emitSignature b)
    | none => do
      let made ← Writing.signRange start stop
      writeMade made

end Validation

namespace ManifestSection

/-- Writes the link to the rules of access. -/
def writeAccess : Option Link → Writing Nat
  | none => return 0
  | some link => link.writeIn accessType

/-- Writes a named chunk. -/
def writeName (entry : NameEntry) : Writing Nat :=
  .container nameEntryType do
    let chunk ← Writing.append (Emit.number chunkType entry.chunk)
    let name ← entry.name.write Link.nameType
    return chunk + name

/-- Writes a digest and its index. -/
def writeHash (entry : HashEntry) : Writing Nat :=
  .container hashEntryType do
    let index ← Writing.append (Emit.number indexType (UInt64.ofNat entry.index))
    let digest ← Writing.append (Emit.element digestType entry.digest)
    return index + digest

/-- Writes a section: the link, the named chunks and then the digests. -/
def write (type : UInt16) (s : ManifestSection) : Writing Nat :=
  .container type do
    let access ← writeAccess s.access
    let names ← Writing.each writeName s.names
    let hashes ← Writing.each writeHash s.hashes
    return access + names + hashes

end ManifestSection

/-! ## Parts step by step -/

open Writing

theorem Name.performs_write (s : Option Signer) (type : UInt16) (name : Name) :
    Performs s (name.write type) (name.emit type) := by
  have hsegments : Performs s (each (fun segment => .append segment.emit) name.segments)
      (emitSegments name.segments) :=
    .each (fun segment : Segment => .append s segment.emit) rfl (fun _ _ => rfl) name.segments
  exact hsegments.container type

namespace Link

theorem performs_writeName (s : Option Signer) (name : Name) :
    Performs s (writeName name) (emitName name) := by
  unfold writeName emitName
  split
  · exact .ret s 0
  · exact name.performs_write s nameType

theorem performs_write (s : Option Signer) (link : Link) : Performs s link.write link.emit :=
  (performs_writeName s link.name).bind fun x _ =>
    (Performs.append s (emitOptional keyIdType link.keyId)).bind fun y _ =>
      (Performs.append s (emitOptional contentHashType link.contentHash)).bind fun z _ =>
        .ret s (x + y + z)

theorem performs_writeIn (s : Option Signer) (type : UInt16) (link : Link) :
    Performs s (link.writeIn type) (link.emitIn type) :=
  (link.performs_write s).container type

/-- Nothing is written for a link exactly when it has no part. -/
theorem result_emit_eq_zero_iff (link : Link) : link.emit.result = .ok 0 ↔ link.isEmpty = true := by
  have hnil : link.elements = [] ↔ link.isEmpty = true := by
    rw [elements, isEmpty]
    cases link.name.segments <;> cases link.keyId <;> cases link.contentHash <;> simp
  rw [link.writes_emit.result_eq_ok_iff, ← hnil]
  constructor
  · rintro ⟨-, hlength⟩
    have hle := Tlv.length_le_length_concat link.elements
    exact List.eq_nil_of_length_eq_zero (Nat.le_zero.mp (hlength ▸ hle))
  · intro helements
    rw [wire, helements]
    exact ⟨List.forall_mem_nil _, rfl⟩

/-- A link in a container, or nothing for a link without parts. -/
theorem performs_containerUnlessEmpty (s : Option Signer) (type : UInt16) (link : Link) :
    Performs s (.containerUnlessEmpty type link.write)
      (if link.isEmpty then Emit.done 0 else link.emitIn type) := by
  refine (link.performs_write s).containerUnlessEmpty type (fun h => ?_) fun h => ?_
  · exact if_pos (link.result_emit_eq_zero_iff.mp h)
  · exact if_neg fun hempty => h (link.result_emit_eq_zero_iff.mpr hempty)

end Link

theorem Slot.performs_write (s : Option Signer) (slot : Slot) (m : Message) :
    Performs s (slot.write m) (slot.emit m) := by
  unfold Slot.write
  split
  · next required hform =>
    split
    · next name hname =>
      have hemit : slot.emit m = name.emit slot.type := by
        simp only [Slot.emit, hform, hname]
      rw [hemit]
      exact name.performs_write s slot.type
    · exact .append s (slot.emit m)
  · next hform =>
    split
    · next link hlink =>
      have hemit : slot.emit m = if link.isEmpty then Emit.done 0 else link.emitIn slot.type := by
        simp only [Slot.emit, hform, hlink]
      rw [hemit]
      exact link.performs_containerUnlessEmpty s slot.type
    · exact .append s (slot.emit m)
  · exact .append s (slot.emit m)

theorem Message.performs_writeZone (s : Option Signer) (m : Message) (zone : Zone) :
    Performs s (m.writeZone zone) (m.emitZone zone) := by
  have hslots : Performs s (each (fun slot => slot.write m) (slots m.kind zone))
      (emitSlots m (slots m.kind zone)) :=
    .each (fun slot => slot.performs_write s m) rfl (fun _ _ => rfl) _
  have helements : Performs s (each (fun t => append (Emit.element t.type t.value)) (m.extras zone))
      (Emit.elements (m.extras zone)) :=
    .each (fun t => .append s _) rfl (fun _ _ => rfl) _
  exact hslots.bind fun x _ => helements.bind fun y _ => .ret s (x + y)

theorem Packet.performs_writeMessage (s : Option Signer) (m : Message) :
    Performs s (writeMessage m) (emitMessage m) :=
  (m.performs_writeZone s .body).container m.kind.elementType

namespace Validation

theorem performs_writeAlgorithmFor (s : Option Signer) (m : Message) (config : Config)
    (now : UInt64) :
    Performs s (writeAlgorithmFor m config now s) (algorithm m s config now).1 := by
  have hsuite : ∀ suite r, Performs s (writeSuite r suite) (emitSuite r suite) := fun suite r =>
    ((r.performs_writeZone s .suite).container suite).container Part.algorithmType
  unfold writeAlgorithmFor algorithm
  cases suiteCode? m s with
  | error x => exact .fail s x
  | ok code =>
    cases code with
    | none => exact .ret s 0
    | some suite =>
      cases hkeys : (emitSlots (withSuite m suite s) keySlots).result with
      | error x =>
        simp only [hkeys]
        exact hsuite suite _
      | ok k =>
        simp only [hkeys]
        exact hsuite suite _

theorem performs_writeAlgorithm (s : Option Signer) (m : Message) (config : Config) (now : UInt64) :
    Performs s (writeAlgorithm m config now) (algorithm m s config now).1 := by
  intro e v hs he
  have hsteps : writeAlgorithm m config now e = writeAlgorithmFor m config now e.signer e := rfl
  subst hs
  obtain ⟨hresult, hsigner, hrefines⟩ := performs_writeAlgorithmFor e.signer m config now e v rfl he
  exact .of_eq (hsteps.trans (Prod.ext hresult rfl)) rfl hsigner hrefines

theorem fst_sign (m : Message) (signer : Signer) (covered : Bytes) :
    (sign m signer covered).1 = match signer.sign covered with
      | .ok b => emitSignature b
      | .error x => Emit.fail (.signer x) := by
  unfold sign
  cases signer.sign covered with
  | error x => rfl
  | ok b => cases hresult : (emitSignature b).result <;> simp only [hresult]

/-- The signer signs the bytes written at `[start, stop)`, and its failure is passed on. -/
theorem sign_performsAt {e : Encoder} {v : Flat} {signer : Signer} (he : e.Refines v)
    (hsigner : e.signer = some signer) (m : Message) (start stop : Nat) :
    PerformsAt (signRange start stop >>= writeMade)
      (sign m signer (Bytes.slice start stop v.bytes)).1 e v := by
  rw [fst_sign]
  cases hsign : signer.sign (Bytes.slice start stop v.bytes) with
  | error x =>
    have hrange : e.signRange start stop = .error (.signer x) := by
      simp only [Encoder.signRange, hsigner, he.slice, hsign]
    exact (Performs.fail e.signer _ e v rfl he).signRange_of_error hrange
  | ok b =>
    have hrange : e.signRange start stop = .ok (some b) := by
      simp only [Encoder.signRange, hsigner, he.slice, hsign]
    have hmade : Writing.signRange start stop e = (.ok (some b), e) := congrArg (·, e) hrange
    have hsignature : (writeMade (some b)).PerformsAt (emitSignature b) e v :=
      Performs.append e.signer (emitSignature b) e v rfl he
    exact hsignature.look hmade

/-- The bytes that a signature covers are among those written. -/
theorem writeSignature_performsAt {e : Encoder} {v : Flat} (he : e.Refines v) (m : Message)
    (covered : Option (Nat × Nat)) :
    PerformsAt (writeSignature m covered) (signature m e.signer
      (covered.map fun (start, stop) => Bytes.slice start stop v.bytes)).1 e v := by
  cases covered with
  | none =>
    simp only [writeSignature, signature, Option.map_none]
    split
    · exact Performs.fail e.signer _ e v rfl he
    · exact Performs.ret e.signer 0 e v rfl he
  | some range =>
    obtain ⟨start, stop⟩ := range
    simp only [writeSignature, signature, Option.map_some]
    cases m.bytes? .signature with
    | some b => exact Performs.append e.signer _ e v rfl he
    | none =>
      cases hsigner : e.signer with
      | none =>
        have hmade : Writing.signRange start stop e = (.ok none, e) := by
          rw [Writing.signRange, Encoder.signRange, hsigner]
        have hnothing : (writeMade none).PerformsAt (Emit.done 0) e v :=
          Performs.ret none 0 e v hsigner he
        exact hnothing.look hmade
      | some signer => exact sign_performsAt he hsigner m start stop

end Validation

namespace ManifestSection

theorem performs_writeName (s : Option Signer) (entry : NameEntry) :
    Performs s (writeName entry) (emitName entry) := by
  have hparts := (Performs.append s (Emit.number chunkType entry.chunk)).bind fun x _ =>
    (entry.name.performs_write s Link.nameType).bind fun y _ => .ret s (x + y)
  exact hparts.container nameEntryType

theorem performs_writeHash (s : Option Signer) (entry : HashEntry) :
    Performs s (writeHash entry) (emitHash entry) := by
  have hparts := (Performs.append s (Emit.number indexType (UInt64.ofNat entry.index))).bind
    fun x _ => (Performs.append s (Emit.element digestType entry.digest)).bind fun y _ =>
      .ret s (x + y)
  exact hparts.container hashEntryType

theorem performs_writeAccess (s : Option Signer) (access : Option Link) :
    Performs s (writeAccess access) (emitAccess access) := by
  cases access with
  | none => exact .ret s 0
  | some link => exact link.performs_writeIn s accessType

theorem performs_write (s : Option Signer) (type : UInt16) (parts : ManifestSection) :
    Performs s (parts.write type) (parts.emit type) := by
  have hnames : Performs s (each writeName parts.names) (emitNames parts.names) :=
    .each (performs_writeName s) rfl (fun _ _ => rfl) parts.names
  have hhashes : Performs s (each writeHash parts.hashes) (emitHashes parts.hashes) :=
    .each (performs_writeHash s) rfl (fun _ _ => rfl) parts.hashes
  have hparts := (performs_writeAccess s parts.access).bind fun x _ => hnames.bind fun y _ =>
    hhashes.bind fun z _ => .ret s (x + y + z)
  exact hparts.container type

end ManifestSection

/-! ## What is added -/

namespace Encoder

/-- An encoder has got a nesting of `count` bytes behind those that it had, which are unchanged. It
fits at each level, and a cursor in front of it reads it and goes over nothing else. -/
structure Grows (e e' : Encoder) (count : Nat) (n : Nesting) : Prop where
  position : e'.position = e.position + count
  bytes : e'.toScatter.toBytes = e.toScatter.toBytes ++ n.bytes
  length : n.bytes.length = count
  fits : n.Fits
  reads : ∀ (c : Cursor) (behind : Bytes), c.rest = n.bytes ++ behind →
    ∃ c', c.Walks n c' ∧ c.Over n.bytes c' ∧ c'.rest = behind

/-- Steps write what an emission does, and add a nesting whenever they succeed. -/
structure Nested (e : Encoder) (w : Writing Nat) (m : Emit Nat) (n : Nesting) : Prop where
  result : (w e).1 = (e.emit m).1
  shows : (w e).2.Shows (e.emit m).2.flat
  grows : ∀ count, (w e).1 = .ok count → e.Grows (w e).2 count n

variable {e : Encoder} {v : Flat} {w : Writing Nat} {m : Emit Nat} {n : Nesting}

theorem Refines.nested (he : e.Refines v) (hw : w.PerformsAt m e v) (hn : m.Nests n) :
    e.Nested w m n := by
  refine ⟨hw.result, ?_, fun count hcount => ?_⟩
  · rw [(he.emit m).flat_eq]
    exact hw.refines.shows
  obtain ⟨⟨hresult, hbytes⟩, hfits⟩ := hn count (hw.result.symm.trans hcount)
  have hlength : n.bytes.length = count :=
    Except.ok.inj (hresult.symm.trans (hw.result.symm.trans hcount))
  have hadded : (v.append m.pieces).bytes = v.bytes ++ n.bytes := congrArg (v.bytes ++ ·) hbytes
  refine ⟨?_, ?_, hlength, hfits, fun c behind => Nesting.walks_of_rest hfits⟩
  · rw [hw.refines.position, he.position, hadded, List.length_append, hlength]
  · rw [hw.refines.shows.scatter, he.shows.scatter, hadded]

/-- Writing a part only adds to what was written: the part as a row of whole elements, of which each
has the length of what is in it, down to the innermost, and whose bytes are counted. The bytes in
front are never reached by a length that is filled in or by a container that is cut off, whatever
pieces they lie in. A length is filled in as for anyone who asks for it, as long as what is written
is counted by a word. -/
theorem writes_nested (signer : Option Signer) (requests : List Request) :
    let e := (run { signer } requests).2
    (∀ type (name : Name), e.Nested (name.write type) (name.emit type) (name.nesting type)) ∧
    (∀ link : Link, e.Nested link.write link.emit link.nesting) ∧
    (∀ m : Message, e.Nested (m.writeZone .hop) (m.emitZone .hop) (m.nesting .hop)) ∧
    (∀ m, e.Nested (Packet.writeMessage m) (Packet.emitMessage m) (Packet.messageNesting m)) ∧
    (∀ m config now, e.Nested (Validation.writeAlgorithm m config now)
      (Validation.algorithm m e.signer config now).1
      (Validation.algorithmNesting m e.signer config now)) ∧
    (∀ m (range : Option (Nat × Nat)), (∀ span ∈ range, span.1 ≤ span.2) →
      let covered := range.map fun (start, stop) => Bytes.slice start stop e.toScatter.toBytes
      e.Nested (Validation.writeSignature m range) (Validation.signature m e.signer covered).1
        (Validation.signatureNesting m e.signer covered)) ∧
    (∀ type (s : ManifestSection), e.Nested (s.write type) (s.emit type) (s.nesting type)) ∧
    (∀ type (link : Link), link.isEmpty = true →
      (Writing.containerUnlessEmpty type link.write e).1 = .ok 0 ∧
        (Writing.containerUnlessEmpty type link.write e).2.Shows e.flat) ∧
    ∀ (e : Encoder) start length, start + 4 ≤ e.position → e.position < 2 ^ 64 →
      Writing.setLength start length e = e.setContainerLength (UInt64.ofNat start) length := by
  intro e
  have he : e.Refines e.flat := refines_after signer requests
  have hscatter : e.toScatter.toBytes = e.flat.bytes := he.shows.scatter
  refine ⟨fun type name => ?_, fun link => ?_, fun m => ?_, fun m => ?_, fun m config now => ?_,
    fun m range _ => ?_, fun type s => ?_, fun type link hempty => ?_,
    fun e start length hin hword => closeContainer_eq hin hword length⟩
  · exact he.nested (name.performs_write e.signer type e _ rfl he) (name.nests_emit type)
  · exact he.nested (link.performs_write e.signer e _ rfl he) link.nests_emit
  · exact he.nested (m.performs_writeZone e.signer .hop e _ rfl he) (m.nests_emitZone .hop)
  · exact he.nested (Packet.performs_writeMessage e.signer m e _ rfl he)
      (Packet.nests_emitMessage m)
  · exact he.nested (Validation.performs_writeAlgorithm e.signer m config now e _ rfl he)
      (Validation.nests_algorithm m e.signer config now)
  · rw [hscatter]
    exact he.nested (Validation.writeSignature_performsAt he m range)
      (Validation.nests_signature m e.signer _)
  · exact he.nested (s.performs_write e.signer type e _ rfl he) (s.nests_emit type)
  · obtain ⟨hresult, -, hrefines⟩ := link.performs_containerUnlessEmpty e.signer type e _ rfl he
    rw [if_pos hempty] at hresult hrefines
    refine ⟨hresult, ?_⟩
    have hnothing : e.flat.append (Emit.done 0 : Emit Nat).pieces = e.flat := e.flat.append_nil
    rw [← hnothing]
    exact hrefines.shows

/-! Three bytes and a long value that is shared; behind them a name, a signature of the second and
the third byte, and a link without parts. -/

namespace Sample

/-- A signer whose signatures are the bytes that they cover, from the last to the first. -/
def backwards : Signer where
  algorithm := .hmac
  hash := .sha256
  keyDigest := none
  sign covered := .ok covered.reverse

/-- An encoder like `guarded`, with a signer. -/
def signing : Encoder := (run { signer := some backwards } (guarding [1, 2, 3])).2

end Sample

theorem writes_nested_sample :
    (∃ e', Name.write 7 ⟨[.ofText "a"]⟩ Sample.signing = (.ok 9, e') ∧
      Sample.signing.Grows e' 9 (.container 7 (.leaf ⟨1, [97]⟩ .nil) .nil)) ∧
    (∃ e', Validation.writeSignature ⟨.interest, fun _ => none, [], [], []⟩ (some (1, 3))
        Sample.signing = (.ok 6, e') ∧
      Sample.signing.Grows e' 6 (.leaf ⟨Part.signatureType, [3, 2]⟩ .nil)) ∧
    (Writing.containerUnlessEmpty 9 (Link.write {}) Sample.signing).2.Shows Sample.signing.flat ∧
    Writing.setLength 0 5 Sample.signing =
      Sample.signing.setContainerLength (UInt64.ofNat 0) 5 := by
  obtain ⟨hname, -, -, -, -, hsignature, -, hempty, hlength⟩ :=
    writes_nested (some Sample.backwards) (Sample.guarding [1, 2, 3])
  refine ⟨⟨_, rfl, ?_⟩, ⟨_, rfl, ?_⟩, ?_, ?_⟩
  · exact (hname 7 ⟨[.ofText "a"]⟩).grows 9 rfl
  · exact (hsignature ⟨.interest, fun _ => none, [], [], []⟩ (some (1, 3)) (by simp)).grows 6 rfl
  · exact (hempty 9 {} rfl).2
  · exact hlength Sample.signing 0 5 (by decide) (by decide)

end Encoder

end NamedContent
