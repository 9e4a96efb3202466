import NamedContent.Proofs.Manifests

/-!
# What digests point to

Each digest of a section has the index of a named chunk of the same section. It is taken only when
there is a chunk with this index, and nothing is ever taken out of a section. So each digest points
to the chunk that it was given with, whatever is added behind it, and sections that were read are no
exception: their entries are added in the order in which they stand.

* `references`: what the accepted digests were given with, as the requests alone tell.
* `told_step`, `told_after`: one request, and a run of requests.
* `requests_of_ofWire`: a section that was read is that of the entries its elements denote.
* `references_hold`: all of this together.
-/

namespace NamedContent

namespace ManifestSection

variable {s s' : ManifestSection} {names : List NameEntry} {refs : List (NameEntry × Bytes)}
  {b : Bytes} {t : Tlv}

/-! ## Requests -/

/-- A request to add a named chunk or a digest. -/
inductive Request
  | name (name : Name) (chunk : UInt64)
  | hash (index : Nat) (digest : Bytes)

namespace Request

/-- The named chunk that is to be added. -/
def named? : Request → Option NameEntry
  | name n chunk => some ⟨chunk, n⟩
  | hash .. => none

/-- The digest that is to be added, with the chunk it points to, if this is one of those given. -/
def reference? (names : List NameEntry) : Request → Option (NameEntry × Bytes)
  | name .. => none
  | hash index digest => names[index]?.map fun entry => (entry, digest)

end Request

/-- Adds one more entry. -/
def request (s : ManifestSection) : Request → Except ManifestError Unit × ManifestSection
  | .name name chunk => (.ok (), s.addName name chunk)
  | .hash index digest => s.addHash index digest

/-- A section after a request. -/
def step (s : ManifestSection) (r : Request) : ManifestSection := (s.request r).2

/-- A section with the entry of a request that is accepted. -/
def accept (s : ManifestSection) (r : Request) : Except ManifestError ManifestSection :=
  kept (s.request r)

/-- A section after requests. -/
def after (s : ManifestSection) (rs : List Request) : ManifestSection := rs.foldl step s

/-- The named chunks that requests add. -/
def namesOf (rs : List Request) : List NameEntry := rs.filterMap Request.named?

/-- What the accepted digests of requests are given with, where some chunks are there already. -/
def references (names : List NameEntry) : List Request → List (NameEntry × Bytes)
  | [] => []
  | r :: rest => (r.reference? names).toList ++ references (names ++ r.named?.toList) rest

/-! ## Answers -/

/-- A section refers to chunks and digests: its indices are in use, and it answers with the chunks
and digests one by one and with nothing beyond them. -/
structure Refers (s : ManifestSection) (refs : List (NameEntry × Bytes)) : Prop where
  inUse : ∀ entry ∈ s.hashes, entry.index < s.names.length
  count : s.hashes.length = refs.length
  present : ∀ i, (h : i < refs.length) → s.nameAt? i = some refs[i].1.name ∧
    s.chunkAt? i = some refs[i].1.chunk ∧ s.digestAt? i = some refs[i].2
  absent : ∀ i, refs.length ≤ i → s.nameAt? i = none ∧ s.chunkAt? i = none ∧ s.digestAt? i = none

/-- A digest with the chunk that has its index. -/
def pointed (s : ManifestSection) (entry : HashEntry) : Option NameEntry × Bytes :=
  (s.names[entry.index]?, entry.digest)

/-- What a section tells of its digests. -/
def told (s : ManifestSection) : List (Option NameEntry × Bytes) := s.hashes.map s.pointed

/-- What there is to tell of digests that point to chunks. -/
def known (refs : List (NameEntry × Bytes)) : List (Option NameEntry × Bytes) :=
  refs.map fun ref => (some ref.1, ref.2)

theorem index_lt_of_told (h : s.told = known refs) :
    ∀ entry ∈ s.hashes, entry.index < s.names.length := by
  intro entry hentry
  have hmem : s.pointed entry ∈ s.told := List.mem_map_of_mem hentry
  rw [h] at hmem
  obtain ⟨ref, -, heq⟩ := List.mem_map.mp hmem
  exact (List.getElem?_eq_some_iff.mp (Prod.mk.inj heq).1.symm).1

theorem refers_of_told (h : s.told = known refs) : s.Refers refs := by
  have hlength : s.hashes.length = refs.length := by
    simpa [told, known] using congrArg List.length h
  have hat : ∀ i : Nat, s.hashes[i]?.map s.pointed =
      refs[i]?.map fun ref => (some ref.1, ref.2) := by
    intro i
    have hi : s.told[i]? = (known refs)[i]? := congrArg (·[i]?) h
    rwa [told, known, List.getElem?_map, List.getElem?_map] at hi
  refine ⟨index_lt_of_told h, hlength, fun i hi => ?_, fun i hi => ?_⟩
  · have hsome := hat i
    rw [List.getElem?_eq_getElem hi] at hsome
    obtain ⟨entry, hentry, heq⟩ := Option.map_eq_some_iff.mp hsome
    obtain ⟨hname, hdigest⟩ := Prod.mk.inj heq
    simp [nameAt?, chunkAt?, digestAt?, nameEntryAt?, hentry, hname, hdigest]
  · have hnone : s.hashes[i]? = none := List.getElem?_eq_none (hlength ▸ hi)
    simp [nameAt?, chunkAt?, digestAt?, nameEntryAt?, hnone]

/-! ## One request -/

theorem addHash_eq_error_iff {index : Nat} {digest : Bytes} {err : ManifestError} :
    s.addHash index digest = (.error err, s') ↔
      s.names.length ≤ index ∧ err = .invalidNameIndex index s.names.length ∧ s' = s := by
  unfold addHash
  split
  · next hle => simp [hle, eq_comm]
  · next hlt => simp [hlt]

theorem step_hash_of_le {index : Nat} (h : s.names.length ≤ index) (digest : Bytes) :
    s.step (.hash index digest) = s := by
  have herror : s.request (.hash index digest) =
      (.error (.invalidNameIndex index s.names.length), s) :=
    addHash_eq_error_iff.mpr ⟨h, rfl, rfl⟩
  rw [step, herror]

theorem step_hash_of_lt {index : Nat} (h : index < s.names.length) (digest : Bytes) :
    s.step (.hash index digest) = { s with hashes := s.hashes ++ [⟨index, digest⟩] } := by
  have hok : s.request (.hash index digest) =
      (.ok (), { s with hashes := s.hashes ++ [⟨index, digest⟩] }) :=
    addHash_eq_ok_iff.mpr ⟨h, rfl⟩
  rw [step, hok]

theorem names_step (s : ManifestSection) (r : Request) :
    (s.step r).names = s.names ++ r.named?.toList := by
  cases r with
  | name name chunk => rfl
  | hash index digest =>
    show _ = s.names ++ []
    rw [List.append_nil]
    by_cases h : index < s.names.length
    · rw [step_hash_of_lt h]
    · rw [step_hash_of_le (Nat.le_of_not_lt h)]

/-- A request adds what it was given, and changes nothing of what was told before. -/
theorem told_step (h : s.told = known refs) (r : Request) :
    (s.step r).told = known (refs ++ (r.reference? s.names).toList) := by
  cases r with
  | name name chunk =>
    have hold : (s.addName name chunk).told = s.told := List.map_congr_left fun entry hentry => by
      rw [pointed, pointed, addName, List.getElem?_append_left (index_lt_of_told h entry hentry)]
    show (s.addName name chunk).told = known (refs ++ [])
    rw [hold, h, List.append_nil]
  | hash index digest =>
    by_cases hlt : index < s.names.length
    · rw [step_hash_of_lt hlt]
      have hnew : told { s with hashes := s.hashes ++ [⟨index, digest⟩] } =
          s.told ++ [(s.names[index]?, digest)] := List.map_append
      rw [hnew, h]
      simp [known, Request.reference?, hlt]
    · have hle : s.names.length ≤ index := Nat.le_of_not_lt hlt
      rw [step_hash_of_le hle, h, Request.reference?, List.getElem?_eq_none hle]
      exact congrArg known (List.append_nil refs).symm

/-! ## Runs of requests -/

theorem names_after (s : ManifestSection) (rs : List Request) :
    (s.after rs).names = s.names ++ namesOf rs := by
  induction rs generalizing s with
  | nil => exact (List.append_nil s.names).symm
  | cons r rs ih =>
    show ((s.step r).after rs).names = _
    rw [ih, names_step, List.append_assoc]
    cases h : r.named? <;> simp [namesOf, h]

theorem told_after (h : s.told = known refs) (rs : List Request) :
    (s.after rs).told = known (refs ++ references s.names rs) := by
  induction rs generalizing s refs with
  | nil => rwa [references, List.append_nil]
  | cons r rs ih =>
    show ((s.step r).after rs).told = _
    rw [ih (told_step h r), names_step, references, List.append_assoc]

/-- A run that begins with an empty section, and goes on. -/
theorem refers_after (access : Option Link) (rs more : List Request) :
    (((create access).after rs).after more).Refers
      (references [] rs ++ references (namesOf rs) more) := by
  have hempty : (create access).told = known [] := rfl
  have hrun := told_after (told_after hempty rs) more
  rw [names_after] at hrun
  exact refers_of_told hrun

/-- Requests that are all accepted are a run. -/
theorem after_of_foldlM {rs : List Request} (h : rs.foldlM accept s = .ok s') :
    s.after rs = s' := by
  induction rs generalizing s with
  | nil => exact Except.ok.inj h
  | cons r rs ih =>
    rw [List.foldlM_cons] at h
    obtain ⟨s₁, hr, hrs⟩ := bind_eq_ok_iff.mp h
    show (s.step r).after rs = s'
    rw [step, kept_eq_ok_iff.mp hr]
    exact ih hrs

/-! ## Sections that were read -/

/-- The request that an element of a section stands for. -/
def Request.ofTlv? (t : Tlv) : Option Request :=
  if t.type = nameEntryType then
    (nameOfWire t.value).toOption.map fun entry => .name entry.name entry.chunk
  else if t.type = hashEntryType then
    (hashOfWire t.value).toOption.map fun entry => .hash entry.index entry.digest
  else none

/-- The requests that the elements of a section stand for. -/
def requestsOf (b : Bytes) : List Request := (Tlv.scan b).1.filterMap Request.ofTlv?

/-- What an element adds is what it requests, whatever the link of the section is. -/
theorem request_of_add (h : s.add t = .ok s') (access : Option Link) :
    (Request.ofTlv? t).toList.foldlM accept { s with access } = .ok { s' with access } := by
  unfold Request.ofTlv?
  rcases add_cases h with ⟨htype, -, link, -, rfl⟩ | ⟨htype, entry, hread, rfl⟩ |
    ⟨htype, entry, hread, hadd⟩ | ⟨htype, rfl⟩
  · rw [htype]
    rfl
  · rw [htype, hread]
    rfl
  · obtain ⟨hindex, rfl⟩ := addHash_eq_ok_iff.mp hadd
    have hok : addHash { s with access } entry.index entry.digest =
        (.ok (), { s with access, hashes := s.hashes ++ [⟨entry.index, entry.digest⟩] }) :=
      addHash_eq_ok_iff.mpr ⟨hindex, rfl⟩
    rw [htype, hread]
    exact bind_eq_ok_iff.mpr ⟨_, kept_eq_ok_iff.mpr hok, rfl⟩
  · rw [if_neg fun h => htype (by simp [h]), if_neg fun h => htype (by simp [h])]
    rfl

theorem requests_of_foldlM {ts : List Tlv} (h : ts.foldlM add s = .ok s') (access : Option Link) :
    (ts.filterMap Request.ofTlv?).foldlM accept { s with access } = .ok { s' with access } := by
  induction ts generalizing s with
  | nil =>
    cases h
    rfl
  | cons t ts ih =>
    rw [List.foldlM_cons] at h
    obtain ⟨s₁, hadd, hts⟩ := bind_eq_ok_iff.mp h
    have hfirst := request_of_add hadd access
    have hrest := ih hts
    rw [List.filterMap_cons]
    cases hr : Request.ofTlv? t with
    | none =>
      rw [hr] at hfirst
      rw [Except.ok.inj hfirst]
      exact hrest
    | some r =>
      rw [hr] at hfirst
      obtain ⟨s₂, hrequest, hnil⟩ := bind_eq_ok_iff.mp hfirst
      cases hnil
      exact bind_eq_ok_iff.mpr ⟨_, hrequest, hrest⟩

/-- A section that was read is that of the entries its elements stand for, all of them accepted. -/
theorem requests_of_ofWire (h : ofWire b = .ok s) :
    (requestsOf b).foldlM accept (create s.access) = .ok s := by
  obtain ⟨ts, hfits, rfl, hfold⟩ := Tlv.result_read_eq_ok_iff.mp h
  rw [requestsOf, Tlv.scan_concat hfits]
  exact requests_of_foldlM hfold s.access

/-! ## Digests in front of their chunks -/

/-- The elements have a digest whose index is not smaller than the number of chunks in front of
it. -/
def Dangling (b : Bytes) : Prop :=
  ∃ front t behind entry, (Tlv.scan b).1 = front ++ t :: behind ∧ t.type = hashEntryType ∧
    hashOfWire t.value = .ok entry ∧ Tlv.countOf front nameEntryType ≤ entry.index

/-- Of all elements only a named chunk adds one to those of a section. -/
theorem length_names_of_add (h : s.add t = .ok s') :
    s'.names.length = s.names.length + Tlv.countOf [t] nameEntryType := by
  rw [Tlv.countOf_singleton]
  rcases add_cases h with ⟨htype, -, link, -, rfl⟩ | ⟨htype, entry, -, rfl⟩ |
    ⟨htype, entry, -, hadd⟩ | ⟨htype, rfl⟩
  · rw [htype]
    rfl
  · rw [htype]
    exact List.length_append
  · obtain ⟨-, rfl⟩ := addHash_eq_ok_iff.mp hadd
    rw [htype]
    rfl
  · rw [if_neg fun h => htype (by simp [h])]
    rfl

theorem length_names_of_foldlM {ts : List Tlv} (h : ts.foldlM add s = .ok s') :
    s'.names.length = s.names.length + Tlv.countOf ts nameEntryType := by
  induction ts generalizing s with
  | nil =>
    cases h
    rfl
  | cons t ts ih =>
    rw [List.foldlM_cons] at h
    obtain ⟨s₁, hadd, hts⟩ := bind_eq_ok_iff.mp h
    have hcount : Tlv.countOf (t :: ts) nameEntryType =
        Tlv.countOf [t] nameEntryType + Tlv.countOf ts nameEntryType := Tlv.countOf_append [t] ts _
    rw [ih hts, length_names_of_add hadd, hcount, Nat.add_assoc]

theorem add_of_hash {entry : HashEntry} (htype : t.type = hashEntryType)
    (hread : hashOfWire t.value = .ok entry) :
    s.add t = kept (s.addHash entry.index entry.digest) := by
  rw [add, htype, hread]
  rfl

/-- A digest that stands in front of its chunk is not taken. -/
theorem ofWire_of_dangling (h : Dangling b) : ∃ err, ofWire b = .error err := by
  obtain ⟨front, t, behind, entry, hscan, htype, hread, hle⟩ := h
  cases hof : ofWire b with
  | error err => exact ⟨err, rfl⟩
  | ok s =>
    obtain ⟨ts, hfits, rfl, hfold⟩ := Tlv.result_read_eq_ok_iff.mp hof
    rw [Tlv.scan_concat hfits] at hscan
    obtain rfl : ts = front ++ t :: behind := hscan
    rw [List.foldlM_append] at hfold
    obtain ⟨s₁, hfront, hrest⟩ := bind_eq_ok_iff.mp hfold
    rw [List.foldlM_cons] at hrest
    obtain ⟨s₂, hadd, -⟩ := bind_eq_ok_iff.mp hrest
    have hcount : s₁.names.length = 0 + Tlv.countOf front nameEntryType :=
      length_names_of_foldlM hfront
    rw [add_of_hash htype hread] at hadd
    obtain ⟨hlt, -⟩ := addHash_eq_ok_iff.mp (kept_eq_ok_iff.mp hadd)
    omega

end ManifestSection

/-! ## Manifests -/

namespace Manifest

open ManifestSection

variable {b : Bytes} {t : Tlv} {type : UInt16} {s : ManifestSection}

/-- The types of the sections. -/
def sectionTypes : List UInt16 := [metaSectionType, dataSectionType]

/-- Of the two sections the one of a type. -/
def ofType? (metaSection dataSection : Option ManifestSection) (type : UInt16) :
    Option ManifestSection :=
  if type = metaSectionType then metaSection
  else if type = dataSectionType then dataSection
  else none

/-- The section of a type met so far. -/
def Draft.sectionOf? (d : Draft) : UInt16 → Option ManifestSection :=
  ofType? d.metaSection d.dataSection

/-- An element of the type of a section is the first one and is read as the section; other elements
leave the section as it is. -/
theorem Draft.sectionOf?_add {d d' : Draft} (htype : type ∈ sectionTypes) (h : d.add t = .ok d') :
    (t.type = type ∧ d.sectionOf? type = none ∧
      ∃ s, ofWire t.value = .ok s ∧ d'.sectionOf? type = some s) ∨
    (t.type ≠ type ∧ d'.sectionOf? type = d.sectionOf? type) := by
  have htypes : type = metaSectionType ∨ type = dataSectionType := by
    simpa [sectionTypes] using htype
  rcases add_cases h with ⟨hlink, -, link, -, rfl⟩ | ⟨hmeta, hnone, s, hread, rfl⟩ |
    ⟨hdata, hnone, s, hread, rfl⟩ | ⟨hother, rfl⟩
  · refine .inr ⟨?_, rfl⟩
    rw [hlink]
    rcases htypes with rfl | rfl <;> decide
  · rcases htypes with rfl | rfl
    · exact .inl ⟨hmeta, hnone, s, hread, rfl⟩
    · exact .inr ⟨by rw [hmeta]; decide, rfl⟩
  · rcases htypes with rfl | rfl
    · exact .inr ⟨by rw [hdata]; decide, rfl⟩
    · exact .inl ⟨hdata, hnone, s, hread, rfl⟩
  · refine .inr ⟨?_, rfl⟩
    rintro rfl
    exact hother (List.mem_cons_of_mem _ htype)

/-- A section stays once it was met; every element of its type is read as it, and it comes from one
of them. -/
theorem Draft.sectionOf?_foldlM {ts : List Tlv} {d d' : Draft} (htype : type ∈ sectionTypes)
    (h : ts.foldlM add d = .ok d') :
    (∀ s, d.sectionOf? type = some s → d'.sectionOf? type = some s) ∧
      (∀ t ∈ ts, t.type = type → ∃ s, ofWire t.value = .ok s ∧ d'.sectionOf? type = some s) ∧
      ∀ s, d'.sectionOf? type = some s → d.sectionOf? type = some s ∨
        ∃ t ∈ ts, t.type = type ∧ ofWire t.value = .ok s := by
  induction ts generalizing d with
  | nil =>
    cases h
    exact ⟨fun _ hs => hs, nofun, fun _ hs => .inl hs⟩
  | cons t ts ih =>
    rw [List.foldlM_cons] at h
    obtain ⟨d₁, hadd, hts⟩ := bind_eq_ok_iff.mp h
    obtain ⟨hstays, hread, hfrom⟩ := ih hts
    rcases sectionOf?_add htype hadd with ⟨hmatch, hnone, s, hs, hd₁⟩ | ⟨hother, hd₁⟩
    · refine ⟨fun s' hs' => ?_, List.forall_mem_cons.mpr ⟨fun _ => ⟨s, hs, hstays s hd₁⟩, hread⟩,
        fun s' hs' => .inr ?_⟩
      · rw [hnone] at hs'
        cases hs'
      · -- The section of this element is still there.
        have heq : s = s' := Option.some.inj ((hstays s hd₁).symm.trans hs')
        exact ⟨t, List.mem_cons_self, hmatch, heq ▸ hs⟩
    · rw [hd₁] at hstays hfrom
      refine ⟨hstays, List.forall_mem_cons.mpr ⟨fun hmatch => absurd hmatch hother, hread⟩,
        fun s hs => ?_⟩
      rcases hfrom s hs with hd | ⟨u, hu, hmatch, hof⟩
      · exact .inl hd
      · exact .inr ⟨u, List.mem_cons_of_mem t hu, hmatch, hof⟩

/-- The sections of a manifest that was read are what the elements of their types are read as. -/
theorem sections_of_ofBytes {m : Manifest} (htype : type ∈ sectionTypes) (h : ofBytes b = .ok m) :
    (∀ t ∈ (Tlv.scan b).1, t.type = type → ∃ s, ofWire t.value = .ok s) ∧
      ∀ s, ofType? m.metaSection m.dataSection type = some s →
        ∃ t ∈ (Tlv.scan b).1, t.type = type ∧ ofWire t.value = .ok s := by
  obtain ⟨d, hread, hmanifest⟩ := bind_eq_ok_iff.mp h
  obtain ⟨ts, hfits, rfl, hfold⟩ := Tlv.result_read_eq_ok_iff.mp hread
  obtain ⟨-, hall, hfrom⟩ := Draft.sectionOf?_foldlM htype hfold
  obtain ⟨link, x, y⟩ := d
  cases link <;> cases hmanifest
  rw [Tlv.scan_concat hfits]
  refine ⟨fun t ht hmatch => ?_, fun s hs => ?_⟩
  · obtain ⟨s, hof, -⟩ := hall t ht hmatch
    exact ⟨s, hof⟩
  · rcases hfrom s hs with hnone | hexists
    · have hempty : Draft.sectionOf? {} type = none := by simp [Draft.sectionOf?, ofType?]
      rw [hempty] at hnone
      cases hnone
    · exact hexists

/-- A manifest with a digest in front of its chunk is not taken. -/
theorem ofBytes_of_dangling (ht : t ∈ (Tlv.scan b).1) (htype : t.type ∈ sectionTypes)
    (h : Dangling t.value) : ∃ err, ofBytes b = .error err := by
  cases hof : ofBytes b with
  | error err => exact ⟨err, rfl⟩
  | ok m =>
    obtain ⟨s, hs⟩ := (sections_of_ofBytes htype hof).1 t ht rfl
    obtain ⟨err, herr⟩ := ofWire_of_dangling h
    rw [hs] at herr
    cases herr

theorem exists_requests {m : Manifest} (h : ofBytes b = .ok m)
    (hs : m.metaSection = some s ∨ m.dataSection = some s) :
    ∃ t ∈ (Tlv.scan b).1, t.type ∈ sectionTypes ∧
      (requestsOf t.value).foldlM accept (ManifestSection.create s.access) = .ok s := by
  have hof : ∀ type ∈ sectionTypes, ofType? m.metaSection m.dataSection type = some s →
      ∃ t ∈ (Tlv.scan b).1, t.type ∈ sectionTypes ∧
        (requestsOf t.value).foldlM accept (ManifestSection.create s.access) = .ok s := by
    intro type htype hsome
    obtain ⟨t, ht, rfl, hread⟩ := (sections_of_ofBytes htype h).2 s hsome
    exact ⟨t, ht, htype, requests_of_ofWire hread⟩
  rcases hs with hs | hs
  · exact hof metaSectionType (by decide) hs
  · exact hof dataSectionType (by decide) hs

end Manifest

namespace ManifestSection

/-- No digest points to nothing. A section that is made by requests, whether they are accepted or
not, tells of each accepted digest the chunk and the bytes that it was given with, whatever is
requested behind it, and of no other digest. A digest is rejected exactly when its index is not in
use, which changes nothing. A section of a manifest that was read is the one of the entries in its
element, all of which are accepted; and no manifest is read in which a digest stands in front of its
chunk. -/
theorem references_hold :
    (∀ access rs more, ((create access).after rs).names = namesOf rs ∧
      ((create access).after rs).Refers (references [] rs) ∧
      (((create access).after rs).after more).Refers
        (references [] rs ++ references (namesOf rs) more)) ∧
    (∀ (s s' : ManifestSection) index digest err, s.addHash index digest = (.error err, s') ↔
      s.names.length ≤ index ∧ err = .invalidNameIndex index s.names.length ∧ s' = s) ∧
    (∀ (s : ManifestSection) index digest, s.names.length ≤ index →
      s.step (.hash index digest) = s) ∧
    (∀ b m s, Manifest.ofBytes b = .ok m → m.metaSection = some s ∨ m.dataSection = some s →
      ∃ t ∈ (Tlv.scan b).1, t.type ∈ Manifest.sectionTypes ∧
        (requestsOf t.value).foldlM accept (create s.access) = .ok s ∧
        ∀ more, (s.after more).Refers
          (references [] (requestsOf t.value) ++ references s.names more)) ∧
    (∀ b, Dangling b → ∃ err, ofWire b = .error err) ∧
    ∀ b, ∀ t ∈ (Tlv.scan b).1, t.type ∈ Manifest.sectionTypes → Dangling t.value →
      ∃ err, Manifest.ofBytes b = .error err := by
  refine ⟨fun access rs more => ⟨names_after _ rs, ?_, refers_after access rs more⟩,
    fun _ _ _ _ _ => addHash_eq_error_iff, fun _ _ digest h => step_hash_of_le h digest,
    fun b m s h hs => ?_, fun _ => ofWire_of_dangling, fun _ _ => Manifest.ofBytes_of_dangling⟩
  · have hrun := refers_after access rs []
    rwa [references, List.append_nil] at hrun
  · obtain ⟨t, ht, htype, hrequests⟩ := Manifest.exists_requests h hs
    have hs := after_of_foldlM hrequests
    have hnames := names_after (create s.access) (requestsOf t.value)
    have hrun := refers_after s.access (requestsOf t.value)
    rw [hs] at hnames hrun
    refine ⟨t, ht, htype, hrequests, fun more => ?_⟩
    rw [hnames]
    exact hrun more

/-! Requests of which two come before their chunks, and a manifest with a digest in front of its
chunk. -/

namespace Sample

/-- Two digests that are asked for twice, before and after the chunk they point to. -/
def asked : List Request :=
  [.hash 0 [1], .name .empty 3, .hash 0 [1], .hash 1 [2], .name Manifest.Sample.site 5, .hash 1 [2]]

/-- A section of a digest and the chunk it points to, in this order. -/
def misplaced : Tlv :=
  ⟨0x0003, [0, 3, 0, 10, 0, 1, 0, 1, 0, 0, 2, 0, 1, 0xFF, 0, 2, 0, 9, 0, 1, 0, 1, 9, 0, 0, 0, 0]⟩

theorem dangling_misplaced : Dangling misplaced.value :=
  ⟨[], ⟨0x0003, [0, 1, 0, 1, 0, 0, 2, 0, 1, 0xFF]⟩, [⟨0x0002, [0, 1, 0, 1, 9, 0, 0, 0, 0]⟩],
    ⟨0, [0xFF]⟩, by decide +kernel, rfl, by decide +kernel, Nat.le_refl 0⟩

end Sample

theorem references_hold_sample :
    references [] Sample.asked = [(⟨3, .empty⟩, [1]), (⟨5, Manifest.Sample.site⟩, [2])] ∧
      ((create none).after Sample.asked).Refers (references [] Sample.asked) ∧
      (create none).step (.hash 0 [1]) = create none ∧
      (Manifest.ofBytes Manifest.Sample.listing.wire = .ok Manifest.Sample.listing ∧
        ∃ t ∈ (Tlv.scan Manifest.Sample.listing.wire).1, t.type ∈ Manifest.sectionTypes ∧
          (requestsOf t.value).foldlM accept (create (some {})) = .ok Manifest.Sample.chunks ∧
          (Manifest.Sample.chunks.after [.hash 1 [3]]).Refers (references [] (requestsOf t.value) ++
            [(⟨0xFFFFFFFFFFFFFFFF, .empty⟩, [3])])) ∧
      (∃ err, ofWire Sample.misplaced.value = .error err) ∧
      ∃ err, Manifest.ofBytes (Tlv.toBytes ⟨0x0001, []⟩ ++ Sample.misplaced.toBytes) =
        .error err := by
  obtain ⟨hrun, -, hstep, hread, hsection, hmanifest⟩ := references_hold
  have hlisting : Manifest.ofBytes Manifest.Sample.listing.wire = .ok Manifest.Sample.listing := by
    decide +kernel
  obtain ⟨t, ht, htype, hrequests, hmore⟩ := hread _ _ Manifest.Sample.chunks hlisting (.inr rfl)
  have hmisplaced : Sample.misplaced ∈
      (Tlv.scan (Tlv.toBytes ⟨0x0001, []⟩ ++ Sample.misplaced.toBytes)).1 := by decide +kernel
  exact ⟨rfl, (hrun none Sample.asked []).2.1, hstep (create none) 0 [1] (Nat.le_refl 0),
    ⟨hlisting, t, ht, htype, hrequests, hmore [.hash 1 [3]]⟩,
    hsection _ Sample.dangling_misplaced,
    hmanifest _ _ hmisplaced (by decide) Sample.dangling_misplaced⟩

end ManifestSection

end NamedContent
