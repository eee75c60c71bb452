import SmmErrorLogger.Buffer.Entries

/-! A queue to which the BIOS appends entries byte by byte while the BMC reads it. -/

namespace SmmErrorLogger.Buffer

open Library.Bytes Library.Interaction Library.Circular
open Library.Interaction.Proc

/-- The region, the entries the BIOS appended, the entry it is storing with the number of its
bytes that are stored, and what was appended when the BMC last read the header. -/
structure SharedQueue where
  pci : PciDataHandler
  published : List EntryPair
  pending : Option (EntryPair × ℕ)
  snapshot : List EntryPair

namespace SharedQueue

variable {cfg : Config} {q q' : SharedQueue}

def used (cfg : Config) (q : SharedQueue) : ℤ :=
  (((headerAt q.pci.mmap).biosWritePtr : ℤ) - (headerAt q.pci.mmap).bmcReadPtr) % cfg.maxOffset

def storeAt (q : SharedQueue) (offset : ℕ) (bytes : List UInt8) : PciDataHandler :=
  { q.pci with mmap := store q.pci.mmap offset bytes }

inductive Produces (cfg : Config) (q : SharedQueue) : SharedQueue → Prop
  | begin (e : EntryPair) (hnone : q.pending = none) (he : ValidEntry e)
      (hfree : q.used cfg + (entryBytes e).length < (cfg.maxOffset : ℤ)) :
      Produces cfg q { q with pending := some (e, 0) }
  | write (e : EntryPair) (k : ℕ) (b : UInt8) (hpending : q.pending = some (e, k))
      (hb : (entryBytes e)[k]? = some b) :
      Produces cfg q { q with
        pci :=
          q.storeAt (cfg.queueOffset + ((headerAt q.pci.mmap).biosWritePtr + k) % cfg.maxOffset) [b]
        pending := some (e, k + 1) }
  | publish (e : EntryPair) (hpending : q.pending = some (e, (entryBytes e).length)) :
      Produces cfg q { q with
        pci := q.storeAt CircularBufferHeader.biosWritePtrOffset
          (littleEndian 3
            (((headerAt q.pci.mmap).biosWritePtr + (entryBytes e).length) % cfg.maxOffset))
        published := q.published ++ [e]
        pending := none }

def perform (s : WordSize) (q : SharedQueue) (op : DataOp) : DataInterface.Ans op × SharedQueue :=
  let (ans, pci) := q.pci.perform s op
  let snapshot := match op with
    | .read offset length =>
      if offset = 0 ∧ length = CircularBufferHeader.size then q.published else q.snapshot
    | _ => q.snapshot
  (ans, { q with pci, snapshot })

lemma perform_read_header {s : WordSize} : q.perform s (.read 0 CircularBufferHeader.size) =
    (q.pci.read 0 CircularBufferHeader.size, { q with snapshot := q.published }) := rfl

lemma perform_read_queue {s : WordSize} {offset length : ℕ}
    (h : length = 0 ∨ CircularBufferHeader.size ≤ offset) :
    q.perform s (.read offset length) = (q.pci.read offset length, q) := by
  have hne : ¬ (offset = 0 ∧ length = CircularBufferHeader.size) := by
    simp only [CircularBufferHeader.size] at *
    omega
  simp only [perform, PciDataHandler.perform, if_neg hne]
  rfl

lemma perform_write {s : WordSize} {offset : ℕ} {bytes : List UInt8}
    (h : offset + bytes.length ≤ q.pci.regionSize.toNat) (hl : bytes.length < 2 ^ 16) :
    q.perform s (.write offset bytes) =
      (bytes.length, { q with pci := q.storeAt offset bytes }) := by
  simp only [perform, PciDataHandler.perform, PciDataHandler.write_within h hl]
  rfl

def withProducer (cfg : Config) : Environment DataInterface SharedQueue where
  interferes := Produces cfg
  permits _ _ := True
  answers q op ans q' := q.perform cfg.sizeT op = (ans, q')

def reserved (q : SharedQueue) : List UInt8 :=
  match q.pending with
  | none => []
  | some (e, _) => entryBytes e

def written (q : SharedQueue) : List UInt8 :=
  match q.pending with
  | none => []
  | some (e, k) => (entryBytes e).take k

lemma reserved_some {e : EntryPair} {k : ℕ} (h : q.pending = some (e, k)) :
    q.reserved = entryBytes e := by
  rw [reserved, h]

lemma written_none (h : q.pending = none) : q.written = [] := by rw [written, h]

lemma written_some {e : EntryPair} {k : ℕ} (h : q.pending = some (e, k)) :
    q.written = (entryBytes e).take k := by
  rw [written, h]

structure Sound (cfg : Config) (consumed p : ℕ) (q : SharedQueue) : Prop where
  region : cfg.queueRegionSize ≤ q.pci.regionSize.toNat
  geometry : Geometry cfg (headerAt q.pci.mmap)
  writePtr : (headerAt q.pci.mmap).biosWritePtr = (batchBytes q.published).length % cfg.maxOffset
  readPtr : (headerAt q.pci.mmap).bmcReadPtr = p
  le : p ≤ cfg.maxOffset
  pos : p % cfg.maxOffset = consumed % cfg.maxOffset
  consumed_le : consumed ≤ (batchBytes q.published).length
  free : (batchBytes q.published).length + q.reserved.length ≤ consumed + (cfg.maxOffset - 1)
  valid : ∀ e ∈ q.published, ValidEntry e
  pendingValid : ∀ e k, q.pending = some (e, k) → ValidEntry e ∧ k ≤ (entryBytes e).length
  stores : Stores (queueCell cfg q.pci.mmap) cfg.maxOffset consumed
    (batchBytes q.published ++ q.written)

variable {consumed p : ℕ}

lemma Sound.withSnapshot (hs : Sound cfg consumed p q) (snapshot : List EntryPair) :
    Sound cfg consumed p { q with snapshot } :=
  { hs with }

lemma Sound.used_eq (hs : Sound cfg consumed p q) :
    q.used cfg = ((batchBytes q.published).length : ℤ) - consumed := by
  have hle := hs.consumed_le
  have hfree := hs.free
  rw [used, hs.writePtr, hs.readPtr]
  rcases Nat.eq_zero_or_pos cfg.maxOffset with hM | hM
  · have hpos := hs.pos
    rw [hM, Nat.mod_zero, Nat.mod_zero] at hpos
    simp [hM, hpos]
  · have hmod : (((batchBytes q.published).length % cfg.maxOffset : ℕ) - (p : ℤ)) % cfg.maxOffset =
        ((batchBytes q.published).length - (consumed : ℤ)) % cfg.maxOffset := by
      refine Int.ModEq.sub ?_ ?_
      · exact_mod_cast Nat.mod_modEq _ _
      · exact_mod_cast hs.pos
    rw [hmod, Int.emod_eq_of_lt (by omega) (by omega)]

lemma queueCell_store_outside {m : Memory} {off : ℕ} {bs : List UInt8}
    (h : off + bs.length ≤ CircularBufferHeader.size) :
    queueCell cfg (store m off bs) = queueCell cfg m := by
  funext j
  exact store_outside (Or.inr (by simp only [Config.queueOffset]; omega))

lemma Sound.cell (hfit : cfg.Fits) (hs : Sound cfg consumed p q) {i : ℕ}
    (hi : consumed + i < (batchBytes q.published).length) :
    cfg.queueOffset + (consumed + i) % cfg.maxOffset < q.pci.regionSize.toNat ∧
      queueCell cfg q.pci.mmap ((consumed + i) % cfg.maxOffset) =
        (batchBytes q.published)[consumed + i] := by
  have hfree := hs.free
  have hlt := Nat.mod_lt (consumed + i) (show cfg.maxOffset > 0 by omega)
  have hsize := hfit.maxOffset_eq
  have hregion := hs.region
  refine ⟨by omega, ?_⟩
  rw [hs.stores (consumed + i) (by omega) (by rw [List.length_append]; omega),
    List.getElem_append_left hi]

lemma Sound.consume (hfit : cfg.Fits) (hs : Sound cfg consumed p q) {consumed' p' : ℕ}
    (hge : consumed ≤ consumed') (hT : consumed' ≤ (batchBytes q.published).length)
    (hle : p' ≤ cfg.maxOffset) (hp : p' % cfg.maxOffset = consumed' % cfg.maxOffset) :
    Sound cfg consumed' p'
      { q with pci := q.storeAt CircularBufferHeader.bmcReadPtrOffset (littleEndian 3 p') } := by
  have hsize := hfit.maxOffset_eq
  have hlt := hfit.size_lt
  have hfree := hs.free
  have hheader : headerAt
    (q.storeAt CircularBufferHeader.bmcReadPtrOffset (littleEndian 3 p')).mmap =
      { headerAt q.pci.mmap with bmcReadPtr := p' } :=
    (headerAt_store_bmcReadPtr p').trans (by rw [Nat.mod_eq_of_lt (by omega)])
  have hcells : queueCell cfg
    (q.storeAt CircularBufferHeader.bmcReadPtrOffset (littleEndian 3 p')).mmap =
      queueCell cfg q.pci.mmap :=
    queueCell_store_outside (by
      simp only [littleEndian_length, CircularBufferHeader.bmcReadPtrOffset,
        CircularBufferHeader.size]
      omega)
  refine ⟨hs.region, ?_, ?_, ?_, hle, hp, hT, hfree.trans (by omega), hs.valid, hs.pendingValid, ?_⟩
  · rw [hheader]
    exact hs.geometry
  · rw [hheader]
    exact hs.writePtr
  · rw [hheader]
  · rw [hcells]
    exact hs.stores.mono hge

lemma Sound.begins (hs : Sound cfg consumed p q) {e : EntryPair} (hnone : q.pending = none)
    (he : ValidEntry e) (hfree : q.used cfg + (entryBytes e).length < (cfg.maxOffset : ℤ)) :
    Sound cfg consumed p { q with pending := some (e, 0) } := by
  have hroom := hs.free
  rw [hs.used_eq] at hfree
  have hstores := hs.stores
  rw [written_none hnone] at hstores
  refine { hs with free := ?_, pendingValid := ?_, stores := hstores }
  · simp only [reserved]
    omega
  · rintro _ _ ⟨⟩
    exact ⟨he, Nat.zero_le _⟩

lemma Sound.writes (hs : Sound cfg consumed p q) {e : EntryPair} {k : ℕ} {b : UInt8}
    (hpending : q.pending = some (e, k)) (hb : (entryBytes e)[k]? = some b) :
    Sound cfg consumed p { q with
      pci :=
        q.storeAt (cfg.queueOffset + ((headerAt q.pci.mmap).biosWritePtr + k) % cfg.maxOffset) [b]
      pending := some (e, k + 1) } := by
  have hroom := hs.free
  have hle := hs.consumed_le
  obtain ⟨he, hk⟩ := hs.pendingValid e k hpending
  obtain ⟨hlt, rfl⟩ := List.getElem?_eq_some_iff.mp hb
  rw [reserved_some hpending] at hroom
  have hstream :
      (batchBytes q.published ++ q.written).length = (batchBytes q.published).length + k := by
    rw [written_some hpending, List.length_append, List.length_take, min_eq_left hk]
  have hcell : ((headerAt q.pci.mmap).biosWritePtr + k) % cfg.maxOffset =
      (batchBytes q.published ++ q.written).length % cfg.maxOffset := by
    rw [hs.writePtr, hstream, Nat.mod_add_mod]
  rw [hcell]
  generalize hpos : cfg.queueOffset + (batchBytes q.published ++ q.written).length %
    cfg.maxOffset = pos
  have hheader : headerAt (q.storeAt pos [(entryBytes e)[k]]).mmap = headerAt q.pci.mmap :=
    headerAt_store_outside (by simp only [← hpos, Config.queueOffset]; omega)
  have hstores : Stores (queueCell cfg (q.storeAt pos [(entryBytes e)[k]]).mmap)
    cfg.maxOffset consumed
      (batchBytes q.published ++ (entryBytes e).take (k + 1)) := by
    have hpush := hs.stores.push (x := (entryBytes e)[k]) (by omega)
    rwa [← queueCell_store_inside, hpos, written_some hpending, List.append_assoc,
      ← List.take_succ_eq_append_getElem hlt] at hpush
  refine ⟨hs.region, ?_, ?_, ?_, hs.le, hs.pos, hs.consumed_le, hroom, hs.valid, ?_, hstores⟩
  · rw [hheader]
    exact hs.geometry
  · rw [hheader]
    exact hs.writePtr
  · rw [hheader]
    exact hs.readPtr
  · rintro _ _ ⟨⟩
    exact ⟨he, hlt⟩

lemma Sound.publishes (hfit : cfg.Fits) (hs : Sound cfg consumed p q) {e : EntryPair}
    (hpending : q.pending = some (e, (entryBytes e).length)) :
    Sound cfg consumed p { q with
      pci := q.storeAt CircularBufferHeader.biosWritePtrOffset
        (littleEndian 3
          (((headerAt q.pci.mmap).biosWritePtr + (entryBytes e).length) % cfg.maxOffset))
      published := q.published ++ [e]
      pending := none } := by
  have hroom := hs.free
  have hle := hs.consumed_le
  obtain ⟨he, -⟩ := hs.pendingValid e _ hpending
  rw [reserved_some hpending] at hroom
  have hbatch : batchBytes (q.published ++ [e]) = batchBytes q.published ++ entryBytes e := by
    rw [batchBytes_append, batchBytes_cons, batchBytes_nil, List.append_nil]
  have hlength := congrArg List.length hbatch
  rw [List.length_append] at hlength
  have hptr : ((headerAt q.pci.mmap).biosWritePtr + (entryBytes e).length) % cfg.maxOffset =
      (batchBytes (q.published ++ [e])).length % cfg.maxOffset := by
    rw [hs.writePtr, hlength, Nat.mod_add_mod]
  rw [hptr]
  have hsmall : (batchBytes (q.published ++ [e])).length % cfg.maxOffset % 2 ^ 24 =
      (batchBytes (q.published ++ [e])).length % cfg.maxOffset := by
    have hpos : 0 < cfg.maxOffset := by
      rw [entryBytes_length, QueueEntryHeader.size] at hroom
      omega
    have hlt := Nat.mod_lt (batchBytes (q.published ++ [e])).length hpos
    have hsize := hfit.maxOffset_eq
    have hregion := hfit.size_lt
    exact Nat.mod_eq_of_lt (by omega)
  have hheader : headerAt (q.storeAt CircularBufferHeader.biosWritePtrOffset (littleEndian 3
      ((batchBytes (q.published ++ [e])).length % cfg.maxOffset))).mmap = { headerAt q.pci.mmap with
        biosWritePtr := (batchBytes (q.published ++ [e])).length % cfg.maxOffset } :=
    (headerAt_store_biosWritePtr _).trans (by rw [hsmall])
  refine ⟨hs.region, ?_, ?_, ?_, hs.le, hs.pos, ?_, ?_, ?_, ?_, ?_⟩
  · rw [hheader]
    exact hs.geometry
  · rw [hheader]
  · rw [hheader]
    exact hs.readPtr
  · rw [hlength]
    omega
  · rw [hlength]
    exact hroom
  · intro f hf
    rcases List.mem_append.mp hf with hf | hf
    · exact hs.valid f hf
    · exact List.mem_singleton.mp hf ▸ he
  · rintro _ _ ⟨⟩
  · have hstores := hs.stores
    rw [written_some hpending, List.take_length, ← hbatch] at hstores
    have hcells : queueCell cfg (q.storeAt CircularBufferHeader.biosWritePtrOffset (littleEndian 3
        ((batchBytes (q.published ++ [e])).length % cfg.maxOffset))).mmap =
          queueCell cfg q.pci.mmap :=
      queueCell_store_outside (by
        simp only [littleEndian_length, CircularBufferHeader.biosWritePtrOffset,
          CircularBufferHeader.size]
        omega)
    rw [hcells]
    simpa [written] using hstores

theorem Sound.produces (hfit : cfg.Fits) (hs : Sound cfg consumed p q) (h : Produces cfg q q') :
    Sound cfg consumed p q' := by
  cases h with
  | begin e hnone he hfree => exact hs.begins hnone he hfree
  | write e k b hpending hb => exact hs.writes hpending hb
  | publish e hpending => exact hs.publishes hfit hpending

def storeEntry (cfg : Config) (q : SharedQueue) (e : EntryPair) : ℕ → SharedQueue
  | 0 => { q with pending := some (e, 0) }
  | k + 1 =>
    let stored := q.storeEntry cfg e k
    { stored with
      pci := stored.storeAt
        (cfg.queueOffset + ((headerAt stored.pci.mmap).biosWritePtr + k) % cfg.maxOffset)
        [(entryBytes e).getD k 0]
      pending := some (e, k + 1) }

def append (cfg : Config) (q : SharedQueue) (e : EntryPair) : SharedQueue :=
  let stored := q.storeEntry cfg e (entryBytes e).length
  { stored with
    pci := stored.storeAt CircularBufferHeader.biosWritePtrOffset
      (littleEndian 3
        (((headerAt stored.pci.mmap).biosWritePtr + (entryBytes e).length) % cfg.maxOffset))
    published := stored.published ++ [e]
    pending := none }

lemma storeEntry_pending (e : EntryPair) (k : ℕ) :
    (q.storeEntry cfg e k).pending = some (e, k) := by
  cases k <;> rfl

lemma storeEntry_produces {e : EntryPair} (hnone : q.pending = none) (he : ValidEntry e)
    (hfree : q.used cfg + (entryBytes e).length < (cfg.maxOffset : ℤ)) {k : ℕ}
    (hk : k ≤ (entryBytes e).length) :
    Relation.ReflTransGen (Produces cfg) q (q.storeEntry cfg e k) := by
  induction k with
  | zero => exact .single (.begin e hnone he hfree)
  | succ k ih =>
    refine (ih (by omega)).tail (.write e k _ (storeEntry_pending e k) ?_)
    rw [List.getD_eq_getElem?_getD, List.getElem?_eq_getElem (show k < _ by omega),
      Option.getD_some]

theorem append_produces {e : EntryPair} (hnone : q.pending = none) (he : ValidEntry e)
    (hfree : q.used cfg + (entryBytes e).length < (cfg.maxOffset : ℤ)) :
    Relation.ReflTransGen (Produces cfg) q (q.append cfg e) :=
  (storeEntry_produces hnone he hfree le_rfl).tail (.publish e (storeEntry_pending e _))

end SharedQueue

end SmmErrorLogger.Buffer
