import SmmErrorLogger.Buffer.ErrorLogs
import SmmErrorLogger.Buffer.Initialization
import SmmErrorLogger.Buffer.SharedQueue
import SmmErrorLogger.Library.Service

/-! Every entry that the BIOS appends is delivered once, in order. -/

namespace SmmErrorLogger.Buffer

open Library.Bytes Library.Interaction Library.Circular
open Library.Interaction.Proc

variable {cfg : Config} {q q' : SharedQueue}

namespace SharedQueue

structure Reading (cfg : Config) (snap : List EntryPair) (start c p : ℕ) (q : SharedQueue) :
    Prop where
  sound : Sound cfg (start + c) p q
  published : snap <+: q.published
  snapshot : q.snapshot = snap

lemma Produces.published (h : Produces cfg q q') :
    q.published <+: q'.published ∧ q'.snapshot = q.snapshot := by
  cases h with
  | begin => exact ⟨List.prefix_rfl, rfl⟩
  | write => exact ⟨List.prefix_rfl, rfl⟩
  | publish e => exact ⟨List.prefix_append _ _, rfl⟩

structure GoesOn (cfg : Config) (q q' : SharedQueue) : Prop where
  published : q.published <+: q'.published
  snapshot : q'.snapshot = q.snapshot
  sound : ∀ {consumed p}, Sound cfg consumed p q → Sound cfg consumed p q'

lemma Produces.goesOn (hfit : cfg.Fits) (h : Produces cfg q q') : GoesOn cfg q q' :=
  ⟨h.published.1, h.published.2, fun hs => hs.produces hfit h⟩

structure HasQueue (cfg : Config) {W : Type} (E : Environment DataInterface W)
    (queue : W → SharedQueue) : Prop where
  permits : ∀ w op, E.permits w op
  interferes : ∀ {w w'}, E.interferes w w' → GoesOn cfg (queue w) (queue w')
  answers : ∀ {w op ans w'}, E.answers w op ans w' →
    (queue w).perform cfg.sizeT op = (ans, queue w')

lemma withProducer_hasQueue (hfit : cfg.Fits) : HasQueue cfg (withProducer cfg) id where
  permits _ _ := trivial
  interferes h := Produces.goesOn hfit h
  answers h := h

section HasQueue

variable {W : Type} {E : Environment DataInterface W} {queue : W → SharedQueue}
  (V : HasQueue cfg E queue)
include V

lemma HasQueue.reader (hfit : cfg.Fits) {m : Memory} {snap : List EntryPair} {start r : ℕ}
    (hm : Stores (queueCell cfg m) cfg.maxOffset start (batchBytes snap))
    (hr : r % cfg.maxOffset = start % cfg.maxOffset) :
    Reader cfg E m (fun _ => True) r (fun n => start + n ≤ (batchBytes snap).length) False
      (fun c p w => Reading cfg snap start c p (queue w)) where
  stable h hp := by
    have hgo := V.interferes hp
    exact ⟨hgo.sound h.sound, h.published.trans hgo.published, hgo.snapshot.trans h.snapshot⟩
  read := by
    intro c p n w off len hJ hn hcells
    refine ⟨V.permits w _, ?_⟩
    rintro bytes w' ha
    have hsnap := batchBytes_mono hJ.published
    have hT := hsnap.length_le
    have hcell : ∀ i < len, off + i < (queue w).pci.regionSize.toNat ∧
      (queue w).pci.mmap (off + i) = m (off + i) ∧
        CircularBufferHeader.size ≤ off + i := by
      intro i hi
      obtain ⟨k, hk, hoff⟩ := hcells i hi
      have hmod : (r + c + k) % cfg.maxOffset = (start + c + k) % cfg.maxOffset :=
        Nat.ModEq.add_right k (Nat.ModEq.add_right c hr)
      rw [hmod] at hoff
      obtain ⟨hin, hq⟩ := hJ.sound.cell hfit (i := k) (by omega)
      have hstored := hm (start + c + k) (by omega) (by omega)
      rw [← hsnap.getElem (by omega), ← hstored] at hq
      rw [hoff]
      exact ⟨hin, hq, by simp only [Config.queueOffset]; omega⟩
    have hqueue : len = 0 ∨ CircularBufferHeader.size ≤ off := by
      rcases Nat.eq_zero_or_pos len with h | h
      · exact Or.inl h
      · exact Or.inr (hcell 0 h).2.2
    obtain ⟨rfl, hsame⟩ := Prod.mk.inj ((perform_read_queue hqueue).symm.trans (V.answers ha))
    refine ⟨hsame ▸ hJ, Or.inl ⟨?_, fun _ _ => trivial⟩⟩
    rw [← load_congr (fun i hi => (hcell i hi).2.1)]
    rcases Nat.eq_zero_or_pos len with rfl | h
    · simp [PciDataHandler.read, load]
    · have := (hcell (len - 1) (by omega)).1
      exact PciDataHandler.read_within (by omega)
  write := by
    intro c p n p' w hJ hn hle hp
    refine ⟨V.permits w _, ?_⟩
    rintro written w' ha
    have hs := hJ.sound
    have hsize := hfit.maxOffset_eq
    have hlt := hfit.size_lt
    have hregion := hs.region
    have hlen : (littleEndian 3 p').length = 3 := littleEndian_length 3 p'
    have hin : CircularBufferHeader.bmcReadPtrOffset + (littleEndian 3 p').length ≤
        (queue w).pci.regionSize.toNat := by
      have := hfit.regions
      rw [hlen]
      simp only [Config.queueOffset, CircularBufferHeader.size,
        CircularBufferHeader.bmcReadPtrOffset] at *
      omega
    obtain ⟨rfl, hsame⟩ := Prod.mk.inj ((perform_write hin (by omega)).symm.trans (V.answers ha))
    refine Or.inl ⟨hlen, ?_⟩
    rw [← hsame]
    refine ⟨?_, hJ.published, hJ.snapshot⟩
    have hT := (batchBytes_mono hJ.published).length_le
    exact hs.consume hfit (by omega) (by omega) hle (hp.trans (Nat.ModEq.add_right _ hr))

end HasQueue

structure Consumed (cfg : Config) (c : List EntryPair) (q : SharedQueue) : Prop where
  sound : Sound cfg (batchBytes c).length ((batchBytes c).length % cfg.maxOffset) q
  published : c <+: q.published

lemma Consumed.goesOn {c : List EntryPair} (hc : Consumed cfg c q) (h : GoesOn cfg q q') :
    Consumed cfg c q' :=
  ⟨h.sound hc.sound, hc.published.trans h.published⟩

structure Idle (cfg : Config) (q : SharedQueue) : Prop where
  sound : Sound cfg (batchBytes q.snapshot).length
    ((batchBytes q.snapshot).length % cfg.maxOffset) q
  snapshot : q.snapshot <+: q.published

lemma Idle.produces (hfit : cfg.Fits) (hi : Idle cfg q) (h : Produces cfg q q') : Idle cfg q' := by
  obtain ⟨hpublished, hsnapshot⟩ := h.published
  refine ⟨?_, hsnapshot ▸ hi.snapshot.trans hpublished⟩
  rw [hsnapshot]
  exact hi.sound.produces hfit h

lemma Idle.consumed (hi : Idle cfg q) : Consumed cfg q.snapshot q := ⟨hi.sound, hi.snapshot⟩

lemma Sound.accepted {consumed : ℕ} (hs : Sound cfg consumed (consumed % cfg.maxOffset) q) :
    Accepted cfg (headerAt q.pci.mmap) ∧
      unread cfg (headerAt q.pci.mmap) = (batchBytes q.published).length - consumed := by
  have hle := hs.le
  have hfree := hs.free
  have hconsumed := hs.consumed_le
  obtain ⟨d, hd⟩ := Nat.exists_eq_add_of_le hconsumed
  have hw := hs.writePtr
  have hr := hs.readPtr
  rcases Nat.eq_zero_or_pos cfg.maxOffset with hM | hM
  · simp only [hM, Nat.mod_zero] at *
    refine ⟨⟨hs.geometry, by omega, by omega⟩, ?_⟩
    rw [unread, if_pos (by omega)]
    omega
  · have hlt := Nat.mod_lt (batchBytes q.published).length hM
    have hlt' := Nat.mod_lt consumed hM
    have hmod : (batchBytes q.published).length % cfg.maxOffset =
        if consumed % cfg.maxOffset + d < cfg.maxOffset then consumed % cfg.maxOffset + d
        else consumed % cfg.maxOffset + d - cfg.maxOffset := by
      rw [hd, ← Nat.mod_add_mod]
      split_ifs with h
      · exact Nat.mod_eq_of_lt h
      · rw [Nat.mod_eq_sub_mod (not_lt.mp h), Nat.mod_eq_of_lt (by omega)]
    refine ⟨⟨hs.geometry, by omega, by omega⟩, ?_⟩
    rw [unread]
    split_ifs at hmod ⊢ <;> omega

lemma Reading.idle {snap : List EntryPair} {start c p : ℕ} (hr : Reading cfg snap start c p q)
    (hc : start + c = (batchBytes snap).length)
    (hp : p = (batchBytes snap).length % cfg.maxOffset) :
    Idle cfg q := by
  obtain ⟨hs, hsnap, rfl⟩ := hr
  refine ⟨?_, hsnap⟩
  rwa [← hp, ← hc]

lemma Consumed.parses {c es : List EntryPair} (hc : Consumed cfg c q)
    (hes : c ++ es = q.published) :
    Parses cfg q.pci.mmap (headerAt q.pci.mmap).bmcReadPtr
      (unread cfg (headerAt q.pci.mmap)) 0 es := by
  have hs := hc.sound
  have hfree := hs.free
  have hbatch := congrArg batchBytes hes
  rw [batchBytes_append] at hbatch
  have hlen := congrArg List.length hbatch
  rw [List.length_append] at hlen
  rw [hs.accepted.2, hs.readPtr]
  refine .of_window (fun e he => hs.valid e (by rw [← hes]; exact List.mem_append_right _ he))
    (fun e he => ?_) ?_ ?_ (by omega) ?_
  · have := entry_length_le he
    omega
  · rcases es with - | ⟨e, es⟩
    · exact Or.inr rfl
    · rw [batchBytes_cons, List.length_append, entryBytes_length] at hlen
      exact Or.inl (by omega)
  · rw [Nat.add_zero, queueWindow_mod cfg _ (Nat.mod_mod _ _), queueWindow,
      (hs.stores.take (List.prefix_append _ _)).window (by omega), ← hbatch, List.drop_left,
      List.take_length]
  · rintro fs gs rfl hgs
    have hpos := Nat.pos_of_ne_zero (fun h => hgs (batchBytes_eq_nil h))
    rw [batchBytes_append, List.length_append] at hlen
    omega

section HasQueue

variable {W : Type} {E : Environment DataInterface W} {queue : W → SharedQueue}
  (V : HasQueue cfg E queue)
include V

lemma HasQueue.consumed_later {c : List EntryPair} {w w' : W} (hc : Consumed cfg c (queue w))
    (h : E.Later w w') :
    Consumed cfg c (queue w') ∧ (queue w).published <+: (queue w').published := by
  induction h with
  | refl => exact ⟨hc, List.prefix_rfl⟩
  | tail _ hs ih => exact ⟨ih.1.goesOn (V.interferes hs), ih.2.trans (V.interferes hs).published⟩

theorem HasQueue.readErrorLogs_delivers (hfit : cfg.Fits) {c : List EntryPair} {w : W}
    (hc : Consumed cfg c (queue w)) (h : CircularBufferHeader) :
    (readErrorLogs cfg).Ensures E (fun es _ w' => (queue w').snapshot = c ++ es ∧
      (queue w).published <+: c ++ es ∧ Idle cfg (queue w')) (fun _ _ _ => False) h w := by
  refine readErrorLogs_ensures (readBufferHeader_ensures (fun w₁ hw₁ => ⟨V.permits w₁ _, ?_⟩))
  rintro bytes w₂ ha w₃ hw₃
  obtain ⟨rfl, hq₂⟩ := Prod.mk.inj (perform_read_header.symm.trans (V.answers ha))
  obtain ⟨hc₁, hbase⟩ := V.consumed_later hc hw₁
  generalize hq₁ : queue w₁ = q₁ at *
  have hs := hc₁.sound
  obtain ⟨es, hes⟩ := hc₁.published
  have hlen := congrArg (fun es => (batchBytes es).length) hes
  simp only [batchBytes_append, List.length_append] at hlen
  have hin : 0 + CircularBufferHeader.size ≤ q₁.pci.regionSize.toNat := by
    have := hs.region
    have := hfit.regions
    simp only [Config.queueOffset] at this
    omega
  rw [PciDataHandler.read_within hin, if_pos load_length, ← headerAt]
  have hparses := hc₁.parses hes
  obtain ⟨hacc, hunread⟩ := hs.accepted
  have R := V.reader hfit (hs.stores.take (List.prefix_append _ _)) (Nat.mod_mod _ cfg.maxOffset)
  have hreading : Reading cfg q₁.published (batchBytes c).length 0
      ((batchBytes c).length % cfg.maxOffset) (queue w₂) := by
    rw [← hq₂]
    exact ⟨hs.withSnapshot _, List.prefix_rfl, rfl⟩
  replace hreading := R.later hreading hw₃
  refine ⟨fun _ => hfit, fun hn => (hn hacc).elim, fun _ heq w₄ hw₄ => ?_, fun _ _ => ?_⟩
  · have hnil : es = [] := by
      have hzero : unread cfg (headerAt q₁.pci.mmap) = 0 := by rw [unread]; exact if_pos heq
      exact batchBytes_eq_nil (by omega)
    have hreading := R.later hreading hw₄
    rw [hnil, List.append_nil] at hes
    rw [List.append_nil, hes]
    refine ⟨hreading.snapshot, hbase, hreading.idle ?_ ?_⟩ <;> rw [hes]
    rfl
  · have hto : ReadTo cfg ((batchBytes c).length % cfg.maxOffset)
        (fun n p w => Reading cfg q₁.published (batchBytes c).length n p (queue w))
        (headerAt q₁.pci.mmap) 0
        (headerAt q₁.pci.mmap) w₃ :=
      ⟨hacc.bmcReadPtr, by rw [hs.readPtr, Nat.add_zero], rfl, by rw [hs.readPtr]; exact hreading⟩
    have hready : Reader.Ready cfg q₁.pci.mmap ((batchBytes c).length % cfg.maxOffset)
        (unread cfg (headerAt q₁.pci.mmap))
        (fun n => (batchBytes c).length + n ≤ (batchBytes q₁.published).length) False 0 :=
      Or.inr ⟨es, by rwa [← hs.readPtr], fun k hk => by omega⟩
    apply (R.readEntries_ensures hfit hacc.geometry [] (by omega) hready hto).mono ?_
      (fun _ _ _ hX => hX)
    rintro es' h₁ w₄ ⟨_, rfl, hes', hend, -, -, hto₁⟩ w₅ hw₅
    rw [← hs.readPtr] at hes'
    obtain rfl := hes'.unique hparses
    rw [Nat.zero_add] at hto₁
    have hptr : h₁.bmcReadPtr = (batchBytes q₁.published).length % cfg.maxOffset := by
      have hpos := hto₁.pos
      rw [Nat.mod_add_mod, hlen] at hpos
      rw [← hpos]
      rcases Nat.eq_zero_or_pos cfg.maxOffset with hM | hM
      · rw [hM, Nat.mod_zero]
      · refine (Nat.mod_eq_of_lt (lt_of_le_of_ne hto₁.le fun he => ?_)).symm
        have hstart := (hend he).1
        rw [hs.readPtr] at hstart
        exact (Nat.mod_lt _ hM).ne hstart
    have hreading := R.later hto₁.world hw₅
    rw [if_pos (hs.writePtr.trans hptr.symm), hes]
    exact ⟨hreading.snapshot, hbase, hreading.idle hlen hptr⟩

end HasQueue

def initial (pci : PciDataHandler) : SharedQueue := ⟨pci, [], none, []⟩

def Delivered (cfg : Config) (before : List EntryPair) (n : ℕ) (q : SharedQueue)
    (_ : CircularBufferHeader) (results : List (Except BufferError (List EntryPair))) : Prop :=
  ∃ lists : List (List EntryPair), results = lists.map .ok ∧ lists.flatten = q.snapshot ∧
    Idle cfg q ∧ before <+: q.published ∧ n ≤ lists.length ∧
      (n < lists.length → before <+: (lists.take (n + 1)).flatten)

def DeliveredPrefix (before : List EntryPair) (n : ℕ) (q : SharedQueue)
    (results : List (Except BufferError (List EntryPair))) : Prop :=
  ∃ lists : List (List EntryPair), results = lists.map .ok ∧ lists.flatten <+: q.snapshot ∧
    q.snapshot <+: q.published ∧ (n < lists.length → before <+: (lists.take (n + 1)).flatten)

variable {before : List EntryPair} {n : ℕ}

lemma Delivered.produces (hfit : cfg.Fits) {h : CircularBufferHeader}
    {results : List (Except BufferError (List EntryPair))} (hd : Delivered cfg before n q h results)
    (hp : Produces cfg q q') : Delivered cfg before n q' h results := by
  obtain ⟨lists, hresults, hflat, hi, hbefore, hdelivered⟩ := hd
  exact ⟨lists, hresults, hflat.trans hp.published.2.symm, hi.produces hfit hp,
    hbefore.trans hp.published.1, hdelivered⟩

lemma take_succ_append {α : Type} {xs : List α} (x : α) (hn : n ≤ xs.length) :
    (xs ++ [x]).take (n + 1) = if n < xs.length then xs.take (n + 1) else xs ++ [x] := by
  split_ifs with h
  · exact List.take_append_of_le_length h
  · exact List.take_of_length_le (by rw [List.length_append, List.length_singleton]; omega)

lemma Delivered.body (hfit : cfg.Fits) {h : CircularBufferHeader}
    {results : List (Except BufferError (List EntryPair))}
    (hd : Delivered cfg before n q h results) :
    (readErrorLogs cfg h).Ensures (withProducer cfg)
      (fun r q' => Delivered cfg before n q' r.2 (results ++ [r.1])) q := by
  obtain ⟨lists, rfl, hflat, hi, hbefore, hn, hdelivered⟩ := hd
  apply Prog.Ensures.mono ((withProducer_hasQueue hfit).readErrorLogs_delivers hfit hi.consumed h)
  rintro ⟨e | es, h'⟩ q' hends
  · exact hends.elim
  · obtain ⟨hsnapshot, hpublished, hi'⟩ := hends
    have hflatten : (lists ++ [es]).flatten = q.snapshot ++ es := by
      rw [List.flatten_append, List.flatten_singleton, hflat]
    have hlists : (lists ++ [es]).flatten = q'.snapshot := hflatten.trans hsnapshot.symm
    have hall : before <+: (lists ++ [es]).flatten := hflatten ▸ hbefore.trans hpublished
    refine ⟨lists ++ [es],
      by simp, hlists, hi', (hlists ▸ hall).trans hi'.snapshot, ?_, fun _ => ?_⟩
    · rw [List.length_append]
      exact hn.trans (Nat.le_add_right _ _)
    · rw [take_succ_append es hn]
      split_ifs with hlt
      · exact hdelivered hlt
      · exact hall

lemma DeliveredPrefix.produces {results : List (Except BufferError (List EntryPair))}
    (hd : DeliveredPrefix before n q results) (hp : Produces cfg q q') :
    DeliveredPrefix before n q' results := by
  obtain ⟨lists, hresults, hflat, hprefix, hdelivered⟩ := hd
  obtain ⟨hpublished, hsnapshot⟩ := hp.published
  exact ⟨lists, hresults, hsnapshot ▸ hflat, hsnapshot ▸ hprefix.trans hpublished, hdelivered⟩

lemma DeliveredPrefix.perform {results : List (Except BufferError (List EntryPair))} {op : DataOp}
    {ans : DataInterface.Ans op} (hd : DeliveredPrefix before n q results)
    (ha : (withProducer cfg).answers q op ans q') : DeliveredPrefix before n q' results := by
  obtain rfl : (q.perform cfg.sizeT op).2 = q' := congrArg Prod.snd ha
  obtain ⟨lists, hresults, hflat, hprefix, hdelivered⟩ := hd
  refine ⟨lists, hresults, ?_, ?_, hdelivered⟩
  · cases op with
    | read =>
      simp only [SharedQueue.perform]
      split_ifs
      · exact hflat.trans hprefix
      · exact hflat
    | _ => exact hflat
  · cases op with
    | read =>
      simp only [SharedQueue.perform]
      split_ifs
      · exact List.prefix_rfl
      · exact hprefix
    | _ => exact hprefix

lemma Delivered.weaken {h : CircularBufferHeader}
    {results : List (Except BufferError (List EntryPair))}
    (hd : Delivered cfg before n q h results) : DeliveredPrefix before n q results := by
  obtain ⟨lists, hresults, hflat, hi, -, -, hdelivered⟩ := hd
  exact ⟨lists, hresults, hflat ▸ List.prefix_rfl, hi.snapshot, hdelivered⟩

lemma Delivered.since {h : CircularBufferHeader}
    {results : List (Except BufferError (List EntryPair))}
    (hd : Delivered cfg before n q h results) :
    Delivered cfg q.published results.length q h results := by
  obtain ⟨lists, rfl, hflat, hi, -⟩ := hd
  exact ⟨lists, rfl, hflat, hi, List.prefix_rfl, List.length_map _ |>.le, fun hlt => by simp at hlt⟩

lemma initial_delivered (hsize : cfg.queueOffset ≤ cfg.queueRegionSize)
    (hlt : cfg.queueRegionSize < 2 ^ 16) {pci pci₀ : PciDataHandler} {h h₀ : CircularBufferHeader}
    (hregion : cfg.queueRegionSize ≤ pci.regionSize.toNat)
    (hinit : (initializeFromConfig cfg h).run (PciDataHandler.perform cfg.sizeT) pci =
      ((.ok (), h₀), pci₀)) :
    Delivered cfg [] 0 (initial pci₀) h₀ [] := by
  obtain ⟨pci', hrun, hsame, hheader, -⟩ := initializeFromConfig_run (h := h) hsize hlt hregion
  obtain ⟨-, rfl⟩ := Prod.mk.inj (hinit.symm.trans hrun)
  have hidle : Idle cfg (initial pci₀) := by
    refine ⟨?_, List.prefix_rfl⟩
    have hzero : (batchBytes (initial pci₀).snapshot).length % cfg.maxOffset = 0 := Nat.zero_mod _
    rw [hzero]
    refine ⟨by rwa [← hsame] at hregion, ?_, ?_, ?_, Nat.zero_le _,
      (Nat.zero_mod _).trans hzero.symm, le_rfl, Nat.zero_le _, by simp [initial],
      by simp [initial], fun i _ hi => ?_⟩
    · exact hheader ▸ initializedFromConfig_geometry hsize hlt
    · exact (congrArg _ hheader).trans hzero.symm
    · exact congrArg _ hheader
    · simp [initial, written] at hi
  exact ⟨[], rfl, rfl, hidle, List.nil_prefix, le_rfl, fun hpos => absurd hpos (lt_irrefl 0)⟩

abbrev ServiceState :=
  Service.State DataInterface SharedQueue CircularBufferHeader BufferError (List EntryPair)

def DeliveredInOrder (s : ServiceState) : Prop :=
  ∃ lists : List (List EntryPair), s.results = lists.map .ok ∧ lists.flatten <+: s.world.snapshot ∧
    s.world.snapshot <+: s.world.published ∧
    ∀ h, s.thread = .idle h → lists.flatten = s.world.snapshot

def DeliveredSince (s₁ s : ServiceState) : Prop :=
  ∀ h (lists : List (List EntryPair)), s₁.thread = .idle h → s.results = lists.map .ok →
    s₁.results.length < s.results.length →
    s₁.world.published <+: (lists.take (s₁.results.length + 1)).flatten

lemma ok_injective :
    Function.Injective (Except.ok : List EntryPair → Except BufferError (List EntryPair)) :=
  fun _ _ he => Except.ok.inj he

abbrev FifoRun (cfg : Config) : ServiceState → ServiceState → Prop :=
  Service.Run (withProducer cfg) (fun _ : Unit => readErrorLogs cfg) (fun _ => True)

lemma run_delivered (hfit : cfg.Fits) {s s' : ServiceState} (hrun : FifoRun cfg s s')
    (hs : Service.Holds (withProducer cfg) (Delivered cfg before n) s) :
    Service.Holds (withProducer cfg) (Delivered cfg before n) s' :=
  Service.run_holds (fun _ _ _ _ hp hd => hd.produces hfit hp)
    (fun _ _ _ _ _ hd => hd.body hfit) hrun hs

lemma run_deliveredPrefix (hfit : cfg.Fits) {s s' : ServiceState} (hrun : FifoRun cfg s s')
    (hs : Service.Holds (withProducer cfg) (Delivered cfg before n) s)
    (hw : DeliveredPrefix before n s.world s.results) :
    DeliveredPrefix before n s'.world s'.results :=
  Service.run_world (I := Delivered cfg before n) (fun _ _ _ _ hp hd => hd.produces hfit hp)
    (fun _ _ _ _ _ hd => hd.body hfit) (fun _ _ _ hp hd => hd.produces hp)
    (fun _ _ _ _ _ _ ha hd => hd.perform ha) (fun _ _ _ _ hd _ => hd.weaken) hrun hs hw

theorem readErrorLogs_fifo (hsize : cfg.queueOffset ≤ cfg.queueRegionSize)
    (hlt : cfg.queueRegionSize ≤ 65535) {pci pci₀ : PciDataHandler} {h h₀ : CircularBufferHeader}
    (hregion : cfg.queueRegionSize ≤ pci.regionSize.toNat)
    (hinit : (initializeFromConfig cfg h).run (PciDataHandler.perform cfg.sizeT) pci =
      ((.ok (), h₀), pci₀))
    {s₁ s : ServiceState} (hrun₁ : FifoRun cfg ⟨initial pci₀, .idle h₀, []⟩ s₁)
    (hrun : FifoRun cfg s₁ s) :
    DeliveredInOrder s ∧ DeliveredSince s₁ s := by
  have hfit : cfg.Fits := ⟨hsize, by omega⟩
  have hstart := initial_delivered hsize (by omega) hregion hinit
  have hholds₁ := run_delivered hfit hrun₁ hstart
  have hholds := run_delivered hfit hrun hholds₁
  constructor
  · obtain ⟨lists, hresults, hflat, hprefix, -⟩ :=
      run_deliveredPrefix hfit (hrun₁.trans hrun) hstart hstart.weaken
    refine ⟨lists, hresults, hflat, hprefix, fun h' hidle => ?_⟩
    rcases s with ⟨q, t, results⟩
    obtain rfl : t = .idle h' := hidle
    obtain ⟨lists', hresults', hflat', -⟩ := hholds
    rwa [ok_injective.list_map (hresults.symm.trans hresults')]
  · rintro h' lists hidle hresults hfinished
    rcases s₁ with ⟨q₁, t₁, results₁⟩
    obtain rfl : t₁ = .idle h' := hidle
    have hsince : Delivered cfg q₁.published results₁.length q₁ h' results₁ :=
      Delivered.since hholds₁
    obtain ⟨lists', hresults', -, -, hdelivered⟩ :=
      run_deliveredPrefix hfit hrun hsince hsince.weaken
    obtain rfl := ok_injective.list_map (hresults.symm.trans hresults')
    rw [hresults, List.length_map] at hfinished
    exact hdelivered hfinished

/-! Two calls. The third entry is appended while the first call runs, the fourth one goes around the
end of the queue. -/

def fifoConfig : Config := { smallConfig with queueRegionSize := 72 }

def fifoRegion : PciDataHandler :=
  ((initializeFromConfig fifoConfig .zero).run (PciDataHandler.perform .bits64) ⟨72, fun _ => 0⟩).2

def fifoInitial : ServiceState := ⟨initial fifoRegion, .idle (initializedFromConfig fifoConfig), []⟩

def fifoStarted : SharedQueue :=
  ((initial fifoRegion).append fifoConfig (sampleEntry 0)).append fifoConfig (sampleEntry 1)

def headerRead : Prog DataInterface
    (Except BufferError (List EntryPair) × CircularBufferHeader) × SharedQueue :=
  (readErrorLogs fifoConfig (initializedFromConfig fifoConfig)).next
    (SharedQueue.perform fifoConfig.sizeT) fifoStarted

def thirdAppended : SharedQueue := headerRead.2.append fifoConfig (sampleEntry 2)

def firstCall : (Except BufferError (List EntryPair) × CircularBufferHeader) × SharedQueue :=
  headerRead.1.run (SharedQueue.perform fifoConfig.sizeT) thirdAppended

def fourthAppended : SharedQueue := firstCall.2.append fifoConfig (sampleEntry 3)

def betweenCalls : ServiceState where
  world := fourthAppended
  thread := .idle firstCall.1.2
  results := [firstCall.1.1]

def secondCall : (Except BufferError (List EntryPair) × CircularBufferHeader) × SharedQueue :=
  (readErrorLogs fifoConfig firstCall.1.2).run (SharedQueue.perform fifoConfig.sizeT) fourthAppended

def afterCalls : ServiceState where
  world := secondCall.2
  thread := .idle secondCall.1.2
  results := [firstCall.1.1, secondCall.1.1]

lemma append_later {e : EntryPair} (hnone : q.pending = none) (he : ValidEntry e)
    (hfree : q.used cfg + (entryBytes e).length < (cfg.maxOffset : ℤ)) :
    (withProducer cfg).Later q (q.append cfg e) :=
  append_produces hnone he hfree

lemma withProducer_performs {cfg : Config} (q : SharedQueue) (op : DataOp) :
    (withProducer cfg).answers q op (q.perform cfg.sizeT op).1 (q.perform cfg.sizeT op).2 := rfl

lemma ends_run {p : Prog DataInterface (Except BufferError (List EntryPair) × CircularBufferHeader)}
    {results : List (Except BufferError (List EntryPair))} :
    let ended := p.run (SharedQueue.perform cfg.sizeT) q
    FifoRun cfg ⟨q, .busy p, results⟩ ⟨ended.2, .idle ended.1.2, results ++ [ended.1.1]⟩ :=
  Service.run_ends withProducer_performs p q results

lemma betweenCalls_run : FifoRun fifoConfig fifoInitial betweenCalls := by
  have hstarted : FifoRun fifoConfig fifoInitial
      ⟨fifoStarted, .idle (initializedFromConfig fifoConfig), []⟩ :=
    (Service.run_later (append_later rfl (by decide) (by decide +kernel))).trans
      (Service.run_later (append_later rfl (by decide) (by decide +kernel)))
  have hheader : FifoRun fifoConfig fifoInitial ⟨headerRead.2, .busy headerRead.1, []⟩ :=
    hstarted.trans (.head (.start () (by simp)) (Service.run_next withProducer_performs _ _ _))
  have hthird : (withProducer fifoConfig).Later headerRead.2 thirdAppended :=
    append_later (by decide +kernel) (by decide) (by decide +kernel)
  have hfirst : FifoRun fifoConfig fifoInitial
      ⟨firstCall.2, .idle firstCall.1.2, [firstCall.1.1]⟩ := by
    rw [firstCall]
    exact hheader.trans ((Service.run_later hthird).trans ends_run)
  have hfourth : (withProducer fifoConfig).Later firstCall.2 fourthAppended :=
    append_later (by decide +kernel) (by decide) (by decide +kernel)
  rw [betweenCalls]
  exact hfirst.trans (Service.run_later hfourth)

lemma afterCalls_run : FifoRun fifoConfig betweenCalls afterCalls := by
  rw [afterCalls, secondCall]
  exact .head (.start () (by simp)) ends_run

theorem readErrorLogs_fifo_twoCalls :
    afterCalls.results = [.ok [sampleEntry 0, sampleEntry 1], .ok [sampleEntry 2, sampleEntry 3]] ∧
      (headerAt afterCalls.world.pci.mmap).bmcReadPtr = 8 ∧
      betweenCalls.world.published =
        [sampleEntry 0, sampleEntry 1, sampleEntry 2, sampleEntry 3] ∧
      DeliveredInOrder afterCalls ∧ DeliveredSince betweenCalls afterCalls := by
  have hinit : (initializeFromConfig fifoConfig .zero).run (PciDataHandler.perform .bits64)
      ⟨72, fun _ => 0⟩ = ((.ok (), initializedFromConfig fifoConfig), fifoRegion) :=
    Prod.ext rfl rfl
  exact ⟨by decide +kernel, by decide +kernel, by decide +kernel,
    readErrorLogs_fifo (by decide) (by decide) (by decide) hinit betweenCalls_run afterCalls_run⟩

end SharedQueue

end SmmErrorLogger.Buffer
