import SmmErrorLogger.Rde.Transfer

namespace SmmErrorLogger.Rde

open Library Library.Bytes Library.Interaction Library.Parts

structure Chunk where
  completionCode : UInt8
  data : List UInt8
  length_lt : data.length < 2 ^ 32

structure Dictionary where
  resourceId : UInt32
  chunks : List Chunk
  nonempty : chunks ≠ []

def Dictionary.bytes (d : Dictionary) : List UInt8 := d.chunks.flatMap Chunk.data

structure DictionaryTransfer where
  dictionaries : List Dictionary
  nonempty : dictionaries ≠ []
  distinct : (dictionaries.map Dictionary.resourceId).Nodup

def Chunk.header (chunk : Chunk) (flag : RdeMultiReceiveTransferFlag) (resourceId : UInt32) :
    MultipartReceiveResHeader where
  completionCode := chunk.completionCode
  transferFlag := flag.toByte
  nextDataTransferHandle := resourceId
  dataLengthBytes := UInt32.ofNat chunk.data.length

def Chunk.message (chunk : Chunk) (flag : RdeMultiReceiveTransferFlag) (resourceId : UInt32)
    (rest : List UInt8) : List UInt8 :=
  (chunk.header flag resourceId).toBytes ++ chunk.data ++ rest

def Span.bytes (c : Span) : List UInt8 := load c.data 0 c.size

lemma MultipartReceiveResHeader.ofBytes_toBytes (h : MultipartReceiveResHeader) :
    ofBytes h.toBytes = h := by
  have hhandle : field32 h.toBytes 2 = h.nextDataTransferHandle := field32_append rfl _
  have hlength : field32 h.toBytes 6 = h.dataLengthBytes := by
    rw [toBytes, ← List.append_nil (_ ++ _)]
    exact field32_append (by simp) _
  rw [ofBytes, hhandle, hlength]
  rfl

section Message

variable {s : WordSize} {c : Span} {chunk : Chunk} {flag : RdeMultiReceiveTransferFlag} {r : UInt32}
  {rest : List UInt8}

lemma Chunk.header_length : (chunk.header flag r).dataLengthBytes.toNat = chunk.data.length :=
  UInt32.toNat_ofNat_of_lt chunk.length_lt

lemma size_message (h : c.bytes = chunk.message flag r rest) :
    c.size = MultipartReceiveResHeader.size + chunk.data.length + rest.length := by
  have hlength := congrArg List.length h
  simpa [Span.bytes, Chunk.message, Nat.add_assoc] using hlength

lemma load_message (h : c.bytes = chunk.message flag r rest) :
    load c.data 0 MultipartReceiveResHeader.size = (chunk.header flag r).toBytes ∧
      load c.data MultipartReceiveResHeader.size chunk.data.length = chunk.data ∧
      load c.data (MultipartReceiveResHeader.size + chunk.data.length) rest.length = rest := by
  have hload : load c.data 0 (MultipartReceiveResHeader.size + chunk.data.length + rest.length) =
      (chunk.header flag r).toBytes ++ chunk.data ++ rest := by
    rw [← size_message h]
    exact h
  rw [load_add, load_add, Nat.zero_add, Nat.zero_add] at hload
  obtain ⟨hfront, hrest⟩ := List.append_inj hload (by simp)
  obtain ⟨hheader, hdata⟩ := List.append_inj hfront (by simp)
  exact ⟨hheader, hdata, hrest⟩

lemma multipartHeader_message (h : c.bytes = chunk.message flag r rest) :
    c.multipartHeader = chunk.header flag r := by
  rw [Span.multipartHeader, (load_message h).1, MultipartReceiveResHeader.ofBytes_toBytes]

lemma payload_message (h : c.bytes = chunk.message flag r rest) : c.payload = chunk.data := by
  rw [Span.payload, multipartHeader_message h, Chunk.header_length]
  exact (load_message h).2.1

lemma ofSpan_message (hsize : c.size < s.modulus) (h : c.bytes = chunk.message flag r rest) :
    Packet.ofSpan s c = match flag with
      | .rdeMRecFlagStart => .start r chunk.data
      | .rdeMRecFlagMiddle => .middle r chunk.data
      | .rdeMRecFlagEnd => .finish r chunk.data (c.closing s)
      | .rdeMRecFlagStartAndEnd => .startAndEnd r chunk.data (c.closing s) := by
  have hlength := size_message h
  rw [Packet.ofSpan, if_neg (by omega), multipartHeader_message h, Chunk.header_length,
    Nat.mod_eq_of_lt (by omega), if_neg (by omega), payload_message h]
  dsimp only [Chunk.header]
  rw [RdeMultiReceiveTransferFlag.ofByte_toByte]
  cases flag <;> rfl

lemma closing_message {checksum : UInt32} (hsize : c.size < s.modulus)
    (h : c.bytes = chunk.message flag r (littleEndian 4 checksum.toNat)) :
    c.closing s = .checksum checksum := by
  have hlength := size_message h
  have hrest := (load_message h).2.2
  rw [littleEndian_length] at hlength hrest
  rw [Span.closing, multipartHeader_message h, Chunk.header_length]
  rw [Nat.mod_eq_of_lt (by omega), if_neg (by omega), hrest, ← List.append_nil (littleEndian _ _)]
  have hfield : field32 ([] ++ littleEndian 4 checksum.toNat ++ []) 0 = checksum :=
    field32_append rfl checksum
  exact congrArg _ hfield

end Message

namespace DictionaryTransfer

variable (t : DictionaryTransfer)

def chunks : List (UInt32 × Chunk) :=
  t.dictionaries.flatMap (fun d => d.chunks.map (Prod.mk d.resourceId))

def messages (checksum : UInt32) : List (List UInt8) :=
  parts (fun p => p.2.message .rdeMRecFlagStart p.1 [])
    (fun p => p.2.message .rdeMRecFlagMiddle p.1 [])
    (fun p => p.2.message .rdeMRecFlagEnd p.1 (littleEndian 4 checksum.toNat))
    (fun p => p.2.message .rdeMRecFlagStartAndEnd p.1 (littleEndian 4 checksum.toNat)) t.chunks

structure SentBy (s : WordSize) (checksum : UInt32) (commands : List Command) : Prop where
  fits : ∀ c ∈ commands, c.span.size < s.modulus
  types : ∀ c ∈ commands, c.type = .rdeMultiPartReceiveResponse ∨ c.type = .rdeOperationInitRequest
  messages : (commands.filter (fun c => c.type = .rdeMultiPartReceiveResponse)).map
    (fun c => c.span.bytes) = t.messages checksum

def contents : List Piece := t.dictionaries.map (fun d => (d.resourceId, d.bytes))

def bytes : List UInt8 := pieceBytes t.contents

def pieces : List Piece := t.chunks.map (fun p => (p.1, p.2.data))

variable {t} {s : WordSize} {checksum : UInt32} {commands : List Command}

lemma packets_multipart (htypes : ∀ c ∈ commands, c.type = .rdeMultiPartReceiveResponse ∨
      c.type = .rdeOperationInitRequest) : packets s commands =
    (commands.filter (fun c => c.type = .rdeMultiPartReceiveResponse)).map
      (fun c => .ofSpan s c.span) := by
  induction commands with
  | nil => rfl
  | cons c commands ih =>
    have hpackets := ih (fun c' hc' => htypes c' (List.mem_cons_of_mem c hc'))
    rw [packets] at hpackets ⊢
    rcases htypes c List.mem_cons_self with htype | htype
    · have hsome : c.packet s = some (.ofSpan s c.span) := if_pos htype
      rw [List.filterMap_cons_some hsome, hpackets, List.filter_cons_of_pos (by simpa using htype),
        List.map_cons]
    · have hnone : c.packet s = none := by simp [Command.packet, htype]
      rw [List.filterMap_cons_none hnone, hpackets, List.filter_cons_of_neg (by simp [htype])]

lemma SentBy.packets_eq (hsent : t.SentBy s checksum commands) :
    packets s commands = transferPackets (.checksum checksum) t.pieces := by
  have hfits : ∀ c ∈ commands.filter (fun c => c.type = .rdeMultiPartReceiveResponse),
      c.span.size < s.modulus :=
    fun c hc => hsent.fits c (List.mem_of_mem_filter hc)
  rw [packets_multipart hsent.types]
  refine map_parts ?_ ?_ ?_ ?_ hsent.messages
  · exact fun c hc p hbytes => ofSpan_message (hfits c hc) hbytes
  · exact fun c hc p hbytes => ofSpan_message (hfits c hc) hbytes
  · intro c hc p hbytes
    rw [ofSpan_message (hfits c hc) hbytes]
    exact congrArg _ (closing_message (hfits c hc) hbytes)
  · intro c hc p hbytes
    rw [ofSpan_message (hfits c hc) hbytes]
    exact congrArg _ (closing_message (hfits c hc) hbytes)

lemma foldl_absorb_pieces (x : Assembly) (ds : List Dictionary) :
    ((ds.flatMap (fun d => d.chunks.map (Prod.mk d.resourceId))).map
      (fun p => (p.1, p.2.data))).foldl Assembly.absorb x =
      (ds.map (fun d => (d.resourceId, d.bytes))).foldl Assembly.absorb x := by
  induction ds generalizing x with
  | nil => rfl
  | cons d ds ih =>
    obtain ⟨c, cs, hcs⟩ := List.exists_cons_of_ne_nil d.nonempty
    have hdict : ((d.chunks.map (Prod.mk d.resourceId)).map (fun p => (p.1, p.2.data))).foldl
        Assembly.absorb x = x.absorb (d.resourceId, d.bytes) := by
      have hchunks := Assembly.foldl_absorb_chunks (x := x) d.resourceId c.data (cs.map Chunk.data)
      simpa [Dictionary.bytes, hcs, List.map_map, Function.comp_def, List.flatMap_def] using hchunks
    rw [List.flatMap_cons, List.map_append, List.foldl_append, hdict, ih, List.map_cons,
      List.foldl_cons]

def assembly (t : DictionaryTransfer) (m : DictionaryManager) : Assembly :=
  t.contents.tail.foldl Assembly.absorb (m, t.contents.headD (0, []))

lemma acceptAll_pieces (t : DictionaryTransfer) (r : Receiver) (closing : Closing) :
    r.acceptAll (transferPackets closing t.pieces) =
      let final := (Receiver.received (t.assembly r.dictionaryManager)
        (updateCrc 0xFFFFFFFF t.bytes)).close closing
      (List.replicate (t.chunks.length - 1) .rdeOk ++ [final.1], final.2) := by
  obtain ⟨d, ds, hds⟩ := List.exists_cons_of_ne_nil t.nonempty
  obtain ⟨c, cs, hcs⟩ := List.exists_cons_of_ne_nil d.nonempty
  have hcontents : t.contents = (d.resourceId, d.bytes) :: t.contents.tail := by
    simp [contents, hds]
  have hpieces : t.pieces = (d.resourceId, c.data) :: t.pieces.tail := by
    simp [pieces, chunks, hds, hcs]
  have hassembly : t.pieces.tail.foldl Assembly.absorb
    (r.dictionaryManager, (d.resourceId, c.data)) =
      t.assembly r.dictionaryManager := by
    have hfold : t.pieces.foldl Assembly.absorb (r.dictionaryManager, (d.resourceId, [])) =
        t.contents.foldl Assembly.absorb (r.dictionaryManager, (d.resourceId, [])) :=
      foldl_absorb_pieces _ _
    rw [hpieces, hcontents, List.foldl_cons, List.foldl_cons, Assembly.absorb_nil,
      Assembly.absorb_nil] at hfold
    rw [hfold, assembly, hcontents]
    rfl
  have hbytes : pieceBytes t.pieces = t.bytes := by
    simp [pieceBytes, pieces, bytes, chunks, contents, Dictionary.bytes, List.flatMap_assoc,
      List.flatMap_map]
  have hlength : t.pieces.tail.length = t.chunks.length - 1 := by simp [pieces]
  rw [hpieces, acceptAll_transferPackets, ← hpieces, hassembly, hbytes, hlength]

variable {S ε : Type} {decoder : BejDecoder} {storer : ExternalStorerInterface S ε}
  {h : RdeCommandHandler S}

def final (t : DictionaryTransfer) (r : Receiver) (checksum : UInt32) :
    RdeDecodeStatus × Receiver :=
  (Receiver.received (t.assembly r.dictionaryManager) (updateCrc 0xFFFFFFFF t.bytes)).close
    (.checksum checksum)

lemma SentBy.results (hsent : t.SentBy s checksum commands) :
    multipartResults commands (h.decodeAll s decoder storer commands).1 =
      List.replicate (t.chunks.length - 1) (.ok .rdeOk) ++
        [.ok (t.final h.receiver checksum).1] := by
  rw [decodeAll_multipartResults, hsent.packets_eq, acceptAll_pieces]
  simp [final]

lemma SentBy.receiver (hsent : t.SentBy s checksum commands) :
    (h.decodeAll s decoder storer commands).2.receiver = (t.final h.receiver checksum).2 := by
  rw [decodeAll_receiver, hsent.packets_eq, acceptAll_pieces]
  rfl

lemma final_matching {r : Receiver} (hmatch : checksum.toBitVec = Crc.crc32 t.bytes) :
    t.final r checksum = (.rdeStopFlagReceived,
      Receiver.received (t.assembly r.dictionaryManager) (updateCrc 0xFFFFFFFF t.bytes)) := by
  have hcrc : finalChecksum (updateCrc 0xFFFFFFFF t.bytes) = checksum := by
    rw [← UInt32.toBitVec_inj, finalChecksum_eq, hmatch]
  exact if_neg (not_not.mpr hcrc)

lemma final_mismatching {r : Receiver} (hmatch : checksum.toBitVec ≠ Crc.crc32 t.bytes) :
    (t.final r checksum).1 = .rdeInvalidChecksum ∧
      ∃ m : DictionaryManager,
        (t.final r checksum).2.dictionaryManager = m.invalidateDictionaries := by
  have hcrc : finalChecksum (updateCrc 0xFFFFFFFF t.bytes) ≠ checksum := by
    rintro rfl
    exact hmatch (finalChecksum_eq t.bytes)
  have hfinal : t.final r checksum = (.rdeInvalidChecksum,
      { Receiver.received (t.assembly r.dictionaryManager) (updateCrc 0xFFFFFFFF t.bytes) with
        dictionaryManager := (t.assembly r.dictionaryManager).finish.invalidateDictionaries }) :=
          if_pos hcrc
  rw [hfinal]
  exact ⟨rfl, _, rfl⟩

lemma assembly_finish (m : DictionaryManager) :
    (∀ d ∈ t.dictionaries, (t.assembly m).finish.dictionaries d.resourceId = some ⟨true, d.bytes⟩) ∧
      ∀ r ∉ t.dictionaries.map Dictionary.resourceId,
        (t.assembly m).finish.dictionaries r = m.dictionaries r := by
  obtain ⟨d, ds, hds⟩ := List.exists_cons_of_ne_nil t.nonempty
  have hcontents : t.contents.headD (0, []) :: t.contents.tail = t.contents := by
    simp [contents, hds]
  have hids : t.contents.map Prod.fst = t.dictionaries.map Dictionary.resourceId := by
    simp [contents]
  obtain ⟨hlisted, hothers⟩ :=
    Assembly.finish_foldl_absorb (x := (m, t.contents.headD (0, []))) t.contents.tail
    (by rw [hcontents, hids]; exact t.distinct)
  rw [hcontents] at hlisted hothers
  rw [hids] at hothers
  exact ⟨fun d hd => hlisted (d.resourceId, d.bytes) (List.mem_map_of_mem hd), hothers⟩

theorem decodeAll_transfer (decoder : BejDecoder) (storer : ExternalStorerInterface S ε)
    (h : RdeCommandHandler S) (t : DictionaryTransfer) (checksum : UInt32) (commands : List Command)
    (hsent : t.SentBy s checksum commands) :
    let outcome := h.decodeAll s decoder storer commands
    let manager := outcome.2.dictionaryManager
    (∃ last, multipartResults commands outcome.1 =
        List.replicate (t.chunks.length - 1) (.ok .rdeOk) ++ [.ok last] ∧
      (last = .rdeStopFlagReceived ↔ checksum.toBitVec = Crc.crc32 t.bytes) ∧
      (last = .rdeStopFlagReceived →
        (∀ d ∈ t.dictionaries, manager.getDictionary d.resourceId = some d.bytes) ∧
          ∀ r ∉ t.dictionaries.map Dictionary.resourceId,
            manager.dictionaries r = h.dictionaryManager.dictionaries r) ∧
      (last ≠ .rdeStopFlagReceived → last = .rdeInvalidChecksum ∧
        (∀ r, manager.getDictionary r = none) ∧ manager.getDictionaryCount = 0)) ∧
      ∀ t' : DictionaryTransfer, ∀ commands', t'.contents = t.contents →
        t'.SentBy s checksum commands' →
        (multipartResults commands' (h.decodeAll s decoder storer commands').1).getLast? =
            (multipartResults commands outcome.1).getLast? ∧
          (h.decodeAll s decoder storer commands').2.receiver = outcome.2.receiver := by
  intro outcome manager
  have hmanager : manager = (t.final h.receiver checksum).2.dictionaryManager :=
    congrArg Receiver.dictionaryManager hsent.receiver
  refine ⟨⟨(t.final h.receiver checksum).1, hsent.results, ?_⟩, ?_⟩
  · rw [hmanager]
    by_cases hmatch : checksum.toBitVec = Crc.crc32 t.bytes
    · obtain ⟨hlisted, hothers⟩ := t.assembly_finish h.dictionaryManager
      rw [final_matching hmatch]
      refine ⟨iff_of_true rfl hmatch, fun _ => ⟨fun d hd => ?_, hothers⟩,
        fun hlast => absurd rfl hlast⟩
      exact DictionaryManager.getDictionary_eq_some.mpr (hlisted d hd)
    · obtain ⟨hlast, m, hm⟩ := final_mismatching (t := t) (r := h.receiver) hmatch
      rw [hlast, hm]
      refine ⟨iff_of_false (by decide) hmatch, fun hstop => absurd hstop (by decide),
        fun _ => ⟨rfl, ?_, rfl⟩⟩
      exact fun r => DictionaryManager.getDictionary_invalidateDictionaries
  · intro t' commands' hcontents hsent'
    have hfinal : t'.final h.receiver checksum = t.final h.receiver checksum := by
      rw [final, final, assembly, assembly, bytes, bytes, hcontents]
    refine ⟨?_, ?_⟩
    · rw [hsent'.results, hsent.results, hfinal, List.getLast?_concat, List.getLast?_concat]
    · rw [hsent'.receiver, hsent.receiver, hfinal]

def twoDictionaries : DictionaryTransfer where
  dictionaries := [
    { resourceId := 5
      chunks := [⟨0, [1], by decide⟩, ⟨0, [2], by decide⟩]
      nonempty := by decide },
    { resourceId := 0, chunks := [⟨0, [3], by decide⟩], nonempty := by decide }]
  nonempty := by decide
  distinct := by decide

def twoDictionariesCommands : List Command := [
  ⟨.ofList [0, 0, 5, 0, 0, 0, 1, 0, 0, 0, 1], .rdeMultiPartReceiveResponse⟩,
  ⟨.ofList [], .rdeOperationInitRequest⟩,
  ⟨.ofList [0, 1, 5, 0, 0, 0, 1, 0, 0, 0, 2], .rdeMultiPartReceiveResponse⟩,
  ⟨.ofList [0, 2, 0, 0, 0, 0, 1, 0, 0, 0, 3, 0x1d, 0x80, 0xbc, 0x55], .rdeMultiPartReceiveResponse⟩]

lemma twoDictionaries_sent : twoDictionaries.SentBy .bits32 0x55bc801d twoDictionariesCommands where
  fits := by decide
  types := by decide
  messages := by decide

theorem decodeAll_transfer_twoDictionaries :
    let manager := ((RdeCommandHandler.fresh ()).decodeAll .bits32 (fun _ _ => (0, []))
      ⟨fun _ n => ((.ok true : Except Empty Bool), n)⟩ twoDictionariesCommands).2.dictionaryManager
    twoDictionaries.SentBy .bits32 0x55bc801d twoDictionariesCommands ∧
      manager.getDictionary 5 = some [1, 2] ∧ manager.getDictionary 0 = some [3] := by
  intro manager
  obtain ⟨⟨last, -, hlast, hmatching, -⟩, -⟩ := decodeAll_transfer (fun _ _ => (0, []))
    ⟨fun _ n => ((.ok true : Except Empty Bool), n)⟩ (.fresh ()) twoDictionaries 0x55bc801d
    twoDictionariesCommands twoDictionaries_sent
  have hdictionaries := (hmatching (hlast.mpr (by decide +kernel))).1
  have hfirst := hdictionaries _ List.mem_cons_self
  have hsecond := hdictionaries _ (List.mem_cons_of_mem _ List.mem_cons_self)
  exact ⟨twoDictionaries_sent, hfirst, hsecond⟩

end DictionaryTransfer

end SmmErrorLogger.Rde
