import SmmErrorLogger.Buffer.Header

namespace SmmErrorLogger.Buffer

open Library.Bytes

lemma ofLittleEndian_store {m : Memory} {off n v : ℕ} :
    ofLittleEndian (load (store m off (littleEndian n v)) off n) = v % 256 ^ n := by
  have h := @load_store_same m off (littleEndian n v)
  rw [littleEndian_length] at h
  rw [h, ofLittleEndian_littleEndian]

@[simp] lemma uint32_ofNat_littleEndian (x : UInt32) :
    UInt32.ofNat (x.toNat % 256 ^ 4) = x := by
  have hx := x.toNat_lt
  rw [Nat.mod_eq_of_lt (by omega), UInt32.ofNat_toNat]

namespace CircularBufferHeader

lemma ofBytes_queueSize_lt (bs : List UInt8) : (ofBytes bs).queueSize < 2 ^ 24 := field_lt bs _ 3

lemma ofBytes_ueRegionSize_lt (bs : List UInt8) : (ofBytes bs).ueRegionSize < 2 ^ 16 :=
  field_lt bs _ 2

end CircularBufferHeader

def headerAt (m : Memory) : CircularBufferHeader := .ofBytes (load m 0 CircularBufferHeader.size)

open CircularBufferHeader

variable {m m' : Memory}

lemma headerAt_congr (h : ∀ i < CircularBufferHeader.size, m i = m' i) : headerAt m = headerAt m' :=
  congrArg ofBytes (load_congr (by simpa using h))

lemma headerAt_eq (m : Memory) : headerAt m = {
    bmcInterfaceVersion := UInt32.ofNat (ofLittleEndian (load m 0x0 4))
    biosInterfaceVersion := UInt32.ofNat (ofLittleEndian (load m 0x4 4))
    magicNumber := .ofFn (fun i => UInt32.ofNat (ofLittleEndian (load m (0x8 + 4 * i) 4)))
    queueSize := ofLittleEndian (load m 0x18 3)
    ueRegionSize := ofLittleEndian (load m 0x1b 2)
    bmcFlags := UInt32.ofNat (ofLittleEndian (load m bmcFlagsOffset 4))
    bmcReadPtr := ofLittleEndian (load m bmcReadPtrOffset 3)
    reserved1 := .ofFn (fun i => m (0x24 + i))
    biosFlags := UInt32.ofNat (ofLittleEndian (load m biosFlagsOffset 4))
    biosWritePtr := ofLittleEndian (load m biosWritePtrOffset 3)
    reserved2 := m 0x2f } := by
  have hmagic : ∀ i : Fin 4, field (load m 0 0x30) (0x8 + 4 * i) 4 =
      ofLittleEndian (load m (0x8 + 4 * i) 4) := by
    intro i
    rw [field_load (by omega), Nat.zero_add]
  have hreserved : ∀ i : Fin 4, byte (load m 0 0x30) (0x24 + i) = m (0x24 + i) := by
    intro i
    rw [byte_load (by omega), Nat.zero_add]
  simp [headerAt, ofBytes, field32, field_load, byte_load, bmcFlagsOffset, bmcReadPtrOffset,
    biosFlagsOffset, biosWritePtrOffset, CircularBufferHeader.size, hmagic, hreserved]

lemma headerAt_bmcFlags :
    (headerAt m).bmcFlags = UInt32.ofNat (ofLittleEndian (load m bmcFlagsOffset 4)) := by
  rw [headerAt_eq]

lemma headerAt_biosFlags :
    (headerAt m).biosFlags = UInt32.ofNat (ofLittleEndian (load m biosFlagsOffset 4)) := by
  rw [headerAt_eq]

lemma headerAt_store_bmcReadPtr (p : ℕ) :
    headerAt (store m bmcReadPtrOffset (littleEndian 3 p)) =
      { headerAt m with bmcReadPtr := p % 2 ^ 24 } := by
  have hmagic : ∀ i : Fin 4, load (store m 0x21 (littleEndian 3 p)) (0x8 + 4 * i) 4 =
      load m (0x8 + 4 * i) 4 := fun i => load_store_outside (by simp; omega)
  have hp : ofLittleEndian (load (store m 0x21 (littleEndian 3 p)) 0x21 3) = p % 2 ^ 24 :=
    ofLittleEndian_store
  simp [headerAt_eq, load_store_outside, store_outside, bmcFlagsOffset, bmcReadPtrOffset,
    biosFlagsOffset, biosWritePtrOffset, hmagic, hp]

lemma headerAt_store_biosWritePtr (p : ℕ) :
    headerAt (store m biosWritePtrOffset (littleEndian 3 p)) =
      { headerAt m with biosWritePtr := p % 2 ^ 24 } := by
  have hmagic : ∀ i : Fin 4, load (store m 0x2c (littleEndian 3 p)) (0x8 + 4 * i) 4 =
      load m (0x8 + 4 * i) 4 := fun i => load_store_outside (by omega)
  have hreserved : ∀ i : Fin 4, store m 0x2c (littleEndian 3 p) (0x24 + i) = m (0x24 + i) :=
    fun i => store_outside (by omega)
  have hp : ofLittleEndian (load (store m 0x2c (littleEndian 3 p)) 0x2c 3) = p % 2 ^ 24 :=
    ofLittleEndian_store
  simp [headerAt_eq, load_store_outside, store_outside, bmcFlagsOffset, bmcReadPtrOffset,
    biosFlagsOffset, biosWritePtrOffset, hmagic, hreserved, hp]

lemma headerAt_store_bmcFlags (f : UInt32) :
    headerAt (store m bmcFlagsOffset (littleEndian 4 f.toNat)) =
      { headerAt m with bmcFlags := f } := by
  have hmagic : ∀ i : Fin 4, load (store m 0x1d (littleEndian 4 f.toNat)) (0x8 + 4 * i) 4 =
      load m (0x8 + 4 * i) 4 := fun i => load_store_outside (by simp; omega)
  have hreserved : ∀ i : Fin 4, store m 0x1d (littleEndian 4 f.toNat) (0x24 + i) = m (0x24 + i) :=
    fun i => store_outside (by rw [littleEndian_length]; omega)
  have hf : ofLittleEndian (load (store m 0x1d (littleEndian 4 f.toNat)) 0x1d 4) =
      f.toNat % 256 ^ 4 := ofLittleEndian_store
  simp [headerAt_eq, load_store_outside, store_outside, bmcFlagsOffset, bmcReadPtrOffset,
    biosFlagsOffset, biosWritePtrOffset, hmagic, hreserved, hf, -Nat.reducePow]

lemma headerAt_store_outside {off : ℕ} {bs : List UInt8} (h : CircularBufferHeader.size ≤ off) :
    headerAt (store m off bs) = headerAt m :=
  headerAt_congr (fun _ hi => store_outside (by omega))

end SmmErrorLogger.Buffer
