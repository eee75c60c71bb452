import Mathlib.Data.List.Basic
import Mathlib.Tactic

namespace SmmErrorLogger.Library.Bytes

def ofLittleEndian : List UInt8 → ℕ
  | [] => 0
  | b :: bs => b.toNat + 256 * ofLittleEndian bs

def littleEndian : ℕ → ℕ → List UInt8
  | 0, _ => []
  | n + 1, v => UInt8.ofNat v :: littleEndian n (v / 256)

@[simp] lemma littleEndian_length (n v : ℕ) : (littleEndian n v).length = n := by
  induction n generalizing v with
  | zero => rfl
  | succ n ih => simp [littleEndian, ih]

lemma ofLittleEndian_lt (bs : List UInt8) : ofLittleEndian bs < 256 ^ bs.length := by
  induction bs with
  | nil => simp [ofLittleEndian]
  | cons b bs ih =>
    have hb := b.toNat_lt
    simp only [ofLittleEndian, List.length_cons, pow_succ]
    omega

lemma ofLittleEndian_littleEndian (n v : ℕ) :
    ofLittleEndian (littleEndian n v) = v % 256 ^ n := by
  induction n generalizing v with
  | zero => simp [littleEndian, ofLittleEndian, Nat.mod_one]
  | succ n ih =>
    have hv : (UInt8.ofNat v).toNat = v % 256 := UInt8.toNat_ofNat'
    rw [littleEndian, ofLittleEndian, ih, hv, pow_succ', Nat.mod_mul]

lemma littleEndian_ofLittleEndian (bs : List UInt8) :
    littleEndian bs.length (ofLittleEndian bs) = bs := by
  induction bs with
  | nil => rfl
  | cons b bs ih =>
    have hb : b.toNat < 256 := b.toNat_lt
    have hd : (b.toNat + 256 * ofLittleEndian bs) / 256 = ofLittleEndian bs := by omega
    have hm : UInt8.ofNat (b.toNat + 256 * ofLittleEndian bs) = b := by
      apply UInt8.toNat_inj.mp
      have hv : (UInt8.ofNat (b.toNat + 256 * ofLittleEndian bs)).toNat = _ % 256 :=
        UInt8.toNat_ofNat'
      omega
    simp only [List.length_cons, littleEndian, ofLittleEndian, hd, hm, ih]

def xorAll : List UInt8 → UInt8
  | [] => 0
  | b :: bs => b ^^^ xorAll bs

@[simp] lemma xorAll_append (xs ys : List UInt8) : xorAll (xs ++ ys) = xorAll xs ^^^ xorAll ys := by
  induction xs with
  | nil => simp [xorAll]
  | cons x xs ih => simp [xorAll, ih, UInt8.xor_assoc]

lemma xorAll_set {bs : List UInt8} {i : ℕ} (hi : i < bs.length) (b : UInt8) :
    xorAll (bs.set i b) = xorAll bs ^^^ (bs[i] ^^^ b) := by
  induction bs generalizing i with
  | nil => cases hi
  | cons x bs ih =>
    cases i with
    | zero =>
      simp only [List.set_cons_zero, List.getElem_cons_zero, xorAll]
      rw [UInt8.xor_comm x, UInt8.xor_assoc, ← UInt8.xor_assoc x, UInt8.xor_self, UInt8.zero_xor,
        UInt8.xor_comm]
    | succ i =>
      simp only [List.set_cons_succ, List.getElem_cons_succ, xorAll]
      rw [ih, UInt8.xor_assoc]

def field (bs : List UInt8) (off n : ℕ) : ℕ := ofLittleEndian ((bs.drop off).take n)

def field16 (bs : List UInt8) (off : ℕ) : UInt16 := UInt16.ofNat (field bs off 2)

def field32 (bs : List UInt8) (off : ℕ) : UInt32 := UInt32.ofNat (field bs off 4)

def byte (bs : List UInt8) (off : ℕ) : UInt8 := bs.getD off 0

lemma field_lt (bs : List UInt8) (off n : ℕ) : field bs off n < 256 ^ n :=
  (ofLittleEndian_lt _).trans_le (Nat.pow_le_pow_right (by norm_num) (List.length_take_le _ _))

lemma field_append {xs ys zs : List UInt8} {off n : ℕ} (hoff : xs.length = off)
    (hn : ys.length = n) :
    field (xs ++ ys ++ zs) off n = ofLittleEndian ys := by
  rw [field, List.append_assoc, List.drop_left' hoff, List.take_left' hn]

lemma field32_append {xs zs : List UInt8} {off : ℕ} (hoff : xs.length = off) (v : UInt32) :
    field32 (xs ++ littleEndian 4 v.toNat ++ zs) off = v := by
  rw [field32, field_append hoff (littleEndian_length _ _), ofLittleEndian_littleEndian]
  simp

lemma field_later {xs ys : List UInt8} {off n : ℕ} (h : xs.length ≤ off) :
    field (xs ++ ys) off n = field ys (off - xs.length) n := by
  rw [field, field, List.drop_append, List.drop_of_length_le h, List.nil_append]

lemma field_cons {b : UInt8} {bs : List UInt8} {off n : ℕ} :
    field (b :: bs) (off + 1) n = field bs off n := rfl

lemma field_first {ys : List UInt8} {n v : ℕ} (hv : v < 256 ^ n) :
    field (littleEndian n v ++ ys) 0 n = v := by
  have h : field ([] ++ littleEndian n v ++ ys) 0 n = _ :=
    field_append rfl (littleEndian_length n v)
  rwa [ofLittleEndian_littleEndian, Nat.mod_eq_of_lt hv] at h

lemma byte_later {xs ys : List UInt8} {off : ℕ} (h : xs.length ≤ off) :
    byte (xs ++ ys) off = byte ys (off - xs.length) := by
  simp [byte, List.getD, List.getElem?_append_right h]

lemma byte_cons {b : UInt8} {bs : List UInt8} {off : ℕ} : byte (b :: bs) (off + 1) = byte bs off :=
  rfl

lemma byte_zeros (n off : ℕ) : byte (List.replicate n 0) off = 0 := by
  by_cases h : off < n <;> simp [byte, List.getD, h]

lemma byte_first {b : UInt8} {bs : List UInt8} : byte (b :: bs) 0 = b := rfl

abbrev Memory := ℕ → UInt8

def load (m : Memory) (off len : ℕ) : List UInt8 := (List.range len).map (fun i => m (off + i))

def store (m : Memory) (off : ℕ) (bs : List UInt8) : Memory :=
  fun i => if off ≤ i ∧ i < off + bs.length then bs.getD (i - off) 0 else m i

variable {m m' : Memory} {off off' len : ℕ} {bs : List UInt8}

@[simp] lemma load_length : (load m off len).length = len := by simp [load]

lemma load_congr (h : ∀ i < len, m (off + i) = m' (off' + i)) : load m off len = load m' off' len :=
  List.map_congr_left (fun i hi => h i (List.mem_range.mp hi))

lemma load_get {i : ℕ} (hi : i < (load m off len).length) : (load m off len)[i] = m (off + i) := by
  simp [load]

lemma load_add (m : Memory) (off a b : ℕ) :
    load m off (a + b) = load m off a ++ load m (off + a) b := by
  simp [load, List.range_add, Nat.add_assoc]

lemma load_take {n : ℕ} (h : n ≤ len) : (load m off len).take n = load m off n := by
  obtain ⟨rest, rfl⟩ := Nat.exists_eq_add_of_le h
  rw [load_add, List.take_left' load_length]

lemma load_field {a n : ℕ} (h : a + n ≤ len) :
    ((load m off len).drop a).take n = load m (off + a) n := by
  obtain ⟨r, rfl⟩ := Nat.exists_eq_add_of_le h
  rw [Nat.add_assoc, load_add, load_add, List.drop_left' (by simp), List.take_left' (by simp)]

lemma field_load {m : Memory} {start len off n : ℕ} (h : off + n ≤ len) :
    field (load m start len) off n = ofLittleEndian (load m (start + off) n) := by
  rw [field, load_field h]

lemma byte_load {m : Memory} {start len off : ℕ} (h : off < len) :
    byte (load m start len) off = m (start + off) := by
  simp [byte, load, h]

lemma store_outside {i : ℕ} (h : i < off ∨ off + bs.length ≤ i) : store m off bs i = m i := by
  rw [store, if_neg (by omega)]

lemma store_inside {i : ℕ} (h : i < bs.length) : store m off bs (off + i) = bs[i] := by
  rw [store, if_pos (by omega)]
  simp [h]

@[simp] lemma store_nil : store m off [] = m := funext (fun _ => store_outside (by simp; omega))

lemma load_store_outside (h : off' + len ≤ off ∨ off + bs.length ≤ off') :
    load (store m off bs) off' len = load m off' len :=
  load_congr (fun i hi => store_outside (by omega))

lemma load_store_same : load (store m off bs) off bs.length = bs := by
  apply List.ext_getElem (by simp)
  intro i hi hi'
  rw [load_get, store_inside hi']

end SmmErrorLogger.Library.Bytes
