import ContractLens.Hash.Keccak
import ContractLens.Proofs.Bytes
import ContractLens.Proofs.Text.Hex

/-!
# Keccak-256 on natural numbers

The sponge with its lanes as natural numbers below `2 ^ 64`, on which a proof can evaluate hashes of
fixed texts.

* `keccak256_eq`, `keccak256Hex_eq`: it gives the hash of every message and of every text.
* `nodup_keccak256Hex`: texts whose hashes differ in their first bytes have different hashes.
* `keccak256Hex_eq_iff`: texts with the same hash are the same, or collide.
-/

namespace ContractLens.Keccak

/-! ## Lanes -/

/-- The five lanes of one row as numbers. -/
structure NatRow where
  a : ℕ
  b : ℕ
  c : ℕ
  d : ℕ
  e : ℕ

/-- The five rows of the state. -/
structure NatLanes where
  r0 : NatRow
  r1 : NatRow
  r2 : NatRow
  r3 : NatRow
  r4 : NatRow

/-- The numbers of a row's lanes. -/
def Row.toNat (r : Row) : NatRow := ⟨r.a.toNat, r.b.toNat, r.c.toNat, r.d.toNat, r.e.toNat⟩

/-- The numbers of a state's lanes. -/
def Lanes.toNat (s : Lanes) : NatLanes :=
  ⟨s.r0.toNat, s.r1.toNat, s.r2.toNat, s.r3.toNat, s.r4.toNat⟩

/-- The sums of the lanes of two rows. -/
def NatRow.add (p q : NatRow) : NatRow :=
  ⟨p.a ^^^ q.a, p.b ^^^ q.b, p.c ^^^ q.c, p.d ^^^ q.d, p.e ^^^ q.e⟩

/-- A number below `2 ^ 64` rotated to the left by `0 < n < 64` places. -/
def rotateNat (w n : ℕ) : ℕ := (w <<< n) % 2 ^ 64 ||| w >>> (64 - n)

/-- The bits of a number below `2 ^ 64` turned round. -/
def notNat (w : ℕ) : ℕ := UInt64.size - 1 - w

theorem toNat_rotate {n : ℕ} (hpos : 0 < n) (hlt : n < 64) (w : UInt64) :
    (rotate w n).toNat = rotateNat w.toNat n := by
  have hleft : (UInt64.ofNat n).toNat % 64 = n := by
    rw [UInt64.toNat_ofNat']
    omega
  have hright : (UInt64.ofNat (64 - n)).toNat % 64 = 64 - n := by
    rw [UInt64.toNat_ofNat']
    omega
  rw [rotate, if_neg hpos.ne', UInt64.toNat_or, UInt64.toNat_shiftLeft, UInt64.toNat_shiftRight,
    hleft, hright, rotateNat]

theorem toNat_not (w : UInt64) : (~~~w).toNat = notNat w.toNat := UInt64.toNat_not w

theorem Row.toNat_add (p q : Row) : (p.add q).toNat = p.toNat.add q.toNat := by
  simp only [Row.toNat, Row.add, NatRow.add, UInt64.toNat_xor]

/-! ## The permutation -/

/-- The parities of two neighbouring columns added to each lane. -/
def NatLanes.theta (s : NatLanes) : NatLanes :=
  let c := s.r0.add (s.r1.add (s.r2.add (s.r3.add s.r4)))
  let d : NatRow :=
    ⟨c.e ^^^ rotateNat c.b 1, c.a ^^^ rotateNat c.c 1, c.b ^^^ rotateNat c.d 1,
      c.c ^^^ rotateNat c.e 1, c.d ^^^ rotateNat c.a 1⟩
  ⟨s.r0.add d, s.r1.add d, s.r2.add d, s.r3.add d, s.r4.add d⟩

/-- Each lane rotated by its own distance and moved to its new place. -/
def NatLanes.rhoPi (s : NatLanes) : NatLanes :=
  ⟨⟨s.r0.a, rotateNat s.r1.b 44, rotateNat s.r2.c 43, rotateNat s.r3.d 21, rotateNat s.r4.e 14⟩,
    ⟨rotateNat s.r0.d 28, rotateNat s.r1.e 20, rotateNat s.r2.a 3, rotateNat s.r3.b 45,
      rotateNat s.r4.c 61⟩,
    ⟨rotateNat s.r0.b 1, rotateNat s.r1.c 6, rotateNat s.r2.d 25, rotateNat s.r3.e 8,
      rotateNat s.r4.a 18⟩,
    ⟨rotateNat s.r0.e 27, rotateNat s.r1.a 36, rotateNat s.r2.b 10, rotateNat s.r3.c 15,
      rotateNat s.r4.d 56⟩,
    ⟨rotateNat s.r0.c 62, rotateNat s.r1.d 55, rotateNat s.r2.e 39, rotateNat s.r3.a 41,
      rotateNat s.r4.b 2⟩⟩

/-- A product of the next two lanes of the row added to each. -/
def NatRow.chi (r : NatRow) : NatRow :=
  ⟨r.a ^^^ (notNat r.b &&& r.c), r.b ^^^ (notNat r.c &&& r.d), r.c ^^^ (notNat r.d &&& r.e),
    r.d ^^^ (notNat r.e &&& r.a), r.e ^^^ (notNat r.a &&& r.b)⟩

/-- One round. -/
def NatLanes.round (s : NatLanes) (constant : UInt64) : NatLanes :=
  let t := s.theta.rhoPi
  let first := t.r0.chi
  ⟨{ first with a := first.a ^^^ constant.toNat }, t.r1.chi, t.r2.chi, t.r3.chi, t.r4.chi⟩

/-- All rounds. -/
def NatLanes.permute (s : NatLanes) : NatLanes := roundConstants.foldl NatLanes.round s

theorem toNat_theta (s : Lanes) : (theta s).toNat = s.toNat.theta := by
  have hrotate (w : UInt64) : (rotate w 1).toNat = rotateNat w.toNat 1 :=
    toNat_rotate (by omega) (by omega) w
  simp only [Lanes.toNat, theta, NatLanes.theta, Row.toNat, Row.add, NatRow.add, UInt64.toNat_xor,
    hrotate]

theorem toNat_rhoPi (s : Lanes) : (rhoPi s).toNat = s.toNat.rhoPi := by
  simp (disch := decide) only [Lanes.toNat, Row.toNat, rhoPi, NatLanes.rhoPi, toNat_rotate]

theorem Row.toNat_chi (r : Row) : r.chi.toNat = r.toNat.chi := by
  simp only [Row.toNat, Row.chi, NatRow.chi, UInt64.toNat_xor, UInt64.toNat_and, toNat_not]

theorem toNat_round (s : Lanes) (constant : UInt64) :
    (round s constant).toNat = s.toNat.round constant := by
  rw [NatLanes.round, ← toNat_theta, ← toNat_rhoPi]
  simp only [round, Lanes.toNat, ← Row.toNat_chi]
  exact congrArg (fun a => NatLanes.mk ⟨a, _, _, _, _⟩ _ _ _ _) (UInt64.toNat_xor ..)

theorem toNat_permute (s : Lanes) : (permute s).toNat = s.toNat.permute := by
  rw [permute, NatLanes.permute]
  induction roundConstants generalizing s with
  | nil => rfl
  | cons constant constants ih => rw [List.foldl_cons, List.foldl_cons, ih, toNat_round]

/-! ## The sponge -/

/-- The sums of all lanes. -/
def NatLanes.add (s t : NatLanes) : NatLanes :=
  ⟨s.r0.add t.r0, s.r1.add t.r1, s.r2.add t.r2, s.r3.add t.r3, s.r4.add t.r4⟩

/-- The first `blocks` blocks of the bytes taken into the state. -/
def NatLanes.absorb : ℕ → NatLanes → List UInt8 → NatLanes
  | 0, s, _ => s
  | blocks + 1, s, bytes =>
    absorb blocks (s.add (blockLanes (bytes.take rate)).toNat).permute (bytes.drop rate)

/-- The hash of a message. -/
def keccak256Nat (message : List UInt8) : List UInt8 :=
  let s := NatLanes.absorb (message.length / rate + 1) start.toNat (pad message)
  [s.r0.a, s.r0.b, s.r0.c, s.r0.d].flatMap fun n => bytesOfWord (UInt64.ofNat n)

theorem toNat_absorb (blocks : ℕ) (s : Lanes) (bytes : List UInt8) :
    (absorb blocks s bytes).toNat = s.toNat.absorb blocks bytes := by
  induction blocks generalizing s bytes with
  | zero => rfl
  | succ blocks ih =>
    rw [absorb, NatLanes.absorb, ih, toNat_permute]
    simp only [Lanes.add, Lanes.toNat, NatLanes.add, Row.toNat_add]

theorem keccak256_eq (message : List UInt8) : keccak256 message = keccak256Nat message := by
  rw [keccak256Nat, ← toNat_absorb]
  simp only [Lanes.toNat, Row.toNat, List.flatMap_cons, UInt64.ofNat_toNat]
  rfl

example : Hex.encode (keccak256Nat []) =
    "c5d2460186f7233c927e7db2dcc703c0e500b653ca82273b7bfad8045d85a470" := by
  decide +kernel

/-! ## Hashes of texts -/

theorem keccak256Hex_eq (text : String) :
    keccak256Hex text = Hex.encode (keccak256Nat text.toByteArray.data.toList) := by
  rw [keccak256Hex, keccak256_eq, utf8Bytes_eq]

/-- The first byte of the hash of a text. -/
def firstByte (text : String) : Option UInt8 :=
  (keccak256Nat text.toByteArray.data.toList).head?

theorem firstByte_eq (text : String) : firstByte text = (keccak256 (utf8Bytes text)).head? := by
  rw [firstByte, keccak256_eq, utf8Bytes_eq]

theorem firstByte_congr {a b : String} (h : keccak256Hex a = keccak256Hex b) :
    firstByte a = firstByte b := by
  rw [keccak256Hex_eq, keccak256Hex_eq] at h
  rw [firstByte, firstByte, Hex.encode_inj h]

theorem nodup_keccak256Hex {texts : List String} (h : (texts.map firstByte).Nodup) :
    (texts.map keccak256Hex).Nodup :=
  (List.Nodup.of_map _ h).map_on fun _ ha _ hb heq =>
    List.inj_on_of_nodup_map h ha hb (firstByte_congr heq)

/-! ## Collisions -/

/-- Two different texts have the same hash. -/
def Collides (a b : String) : Prop := a ≠ b ∧ keccak256 (utf8Bytes a) = keccak256 (utf8Bytes b)

theorem keccak256Hex_eq_iff {a b : String} :
    keccak256Hex a = keccak256Hex b ↔ a = b ∨ Collides a b := by
  constructor
  · intro h
    by_cases hab : a = b
    · exact Or.inl hab
    · exact Or.inr ⟨hab, Hex.encode_inj h⟩
  · rintro (rfl | ⟨-, h⟩)
    · rfl
    · rw [keccak256Hex, keccak256Hex, h]

end ContractLens.Keccak
