import LogDevice.Lib.Bytes
import LogDevice.Lib.Except

/-!
# Fixed-size values on the wire

A `FixedCodec` is a type written as a fixed number of bytes, with a decoder that gives back every
value it accepts as canonical: the contract a protocol writer and reader keep for the plain values
and packed structs they copy in and out. Codecs for unsigned integers in host order
(little-endian), for two fields one after the other (`prod`), and for a type in bijection with
another (`map`) build the codec of a packed struct from those of its fields, with its laws.

`read` takes a value off the front of a byte list, failing with a given error where too few bytes
are left; `read_append` reads back what was written.
-/

namespace LogDevice.Lib

/-- A type written as `size` bytes; `decode` gives back every `Canonical` value. -/
structure FixedCodec (α : Type) where
  size : ℕ
  encode : α → List UInt8
  decode : List UInt8 → α
  Canonical : α → Prop
  length_encode : ∀ a, (encode a).length = size
  decode_encode : ∀ a, Canonical a → decode (encode a) = a

namespace FixedCodec

variable {α β : Type}

/-- One byte. -/
def uint8 : FixedCodec UInt8 where
  size := 1
  encode x := [x]
  decode bytes := bytes.headD 0
  Canonical _ := True
  length_encode _ := rfl
  decode_encode _ _ := rfl

/-- A `uint16_t` in host order. -/
def uint16 : FixedCodec UInt16 where
  size := 2
  encode x := leBytes 2 x.toNat
  decode bytes := (ofLeBytes bytes).toUInt16
  Canonical _ := True
  length_encode _ := length_leBytes 2 _
  decode_encode x _ := toUInt16_ofLeBytes x

/-- A `uint32_t` in host order. -/
def uint32 : FixedCodec UInt32 where
  size := 4
  encode x := leBytes 4 x.toNat
  decode bytes := (ofLeBytes bytes).toUInt32
  Canonical _ := True
  length_encode _ := length_leBytes 4 _
  decode_encode x _ := toUInt32_ofLeBytes x

/-- A `uint64_t` in host order. -/
def uint64 : FixedCodec UInt64 where
  size := 8
  encode x := leBytes 8 x.toNat
  decode bytes := (ofLeBytes bytes).toUInt64
  Canonical _ := True
  length_encode _ := length_leBytes 8 _
  decode_encode x _ := toUInt64_ofLeBytes x

/-- A number below `256 ^ n` in `n` bytes, in host order. -/
def nat (n : ℕ) : FixedCodec ℕ where
  size := n
  encode x := leBytes n x
  decode bytes := ofLeBytes bytes
  Canonical x := x < 256 ^ n
  length_encode _ := length_leBytes n _
  decode_encode x h := by rw [ofLeBytes_leBytes, Nat.mod_eq_of_lt h]

/-- Two fields, the first one first. -/
def prod (c₁ : FixedCodec α) (c₂ : FixedCodec β) : FixedCodec (α × β) where
  size := c₁.size + c₂.size
  encode p := c₁.encode p.1 ++ c₂.encode p.2
  decode bytes := (c₁.decode (bytes.take c₁.size), c₂.decode (bytes.drop c₁.size))
  Canonical p := c₁.Canonical p.1 ∧ c₂.Canonical p.2
  length_encode p := by rw [List.length_append, c₁.length_encode, c₂.length_encode]
  decode_encode p h := by
    rw [List.take_left' (c₁.length_encode p.1), List.drop_left' (c₁.length_encode p.1),
      c₁.decode_encode p.1 h.1, c₂.decode_encode p.2 h.2]

/-- A type in bijection with one that has a codec. -/
def map (c : FixedCodec α) (f : α → β) (g : β → α) (hfg : ∀ b, f (g b) = b) : FixedCodec β where
  size := c.size
  encode b := c.encode (g b)
  decode bytes := f (c.decode bytes)
  Canonical b := c.Canonical (g b)
  length_encode b := c.length_encode (g b)
  decode_encode b h := by rw [c.decode_encode (g b) h, hfg]

@[simp] lemma prod_canonical (c₁ : FixedCodec α) (c₂ : FixedCodec β) (p : α × β) :
    (c₁.prod c₂).Canonical p ↔ c₁.Canonical p.1 ∧ c₂.Canonical p.2 := Iff.rfl

@[simp] lemma map_canonical (c : FixedCodec α) (f : α → β) (g : β → α) (hfg : ∀ b, f (g b) = b)
    (b : β) : (c.map f g hfg).Canonical b ↔ c.Canonical (g b) := Iff.rfl

@[simp] lemma uint8_canonical (x : UInt8) : uint8.Canonical x := trivial
@[simp] lemma uint16_canonical (x : UInt16) : uint16.Canonical x := trivial
@[simp] lemma uint32_canonical (x : UInt32) : uint32.Canonical x := trivial
@[simp] lemma uint64_canonical (x : UInt64) : uint64.Canonical x := trivial
@[simp] lemma nat_canonical (n x : ℕ) : (nat n).Canonical x ↔ x < 256 ^ n := Iff.rfl

/-! ### Reading -/

/-- A value off the front of `rest`, or `err` where fewer than `c.size` bytes are left. -/
def read {ε : Type} (c : FixedCodec α) (err : ε) (rest : List UInt8) : Except ε (α × List UInt8) :=
  if c.size ≤ rest.length then .ok (c.decode (rest.take c.size), rest.drop c.size) else .error err

/-- A canonical value reads back from its bytes, the bytes after it untouched. -/
lemma read_append {ε : Type} (c : FixedCodec α) (err : ε) {a : α} (h : c.Canonical a)
    (rest : List UInt8) : c.read err (c.encode a ++ rest) = .ok (a, rest) := by
  have hlen := c.length_encode a
  rw [read, if_pos (by simp [hlen]), List.take_left' hlen, List.drop_left' hlen,
    c.decode_encode a h]

/-- `n` values one after the other. -/
def readVector {ε : Type} (c : FixedCodec α) (err : ε) :
    ℕ → List UInt8 → Except ε (List α × List UInt8)
  | 0, rest => .ok ([], rest)
  | n + 1, rest => do
    let (a, rest) ← c.read err rest
    let (as, rest) ← c.readVector err n rest
    return (a :: as, rest)

/-- Canonical values written one after the other read back. -/
lemma readVector_flatMap {ε : Type} (c : FixedCodec α) (err : ε) (rest : List UInt8) :
    ∀ (as : List α), (∀ a ∈ as, c.Canonical a) →
      c.readVector err as.length (as.flatMap c.encode ++ rest) = .ok (as, rest)
  | [], _ => rfl
  | a :: as, h => by
    have ha := h a List.mem_cons_self
    have has : ∀ a' ∈ as, c.Canonical a' := fun a' ha' => h a' (List.mem_cons_of_mem a ha')
    rw [List.length_cons, readVector, List.flatMap_cons, List.append_assoc, c.read_append err ha,
      Except.bind_ok']
    dsimp only
    rw [readVector_flatMap c err rest as has, Except.bind_ok']
    rfl

end FixedCodec

/-- A section read only where `c` holds: elsewhere nothing is read and the value is `dflt`. -/
def readIf {α ε : Type} (c : Prop) [Decidable c] (read : List UInt8 → Except ε (α × List UInt8))
    (dflt : α) (rest : List UInt8) : Except ε (α × List UInt8) :=
  if c then read rest else .ok (dflt, rest)

/-- A section the writer writes under the same condition reads back where it holds, and nothing is
read where it does not. -/
lemma readIf_append {α ε : Type} (c : Prop) [Decidable c]
    (read : List UInt8 → Except ε (α × List UInt8)) (bytes rest : List UInt8) (a dflt : α)
    (hread : c → read (bytes ++ rest) = .ok (a, rest)) :
    readIf c read dflt ((if c then bytes else []) ++ rest) = .ok (if c then a else dflt, rest) := by
  unfold readIf
  split_ifs with hc
  · exact hread hc
  · rfl

end LogDevice.Lib
