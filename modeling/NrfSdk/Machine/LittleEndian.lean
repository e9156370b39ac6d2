import NrfSdk.Machine.Word

/-!
Little-endian byte strings: the `count` low bytes of a number, least significant first, and the number a
string of bytes spells. Zephyr's sys_get_le16/24/32 and sys_put_le16/24/32 are these at two, three and
four bytes; its big-endian reads spell the same bytes reversed.
-/

namespace Machine

def leBytes : Nat → Nat → List UInt8
  | 0, _ => []
  | count + 1, value => (value % 256).toUInt8 :: leBytes count (value / 256)

def leValue : List UInt8 → Nat
  | [] => 0
  | byte :: rest => byte.toNat + 256 * leValue rest

@[simp] theorem leBytes_length (count value : Nat) : (leBytes count value).length = count := by
  induction count generalizing value with
  | zero => rfl
  | succ count ih => simp [leBytes, ih]

theorem leValue_leBytes (count value : Nat) : leValue (leBytes count value) = value % 2 ^ (8 * count) := by
  induction count generalizing value with
  | zero => simp [leBytes, leValue, Nat.mod_one]
  | succ count ih =>
    have low : ((value % 256).toUInt8).toNat = value % 256 := by simp
    have power : 2 ^ (8 * (count + 1)) = 256 * 2 ^ (8 * count) := by ring
    rw [leBytes, leValue, ih, low, power, Nat.mod_mul]

def sysGetLe (count : Nat) (src : List UInt8) : Nat := leValue (src.take count)

def sysGetLe16 (src : List UInt8) : Nat := sysGetLe 2 src
def sysGetLe24 (src : List UInt8) : Nat := sysGetLe 3 src
def sysGetLe32 (src : List UInt8) : Nat := sysGetLe 4 src

def sysPutLe16 (val : Nat) : List UInt8 := leBytes 2 val
def sysPutLe24 (val : Nat) : List UInt8 := leBytes 3 val
def sysPutLe32 (val : Nat) : List UInt8 := leBytes 4 val

theorem sysGetLe_leBytes (count value : Nat) : sysGetLe count (leBytes count value) = value % 2 ^ (8 * count) := by
  rw [sysGetLe, List.take_of_length_le (by simp), leValue_leBytes]

def sysGetBe (count : Nat) (src : List UInt8) : Nat := leValue (src.take count).reverse

def sysGetBe16 (src : List UInt8) : Nat := sysGetBe 2 src

theorem sysGetBe16_cons (high low : UInt8) (rest : List UInt8) :
    sysGetBe16 (high :: low :: rest) = high.toNat * 256 + low.toNat := by
  simp only [sysGetBe16, sysGetBe, List.take_succ_cons, List.take_zero, List.reverse_cons, List.reverse_nil,
    List.nil_append, List.cons_append, leValue]
  omega

theorem sysGetBe_congr {count : Nat} {src other : List UInt8} (same : src.take count = other.take count) :
    sysGetBe count src = sysGetBe count other := by
  rw [sysGetBe, sysGetBe, same]

end Machine
