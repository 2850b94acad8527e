import RevenueGuard.Kit.Sha256

/-
HMAC over SHA-256, with its authentication code as lower-case hexadecimal text.
-/
namespace Sha256

def Hash.words (s : Hash) : List UInt32 := [s.a, s.b, s.c, s.d, s.e, s.f, s.g, s.h]

def Hash.bytes (s : Hash) : List UInt8 := s.words.flatMap fun w => bigEndian 4 w.toNat

/-- A key longer than a block is digested first; a shorter one is filled up with zeros. -/
def blockKey (key : List UInt8) : List UInt8 :=
  let short := if 64 < key.length then (digest key).bytes else key
  short ++ List.replicate (64 - short.length) 0

def padKey (pad : UInt8) (key : List UInt8) : List UInt8 := (blockKey key).map (· ^^^ pad)

def hmacHexdigest (key message : List UInt8) : String :=
  hexdigest (padKey 0x5c key ++ (digest (padKey 0x36 key ++ message)).bytes)

section hexadecimal

def lowerHex : List Char := ['0', '1', '2', '3', '4', '5', '6', '7', '8', '9', 'a', 'b', 'c', 'd', 'e', 'f']

theorem digitChar_lowerHex : ∀ n < 16, Nat.digitChar n ∈ lowerHex := by decide

theorem hex_length (x : UInt32) : (hex x).length = 8 := by simp [hex]

theorem hex_lowerHex (x : UInt32) : ∀ c ∈ hex x, c ∈ lowerHex := by
  intro c member
  obtain ⟨i, -, rfl⟩ := List.mem_map.mp member
  exact digitChar_lowerHex _ (Nat.mod_lt _ (by decide))

theorem hexdigest_length (bytes : List UInt8) : (hexdigest bytes).length = 64 := by
  simp [hexdigest, hex_length]

theorem hexdigest_lowerHex (bytes : List UInt8) : ∀ c ∈ (hexdigest bytes).toList, c ∈ lowerHex := by
  intro c member
  simp only [hexdigest, String.toList_ofList] at member
  obtain ⟨x, -, here⟩ := List.mem_flatMap.mp member
  exact hex_lowerHex x c here

theorem lowerHex_toLower : ∀ c ∈ lowerHex, c.toLower = c := by
  intro c member
  have all : lowerHex.all (fun c => decide (c.toLower = c)) = true := by decide
  exact of_decide_eq_true (List.all_eq_true.mp all c member)

/-- Lower-casing leaves a digest as it is. -/
theorem map_toLower_hexdigest (bytes : List UInt8) : (hexdigest bytes).map Char.toLower = hexdigest bytes := by
  rw [← String.toList_inj, String.toList_map]
  conv => rhs; rw [← List.map_id (hexdigest bytes).toList]
  apply List.map_congr_left
  intro c member
  exact lowerHex_toLower c (hexdigest_lowerHex bytes c member)

end hexadecimal

example : hmacHexdigest "Jefe".toUTF8.toList "what do ya want for nothing?".toUTF8.toList =
    "5bdcc146bf60754e6a042426089575c75a003f089d2739839dec58b964ec3843" := by decide +kernel

end Sha256
