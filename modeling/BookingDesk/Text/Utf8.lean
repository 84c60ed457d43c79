/-!
UTF-8 text as bytes. A byte sequence is cut into pieces: a well-formed character,
or a longest broken start of one. Strict reading wants characters only; lenient
reading shows each broken piece as U+FFFD.
-/

namespace BookingDesk.Text.Utf8

def plainTail : Nat × Nat := (0x80, 0xBF)

/-- What a first byte fixes: the leading bits of the character, and the bounds of
each byte that has to follow. No character starts with the other bytes. -/
def lead (b : UInt8) : Option (Nat × List (Nat × Nat)) :=
  let n := b.toNat
  if n < 0x80 then some (n, [])
  else if 0xC2 ≤ n ∧ n ≤ 0xDF then some (n - 0xC0, [plainTail])
  else if n = 0xE0 then some (0, [(0xA0, 0xBF), plainTail])
  else if n = 0xED then some (0xD, [(0x80, 0x9F), plainTail])
  else if 0xE1 ≤ n ∧ n ≤ 0xEF then some (n - 0xE0, [plainTail, plainTail])
  else if n = 0xF0 then some (0, [(0x90, 0xBF), plainTail, plainTail])
  else if 0xF1 ≤ n ∧ n ≤ 0xF3 then some (n - 0xF0, [plainTail, plainTail, plainTail])
  else if n = 0xF4 then some (4, [(0x80, 0x8F), plainTail, plainTail])
  else none

/-- Reads the bytes that have to follow. A byte out of bounds breaks the character
off and is left for the next one. -/
def follow (bits : Nat) : List (Nat × Nat) → List UInt8 → Option Char × List UInt8
  | [], rest => (some (Char.ofNat bits), rest)
  | _ :: _, [] => (none, [])
  | (low, high) :: bounds, b :: rest =>
    if low ≤ b.toNat ∧ b.toNat ≤ high then follow (bits * 64 + b.toNat % 64) bounds rest
    else (none, b :: rest)

def piece (b : UInt8) (rest : List UInt8) : Option Char × List UInt8 :=
  match lead b with
  | some (bits, bounds) => follow bits bounds rest
  | none => (none, rest)

theorem length_follow_le (bits : Nat) (bounds : List (Nat × Nat)) (rest : List UInt8) :
    (follow bits bounds rest).2.length ≤ rest.length := by
  fun_induction follow bits bounds rest with
  | case1 => exact Nat.le_refl _
  | case2 => exact Nat.le_refl _
  | case3 bits low high bounds b rest inside ih =>
    exact Nat.le_trans ih (Nat.le_succ _)
  | case4 => exact Nat.le_refl _

theorem length_piece_le (b : UInt8) (rest : List UInt8) :
    (piece b rest).2.length ≤ rest.length := by
  unfold piece
  split
  · exact length_follow_le _ _ _
  · exact Nat.le_refl _

/-- The bytes cut into pieces; a broken piece is `none`. -/
def pieces : List UInt8 → List (Option Char)
  | [] => []
  | b :: rest => (piece b rest).1 :: pieces (piece b rest).2
termination_by bytes => bytes.length
decreasing_by exact Nat.lt_succ_of_le (length_piece_le b rest)

def decode? (bytes : List UInt8) : Option String :=
  ((pieces bytes).mapM id).map String.ofList

/-- The text with U+FFFD for each broken piece. -/
def decodeLossy (bytes : List UInt8) : String :=
  String.ofList ((pieces bytes).map (·.getD '\uFFFD'))

def ascii (s : String) : List UInt8 :=
  s.toList.map fun c => c.toNat.toUInt8

end BookingDesk.Text.Utf8
