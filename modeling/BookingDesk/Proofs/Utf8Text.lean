import BookingDesk.Text.Utf8

/-!
Strict reading of bytes and the bytes of a text are inverse to each other: every text is
read back from its bytes, and no other bytes can be read.
-/

namespace BookingDesk.Text.Utf8

def encode (s : String) : List UInt8 :=
  s.toUTF8.data.toList

theorem encode_ofList (cs : List Char) :
    encode (String.ofList cs) = cs.flatMap String.utf8EncodeChar := by
  rw [encode, String.toUTF8_eq_toByteArray, String.toByteArray_ofList, List.utf8Encode,
    List.data_toByteArray]

theorem toNat_ofNat (n : Nat) (valid : n.isValidChar) : (Char.ofNat n).val.toNat = n := by
  rw [Char.ofNat, dif_pos valid]
  rfl

theorem eq_ofNat_of_toNat_eq (b : UInt8) (n : Nat) (same : b.toNat = n) : b = UInt8.ofNat n := by
  rw [← same, UInt8.ofNat_toNat]

theorem encode_one (n : Nat) (small : n < 0x80) :
    String.utf8EncodeChar (Char.ofNat n) = [UInt8.ofNat n] := by
  have value := toNat_ofNat n (.inl (by omega))
  simp only [String.utf8EncodeChar, value]
  rw [if_pos (by omega)]

theorem encode_two (n : Nat) (low : 0x80 ≤ n) (high : n < 0x800) :
    String.utf8EncodeChar (Char.ofNat n) =
      [UInt8.ofNat (n / 64 + 0xC0), UInt8.ofNat (n % 64 + 0x80)] := by
  have value := toNat_ofNat n (.inl (by omega))
  have short : n / 64 % 32 = n / 64 := by omega
  simp only [String.utf8EncodeChar, value, short]
  rw [if_neg (by omega), if_pos (by omega)]

theorem encode_three (n : Nat) (low : 0x800 ≤ n) (high : n < 0x10000) (valid : n.isValidChar) :
    String.utf8EncodeChar (Char.ofNat n) =
      [UInt8.ofNat (n / 4096 + 0xE0), UInt8.ofNat (n / 64 % 64 + 0x80),
        UInt8.ofNat (n % 64 + 0x80)] := by
  have value := toNat_ofNat n valid
  have short : n / 4096 % 16 = n / 4096 := by omega
  simp only [String.utf8EncodeChar, value, short]
  rw [if_neg (by omega), if_neg (by omega), if_pos (by omega)]

theorem encode_four (n : Nat) (low : 0x10000 ≤ n) (high : n < 0x110000) :
    String.utf8EncodeChar (Char.ofNat n) =
      [UInt8.ofNat (n / 262144 + 0xF0), UInt8.ofNat (n / 4096 % 64 + 0x80),
        UInt8.ofNat (n / 64 % 64 + 0x80), UInt8.ofNat (n % 64 + 0x80)] := by
  have value := toNat_ofNat n (.inr (by omega))
  have short : n / 262144 % 8 = n / 262144 := by omega
  simp only [String.utf8EncodeChar, value, short]
  rw [if_neg (by omega), if_neg (by omega), if_neg (by omega)]

/-- The bounds of the second byte after a first byte `n` that wants more than one. -/
def secondBounds (n : Nat) : Nat × Nat :=
  (if n = 0xE0 then 0xA0 else if n = 0xF0 then 0x90 else 0x80,
    if n = 0xED then 0x9F else if n = 0xF4 then 0x8F else 0xBF)

theorem within_secondBounds_iff (n x : Nat) :
    ((secondBounds n).1 ≤ x ∧ x ≤ (secondBounds n).2) ↔
      (0x80 ≤ x ∧ x ≤ 0xBF) ∧ (n = 0xE0 → 0xA0 ≤ x) ∧ (n = 0xED → x ≤ 0x9F) ∧
        (n = 0xF0 → 0x90 ≤ x) ∧ (n = 0xF4 → x ≤ 0x8F) := by
  simp only [secondBounds]
  grind

theorem lead_one (b : UInt8) (small : b.toNat < 0x80) : lead b = some (b.toNat, []) := by
  simp only [lead]
  rw [if_pos small]

theorem lead_two (b : UInt8) (low : 0xC2 ≤ b.toNat) (high : b.toNat ≤ 0xDF) :
    lead b = some (b.toNat - 0xC0, [plainTail]) := by
  simp only [lead]
  rw [if_neg (by omega), if_pos ⟨low, high⟩]

theorem lead_three (b : UInt8) (low : 0xE0 ≤ b.toNat) (high : b.toNat ≤ 0xEF) :
    lead b = some (b.toNat - 0xE0, [secondBounds b.toNat, plainTail]) := by
  simp only [lead]
  rw [if_neg (by omega), if_neg (by omega)]
  by_cases first : b.toNat = 0xE0
  · simp [first, secondBounds]
  · rw [if_neg first]
    by_cases surrogates : b.toNat = 0xED
    · simp [surrogates, secondBounds]
    · rw [if_neg surrogates, if_pos (by omega), secondBounds, if_neg first, if_neg (by omega),
        if_neg surrogates, if_neg (by omega)]
      rfl

theorem lead_four (b : UInt8) (low : 0xF0 ≤ b.toNat) (high : b.toNat ≤ 0xF4) :
    lead b = some (b.toNat - 0xF0, [secondBounds b.toNat, plainTail, plainTail]) := by
  simp only [lead]
  rw [if_neg (by omega), if_neg (by omega), if_neg (by omega), if_neg (by omega),
    if_neg (by omega)]
  by_cases first : b.toNat = 0xF0
  · simp [first, secondBounds]
  · rw [if_neg first]
    by_cases last : b.toNat = 0xF4
    · simp [last, secondBounds]
    · rw [if_pos (by omega), secondBounds, if_neg (by omega), if_neg first, if_neg (by omega),
        if_neg last]
      rfl

theorem lead_none (b : UInt8)
    (other : (0x80 ≤ b.toNat ∧ b.toNat < 0xC2) ∨ 0xF4 < b.toNat) : lead b = none := by
  simp only [lead]
  rw [if_neg (by omega), if_neg (by omega), if_neg (by omega), if_neg (by omega),
    if_neg (by omega), if_neg (by omega), if_neg (by omega), if_neg (by omega)]

theorem follow_cons (bits : Nat) (bound : Nat × Nat) (bounds : List (Nat × Nat)) (b : UInt8)
    (bytes : List UInt8) (inside : bound.1 ≤ b.toNat ∧ b.toNat ≤ bound.2) :
    follow bits (bound :: bounds) (b :: bytes) =
      follow (bits * 64 + b.toNat % 64) bounds bytes := by
  obtain ⟨low, high⟩ := bound
  rw [follow, if_pos inside]

theorem follow_cons_some (bits : Nat) (bound : Nat × Nat) (bounds : List (Nat × Nat))
    (bytes rest : List UInt8) (c : Char)
    (read : follow bits (bound :: bounds) bytes = (some c, rest)) :
    ∃ b others, bytes = b :: others ∧ (bound.1 ≤ b.toNat ∧ b.toNat ≤ bound.2) ∧
      follow (bits * 64 + b.toNat % 64) bounds others = (some c, rest) := by
  cases bytes with
  | nil => simp [follow] at read
  | cons b others =>
    by_cases inside : bound.1 ≤ b.toNat ∧ b.toNat ≤ bound.2
    · rw [follow_cons bits bound bounds b others inside] at read
      exact ⟨b, others, rfl, inside, read⟩
    · rw [follow, if_neg inside] at read
      simp at read

theorem follow_nil_some (bits : Nat) (bytes rest : List UInt8) (c : Char)
    (read : follow bits [] bytes = (some c, rest)) : c = Char.ofNat bits ∧ bytes = rest := by
  rw [follow, Prod.mk.injEq, Option.some.injEq] at read
  exact ⟨read.1.symm, read.2⟩

theorem encode_join_two (b b₁ : UInt8) (first : 0xC2 ≤ b.toNat ∧ b.toNat ≤ 0xDF)
    (second : 0x80 ≤ b₁.toNat ∧ b₁.toNat ≤ 0xBF) :
    String.utf8EncodeChar (Char.ofNat ((b.toNat - 0xC0) * 64 + b₁.toNat % 64)) = [b, b₁] := by
  generalize number : (b.toNat - 0xC0) * 64 + b₁.toNat % 64 = n
  rw [encode_two n (by omega) (by omega), ← eq_ofNat_of_toNat_eq b _ (by omega),
    ← eq_ofNat_of_toNat_eq b₁ _ (by omega)]

theorem encode_join_three (b b₁ b₂ : UInt8) (first : 0xE0 ≤ b.toNat ∧ b.toNat ≤ 0xEF)
    (second : (secondBounds b.toNat).1 ≤ b₁.toNat ∧ b₁.toNat ≤ (secondBounds b.toNat).2)
    (third : 0x80 ≤ b₂.toNat ∧ b₂.toNat ≤ 0xBF) :
    String.utf8EncodeChar
      (Char.ofNat (((b.toNat - 0xE0) * 64 + b₁.toNat % 64) * 64 + b₂.toNat % 64)) =
      [b, b₁, b₂] := by
  rw [within_secondBounds_iff] at second
  generalize number : ((b.toNat - 0xE0) * 64 + b₁.toNat % 64) * 64 + b₂.toNat % 64 = n
  have valid : n < 0xD800 ∨ 0xDFFF < n ∧ n < 0x110000 := by omega
  rw [encode_three n (by omega) (by omega) valid, ← eq_ofNat_of_toNat_eq b _ (by omega),
    ← eq_ofNat_of_toNat_eq b₁ _ (by omega), ← eq_ofNat_of_toNat_eq b₂ _ (by omega)]

theorem encode_join_four (b b₁ b₂ b₃ : UInt8) (first : 0xF0 ≤ b.toNat ∧ b.toNat ≤ 0xF4)
    (second : (secondBounds b.toNat).1 ≤ b₁.toNat ∧ b₁.toNat ≤ (secondBounds b.toNat).2)
    (third : 0x80 ≤ b₂.toNat ∧ b₂.toNat ≤ 0xBF) (fourth : 0x80 ≤ b₃.toNat ∧ b₃.toNat ≤ 0xBF) :
    String.utf8EncodeChar (Char.ofNat
      ((((b.toNat - 0xF0) * 64 + b₁.toNat % 64) * 64 + b₂.toNat % 64) * 64 + b₃.toNat % 64)) =
      [b, b₁, b₂, b₃] := by
  rw [within_secondBounds_iff] at second
  generalize number :
    (((b.toNat - 0xF0) * 64 + b₁.toNat % 64) * 64 + b₂.toNat % 64) * 64 + b₃.toNat % 64 = n
  rw [encode_four n (by omega) (by omega), ← eq_ofNat_of_toNat_eq b _ (by omega),
    ← eq_ofNat_of_toNat_eq b₁ _ (by omega), ← eq_ofNat_of_toNat_eq b₂ _ (by omega),
    ← eq_ofNat_of_toNat_eq b₃ _ (by omega)]

theorem bytes_of_piece (b : UInt8) (bytes rest : List UInt8) (c : Char)
    (read : piece b bytes = (some c, rest)) : b :: bytes = String.utf8EncodeChar c ++ rest := by
  -- The first byte says how many bytes follow; then the number can be written out.
  have range := b.toNat_lt
  by_cases one : b.toNat < 0x80
  · simp only [piece, lead_one b one] at read
    obtain ⟨rfl, rfl⟩ := follow_nil_some _ _ _ _ read
    rw [encode_one _ one, UInt8.ofNat_toNat, List.singleton_append]
  by_cases two : 0xC2 ≤ b.toNat ∧ b.toNat ≤ 0xDF
  · simp only [piece, lead_two b two.1 two.2] at read
    obtain ⟨b₁, bytes, rfl, inside, read⟩ := follow_cons_some _ _ _ _ _ _ read
    obtain ⟨rfl, rfl⟩ := follow_nil_some _ _ _ _ read
    rw [encode_join_two b b₁ two inside]
    rfl
  by_cases three : 0xE0 ≤ b.toNat ∧ b.toNat ≤ 0xEF
  · simp only [piece, lead_three b three.1 three.2] at read
    obtain ⟨b₁, bytes, rfl, inside, read⟩ := follow_cons_some _ _ _ _ _ _ read
    obtain ⟨b₂, bytes, rfl, inside₂, read⟩ := follow_cons_some _ _ _ _ _ _ read
    obtain ⟨rfl, rfl⟩ := follow_nil_some _ _ _ _ read
    rw [encode_join_three b b₁ b₂ three inside inside₂]
    rfl
  by_cases four : 0xF0 ≤ b.toNat ∧ b.toNat ≤ 0xF4
  · simp only [piece, lead_four b four.1 four.2] at read
    obtain ⟨b₁, bytes, rfl, inside, read⟩ := follow_cons_some _ _ _ _ _ _ read
    obtain ⟨b₂, bytes, rfl, inside₂, read⟩ := follow_cons_some _ _ _ _ _ _ read
    obtain ⟨b₃, bytes, rfl, inside₃, read⟩ := follow_cons_some _ _ _ _ _ _ read
    obtain ⟨rfl, rfl⟩ := follow_nil_some _ _ _ _ read
    rw [encode_join_four b b₁ b₂ b₃ four inside inside₂ inside₃]
    rfl
  · simp [piece, lead_none b (by omega)] at read

theorem piece_two (b b₁ : UInt8) (rest : List UInt8) (first : 0xC2 ≤ b.toNat ∧ b.toNat ≤ 0xDF)
    (second : 0x80 ≤ b₁.toNat ∧ b₁.toNat ≤ 0xBF) :
    piece b (b₁ :: rest) =
      (some (Char.ofNat ((b.toNat - 0xC0) * 64 + b₁.toNat % 64)), rest) := by
  simp only [piece, lead_two b first.1 first.2]
  rw [follow_cons _ _ _ _ _ second, follow]

theorem piece_three (b b₁ b₂ : UInt8) (rest : List UInt8)
    (first : 0xE0 ≤ b.toNat ∧ b.toNat ≤ 0xEF)
    (second : (secondBounds b.toNat).1 ≤ b₁.toNat ∧ b₁.toNat ≤ (secondBounds b.toNat).2)
    (third : 0x80 ≤ b₂.toNat ∧ b₂.toNat ≤ 0xBF) :
    piece b (b₁ :: b₂ :: rest) =
      (some (Char.ofNat (((b.toNat - 0xE0) * 64 + b₁.toNat % 64) * 64 + b₂.toNat % 64)), rest) := by
  simp only [piece, lead_three b first.1 first.2]
  rw [follow_cons _ _ _ _ _ second, follow_cons _ _ _ _ _ third, follow]

theorem piece_four (b b₁ b₂ b₃ : UInt8) (rest : List UInt8)
    (first : 0xF0 ≤ b.toNat ∧ b.toNat ≤ 0xF4)
    (second : (secondBounds b.toNat).1 ≤ b₁.toNat ∧ b₁.toNat ≤ (secondBounds b.toNat).2)
    (third : 0x80 ≤ b₂.toNat ∧ b₂.toNat ≤ 0xBF) (fourth : 0x80 ≤ b₃.toNat ∧ b₃.toNat ≤ 0xBF) :
    piece b (b₁ :: b₂ :: b₃ :: rest) =
      (some (Char.ofNat ((((b.toNat - 0xF0) * 64 + b₁.toNat % 64) * 64 + b₂.toNat % 64) * 64 +
        b₃.toNat % 64)), rest) := by
  simp only [piece, lead_four b first.1 first.2]
  rw [follow_cons _ _ _ _ _ second, follow_cons _ _ _ _ _ third, follow_cons _ _ _ _ _ fourth,
    follow]

theorem byte_toNat (n : Nat) (small : n < 256) : (UInt8.ofNat n).toNat = n := by
  rw [UInt8.toNat_ofNat']
  omega

theorem piece_of_bytes (n : Nat) (valid : n.isValidChar) (rest : List UInt8) :
    ∃ b bytes, String.utf8EncodeChar (Char.ofNat n) = b :: bytes ∧
      piece b (bytes ++ rest) = (some (Char.ofNat n), rest) := by
  have valid : n < 0xD800 ∨ 0xDFFF < n ∧ n < 0x110000 := valid
  have last := byte_toNat (n % 64 + 0x80) (by omega)
  have middle := byte_toNat (n / 64 % 64 + 0x80) (by omega)
  by_cases one : n < 0x80
  · have first := byte_toNat n (by omega)
    refine ⟨_, _, encode_one n one, ?_⟩
    rw [piece, lead_one _ (by omega), first]
    rfl
  by_cases two : n < 0x800
  · have first := byte_toNat (n / 64 + 0xC0) (by omega)
    have number : (n / 64 + 0xC0 - 0xC0) * 64 + (n % 64 + 0x80) % 64 = n := by omega
    refine ⟨_, _, encode_two n (by omega) two, ?_⟩
    rw [List.singleton_append, piece_two _ _ _ (by omega) (by omega), first, last, number]
  by_cases three : n < 0x10000
  · have first := byte_toNat (n / 4096 + 0xE0) (by omega)
    have number : ((n / 4096 + 0xE0 - 0xE0) * 64 + (n / 64 % 64 + 0x80) % 64) * 64 +
        (n % 64 + 0x80) % 64 = n := by omega
    refine ⟨_, _, encode_three n (by omega) three valid, ?_⟩
    rw [List.cons_append, List.singleton_append,
      piece_three _ _ _ _ (by omega) (by rw [within_secondBounds_iff]; omega) (by omega),
      first, middle, last, number]
  · have first := byte_toNat (n / 262144 + 0xF0) (by omega)
    have second := byte_toNat (n / 4096 % 64 + 0x80) (by omega)
    have number : (((n / 262144 + 0xF0 - 0xF0) * 64 + (n / 4096 % 64 + 0x80) % 64) * 64 +
        (n / 64 % 64 + 0x80) % 64) * 64 + (n % 64 + 0x80) % 64 = n := by omega
    refine ⟨_, _, encode_four n (by omega) (by omega), ?_⟩
    rw [List.cons_append, List.cons_append, List.singleton_append,
      piece_four _ _ _ _ _ (by omega) (by rw [within_secondBounds_iff]; omega) (by omega)
        (by omega), first, second, middle, last, number]

theorem pieces_encodeChar (c : Char) (rest : List UInt8) :
    pieces (String.utf8EncodeChar c ++ rest) = some c :: pieces rest := by
  obtain ⟨b, bytes, written, read⟩ := piece_of_bytes c.toNat c.valid rest
  rw [Char.ofNat_toNat] at written read
  rw [written, List.cons_append, pieces, read]

theorem pieces_encode (cs : List Char) :
    pieces (cs.flatMap String.utf8EncodeChar) = cs.map some := by
  induction cs with
  | nil => rw [List.flatMap_nil, pieces, List.map_nil]
  | cons c rest ih => rw [List.flatMap_cons, pieces_encodeChar, ih, List.map_cons]

theorem bytes_of_pieces (bytes : List UInt8) (cs : List Char) (read : pieces bytes = cs.map some) :
    bytes = cs.flatMap String.utf8EncodeChar := by
  induction cs generalizing bytes with
  | nil =>
    cases bytes with
    | nil => rfl
    | cons b others =>
      rw [pieces] at read
      contradiction
  | cons c rest ih =>
    cases bytes with
    | nil =>
      rw [pieces] at read
      contradiction
    | cons b others =>
      rw [pieces, List.map_cons, List.cons.injEq] at read
      rw [List.flatMap_cons, ← ih _ read.2]
      exact bytes_of_piece b others _ c (Prod.ext read.1 rfl)

theorem mapM_id_map_some (cs : List Char) : (cs.map some).mapM id = some cs := by
  induction cs with
  | nil => rfl
  | cons c rest ih => simp [List.mapM_cons, ih]

theorem eq_map_some_of_mapM_id (pieces : List (Option Char)) (cs : List Char)
    (whole : pieces.mapM id = some cs) : pieces = cs.map some := by
  induction pieces generalizing cs with
  | nil =>
    obtain rfl : [] = cs := by simpa using whole
    rfl
  | cons first rest ih =>
    cases first with
    | none => simp [List.mapM_cons] at whole
    | some c =>
      rw [List.mapM_cons] at whole
      change ((rest.mapM id).bind fun others => some (c :: others)) = some cs at whole
      obtain ⟨others, read, same⟩ := Option.bind_eq_some_iff.mp whole
      obtain rfl : c :: others = cs := Option.some.inj same
      rw [ih others read, List.map_cons]

/-- Bytes are read as a text if, and only if, they are the bytes of that text. -/
theorem decode?_eq_some_iff (bytes : List UInt8) (s : String) :
    decode? bytes = some s ↔ bytes = encode s := by
  obtain ⟨cs, rfl⟩ : ∃ cs, s = String.ofList cs := ⟨s.toList, String.ofList_toList.symm⟩
  rw [encode_ofList, decode?, Option.map_eq_some_iff]
  constructor
  · rintro ⟨ds, read, same⟩
    rw [String.ofList_inj] at same
    rw [← same]
    exact bytes_of_pieces bytes ds (eq_map_some_of_mapM_id _ _ read)
  · rintro rfl
    rw [pieces_encode]
    exact ⟨cs, mapM_id_map_some cs, rfl⟩

end BookingDesk.Text.Utf8
