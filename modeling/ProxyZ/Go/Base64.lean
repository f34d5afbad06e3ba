import ProxyZ.Go.Bytes

/-!
# Base64

`base64.StdEncoding`: three bytes as four letters, a last group of one or two bytes filled up with `=`.
Decoding passes over line breaks and fails at the first byte that does not fit, with its index.

Decoding undoes encoding (`decodeString_encodeToString`), and the text of `n` bytes is `4 * ⌈n / 3⌉` letters,
digits, `+`, `/` and `=` (`length_encodeToString`, `isBase64_of_mem`).
-/

namespace Go

/-- The letter of a 6-bit digit. -/
def digit64 (d : Nat) : UInt8 :=
  if d < 26 then UInt8.ofNat (d + 65)
  else if d < 52 then UInt8.ofNat (d + 71)
  else if d < 62 then UInt8.ofNat (d - 4)
  else if d = 62 then 43
  else 47

/-- The digit of a letter. -/
def value64 (c : UInt8) : Option Nat :=
  if 65 ≤ c ∧ c ≤ 90 then some (c.toNat - 65)
  else if 97 ≤ c ∧ c ≤ 122 then some (c.toNat - 71)
  else if 48 ≤ c ∧ c ≤ 57 then some (c.toNat + 4)
  else if c = 43 then some 62
  else if c = 47 then some 63
  else none

def encodeToString : Bytes → Str
  | a :: b :: c :: rest =>
      digit64 (a.toNat / 4) :: digit64 (a.toNat % 4 * 16 + b.toNat / 16) ::
        digit64 (b.toNat % 16 * 4 + c.toNat / 64) :: digit64 (c.toNat % 64) :: encodeToString rest
  | [a, b] =>
      [digit64 (a.toNat / 4), digit64 (a.toNat % 4 * 16 + b.toNat / 16), digit64 (b.toNat % 16 * 4), 61]
  | [a] => [digit64 (a.toNat / 4), digit64 (a.toNat % 4 * 16), 61, 61]
  | [] => []

/-- The bytes of a group of digits. -/
def groupBytes : List Nat → Bytes
  | [d₀, d₁, d₂, d₃] =>
      [UInt8.ofNat (d₀ * 4 + d₁ / 16), UInt8.ofNat (d₁ % 16 * 16 + d₂ / 4), UInt8.ofNat (d₂ % 4 * 64 + d₃)]
  | [d₀, d₁, d₂] => [UInt8.ofNat (d₀ * 4 + d₁ / 16), UInt8.ofNat (d₁ % 16 * 16 + d₂ / 4)]
  | [d₀, d₁] => [UInt8.ofNat (d₀ * 4 + d₁ / 16)]
  | _ => []

/-- The line breaks that decoding passes over. -/
def isNewline (c : UInt8) : Bool := c = 10 || c = 13

/-- Behind the padding there may be line breaks and nothing else. -/
def decodeEnd (si : Nat) (dbuf : List Nat) (src : Str) : Except Nat Bytes :=
  if src.all isNewline then .ok (groupBytes dbuf)
  else .error (si + (src.takeWhile isNewline).length)

/-- Behind the first `=`: a group of two digits needs a second one. -/
def decodePadding (si : Nat) (dbuf : List Nat) (src : Str) : Except Nat Bytes :=
  if dbuf.length = 2 then
    match src.dropWhile isNewline with
    | [] => .error (si + src.length)
    | c :: rest =>
        if c = 61 then decodeEnd (si + (src.takeWhile isNewline).length + 1) dbuf rest
        else .error (si + (src.takeWhile isNewline).length - 1)
  else decodeEnd si dbuf src

/-- Decoding from index `si` on, with the digits `dbuf` of the group that is open there. -/
def decodeFrom (si : Nat) (dbuf : List Nat) : Str → Except Nat Bytes
  | [] => if dbuf = [] then .ok [] else .error (si - dbuf.length)
  | c :: rest =>
      match value64 c with
      | some d =>
          if dbuf.length = 3 then (groupBytes (dbuf ++ [d]) ++ ·) <$> decodeFrom (si + 1) [] rest
          else decodeFrom (si + 1) (dbuf ++ [d]) rest
      | none =>
          if isNewline c then decodeFrom (si + 1) dbuf rest
          else if c ≠ 61 ∨ dbuf.length < 2 then .error si
          else decodePadding (si + 1) dbuf rest

def decodeString (s : Str) : Except Nat Bytes := decodeFrom 0 [] s

theorem value64_digit64 {d : Nat} (h : d < 64) : value64 (digit64 d) = some d := by
  have hall : ∀ d < 64, value64 (digit64 d) = some d := by decide
  exact hall d h

theorem decodeFrom_digit {d : Nat} (h : d < 64) (si : Nat) (dbuf : List Nat) (rest : Str) :
    decodeFrom si dbuf (digit64 d :: rest) =
      if dbuf.length = 3 then (groupBytes (dbuf ++ [d]) ++ ·) <$> decodeFrom (si + 1) [] rest
      else decodeFrom (si + 1) (dbuf ++ [d]) rest := by
  rw [decodeFrom, value64_digit64 h]

theorem groupBytes_three (a b c : UInt8) :
    groupBytes [a.toNat / 4, a.toNat % 4 * 16 + b.toNat / 16, b.toNat % 16 * 4 + c.toNat / 64, c.toNat % 64] =
      [a, b, c] := by
  have ha := a.toNat_lt
  have hb := b.toNat_lt
  have hc := c.toNat_lt
  have h₁ : a.toNat / 4 * 4 + (a.toNat % 4 * 16 + b.toNat / 16) / 16 = a.toNat := by omega
  have h₂ : (a.toNat % 4 * 16 + b.toNat / 16) % 16 * 16 + (b.toNat % 16 * 4 + c.toNat / 64) / 4 = b.toNat := by
    omega
  have h₃ : (b.toNat % 16 * 4 + c.toNat / 64) % 4 * 64 + c.toNat % 64 = c.toNat := by omega
  rw [groupBytes, h₁, h₂, h₃, UInt8.ofNat_toNat, UInt8.ofNat_toNat, UInt8.ofNat_toNat]

theorem groupBytes_two (a b : UInt8) :
    groupBytes [a.toNat / 4, a.toNat % 4 * 16 + b.toNat / 16, b.toNat % 16 * 4] = [a, b] := by
  have ha := a.toNat_lt
  have hb := b.toNat_lt
  have h₁ : a.toNat / 4 * 4 + (a.toNat % 4 * 16 + b.toNat / 16) / 16 = a.toNat := by omega
  have h₂ : (a.toNat % 4 * 16 + b.toNat / 16) % 16 * 16 + b.toNat % 16 * 4 / 4 = b.toNat := by omega
  rw [groupBytes, h₁, h₂, UInt8.ofNat_toNat, UInt8.ofNat_toNat]

theorem groupBytes_one (a : UInt8) : groupBytes [a.toNat / 4, a.toNat % 4 * 16] = [a] := by
  have ha := a.toNat_lt
  have h₁ : a.toNat / 4 * 4 + a.toNat % 4 * 16 / 16 = a.toNat := by omega
  rw [groupBytes, h₁, UInt8.ofNat_toNat]

/-- The four letters of three bytes decode to them. -/
theorem decodeFrom_three (a b c : UInt8) (si : Nat) (rest : Str) :
    decodeFrom si [] (digit64 (a.toNat / 4) :: digit64 (a.toNat % 4 * 16 + b.toNat / 16) ::
      digit64 (b.toNat % 16 * 4 + c.toNat / 64) :: digit64 (c.toNat % 64) :: rest) =
      ([a, b, c] ++ ·) <$> decodeFrom (si + 4) [] rest := by
  have ha := a.toNat_lt
  have hb := b.toNat_lt
  have hc := c.toNat_lt
  rw [decodeFrom_digit (by omega), if_neg (by simp), decodeFrom_digit (by omega), if_neg (by simp),
    decodeFrom_digit (by omega), if_neg (by simp), decodeFrom_digit (by omega), if_pos (by simp)]
  exact congrArg (fun g => (g ++ ·) <$> decodeFrom (si + 4) [] rest) (groupBytes_three a b c)

theorem decodeFrom_encodeToString (b : Bytes) (si : Nat) : decodeFrom si [] (encodeToString b) = .ok b := by
  fun_induction encodeToString b generalizing si with
  | case1 a b c rest ih =>
    rw [decodeFrom_three, ih]
    rfl
  | case2 a b =>
    have ha := a.toNat_lt
    have hb := b.toNat_lt
    rw [decodeFrom_digit (by omega), if_neg (by simp), decodeFrom_digit (by omega), if_neg (by simp),
      decodeFrom_digit (by omega), if_neg (by simp)]
    exact congrArg Except.ok (groupBytes_two a b)
  | case3 a =>
    have ha := a.toNat_lt
    rw [decodeFrom_digit (by omega), if_neg (by simp), decodeFrom_digit (by omega), if_neg (by simp)]
    exact congrArg Except.ok (groupBytes_one a)
  | case4 => rfl

/-- **Decoding undoes encoding.** -/
theorem decodeString_encodeToString (b : Bytes) : decodeString (encodeToString b) = .ok b :=
  decodeFrom_encodeToString b 0

theorem length_encodeToString (b : Bytes) : (encodeToString b).length = 4 * ((b.length + 2) / 3) := by
  fun_induction encodeToString b with
  | case1 a b c rest ih =>
    simp only [List.length_cons, ih]
    omega
  | case2 a b => simp
  | case3 a => simp
  | case4 => rfl

/-- A group that is cut off behind its second or third digit does not decode. -/
theorem decodeFrom_cut (d₀ d₁ d₂ : Nat) (h₀ : d₀ < 64) (h₁ : d₁ < 64) (h₂ : d₂ < 64) (si : Nat) (b : Bytes) :
    decodeFrom si [] [digit64 d₀] ≠ .ok b ∧ decodeFrom si [] [digit64 d₀, digit64 d₁] ≠ .ok b ∧
      decodeFrom si [] [digit64 d₀, digit64 d₁, digit64 d₂] ≠ .ok b := by
  refine ⟨?_, ?_, ?_⟩
  · rw [decodeFrom_digit h₀, if_neg (by simp)]
    nofun
  · rw [decodeFrom_digit h₀, if_neg (by simp), decodeFrom_digit h₁, if_neg (by simp)]
    nofun
  · rw [decodeFrom_digit h₀, if_neg (by simp), decodeFrom_digit h₁, if_neg (by simp), decodeFrom_digit h₂,
      if_neg (by simp)]
    nofun

/-- A text of which nothing is left decodes to no bytes. -/
theorem encodeToString_of_take_zero {b b' : Bytes} {t : Str} {si : Nat} (h : decodeFrom si [] (t.take 0) = .ok b') :
    b' <+: b ∧ encodeToString b' = t.take 0 := by
  cases h
  exact ⟨List.nil_prefix, rfl⟩

/-- A text of which all is left decodes to the bytes. -/
theorem encodeToString_of_take_all {b b' : Bytes} {n si : Nat} (hn : (encodeToString b).length ≤ n)
    (h : decodeFrom si [] ((encodeToString b).take n) = .ok b') :
    b' <+: b ∧ encodeToString b' = (encodeToString b).take n := by
  rw [List.take_of_length_le hn] at h ⊢
  rw [decodeFrom_encodeToString] at h
  cases h
  exact ⟨List.prefix_refl b, rfl⟩

/-- A text that is cut off decodes to the front of the bytes, or not at all. -/
theorem encodeToString_of_take {b b' : Bytes} {n si : Nat}
    (h : decodeFrom si [] ((encodeToString b).take n) = .ok b') :
    b' <+: b ∧ encodeToString b' = (encodeToString b).take n := by
  fun_induction encodeToString b generalizing n si b' with
  | case1 a b c rest ih =>
    have ha := a.toNat_lt
    have hb := b.toNat_lt
    have hc := c.toNat_lt
    obtain ⟨h₁, h₂, h₃⟩ := decodeFrom_cut (a.toNat / 4) (a.toNat % 4 * 16 + b.toNat / 16)
      (b.toNat % 16 * 4 + c.toNat / 64) (by omega) (by omega) (by omega) si b'
    match n with
    | 0 => exact encodeToString_of_take_zero h
    | 1 => exact absurd h h₁
    | 2 => exact absurd h h₂
    | 3 => exact absurd h h₃
    | n + 4 =>
      simp only [List.take_succ_cons] at h ⊢
      rw [decodeFrom_three] at h
      rcases htail : decodeFrom (si + 4) [] ((encodeToString rest).take n) with err | b''
      · rw [htail] at h
        cases h
      · rw [htail] at h
        have hb' : [a, b, c] ++ b'' = b' := Except.ok.inj h
        obtain ⟨hfront, hencode⟩ := ih htail
        rw [← hb', ← hencode]
        exact ⟨(List.prefix_append_right_inj [a, b, c]).mpr hfront, rfl⟩
  | case2 a b =>
    have ha := a.toNat_lt
    have hb := b.toNat_lt
    obtain ⟨h₁, h₂, h₃⟩ := decodeFrom_cut (a.toNat / 4) (a.toNat % 4 * 16 + b.toNat / 16)
      (b.toNat % 16 * 4) (by omega) (by omega) (by omega) si b'
    match n with
    | 0 => exact encodeToString_of_take_zero h
    | 1 => exact absurd h h₁
    | 2 => exact absurd h h₂
    | 3 => exact absurd h h₃
    | n + 4 => exact encodeToString_of_take_all (b := [a, b]) (Nat.le_add_left 4 n) h
  | case3 a =>
    have ha := a.toNat_lt
    obtain ⟨h₁, h₂, -⟩ := decodeFrom_cut (a.toNat / 4) (a.toNat % 4 * 16) 0 (by omega) (by omega) (by omega) si b'
    match n with
    | 0 => exact encodeToString_of_take_zero h
    | 1 => exact absurd h h₁
    | 2 => exact absurd h h₂
    | 3 =>
      have hpadding : decodeFrom si [] [digit64 (a.toNat / 4), digit64 (a.toNat % 4 * 16), 61] = .ok b' := h
      rw [decodeFrom_digit (by omega), if_neg (by simp), decodeFrom_digit (by omega), if_neg (by simp)] at hpadding
      cases hpadding
    | n + 4 => exact encodeToString_of_take_all (b := [a]) (Nat.le_add_left 4 n) h
  | case4 => exact encodeToString_of_take_all (Nat.zero_le n) h

/-- The bytes of a Base64 text. -/
def isBase64 (c : UInt8) : Bool := (value64 c).isSome || c = 61

theorem isBase64_digit64 {d : Nat} (h : d < 64) : isBase64 (digit64 d) = true := by
  rw [isBase64, value64_digit64 h]
  rfl

theorem isBase64_of_mem {b : Bytes} {c : UInt8} (h : c ∈ encodeToString b) : isBase64 c = true := by
  fun_induction encodeToString b with
  | case1 a b c rest ih =>
    have ha := a.toNat_lt
    have hb := b.toNat_lt
    have hc := c.toNat_lt
    simp only [List.mem_cons] at h
    rcases h with rfl | rfl | rfl | rfl | h
    · exact isBase64_digit64 (by omega)
    · exact isBase64_digit64 (by omega)
    · exact isBase64_digit64 (by omega)
    · exact isBase64_digit64 (by omega)
    · exact ih h
  | case2 a b =>
    have ha := a.toNat_lt
    have hb := b.toNat_lt
    simp only [List.mem_cons, List.not_mem_nil, or_false] at h
    rcases h with rfl | rfl | rfl | rfl
    · exact isBase64_digit64 (by omega)
    · exact isBase64_digit64 (by omega)
    · exact isBase64_digit64 (by omega)
    · rfl
  | case3 a =>
    have ha := a.toNat_lt
    simp only [List.mem_cons, List.not_mem_nil, or_false] at h
    rcases h with rfl | rfl | rfl | rfl
    · exact isBase64_digit64 (by omega)
    · exact isBase64_digit64 (by omega)
    · rfl
    · rfl
  | case4 => simp at h

example : encodeToString (str "Mann") = str "TWFubg==" := by decide

example : decodeString (str "TWFu\nbg==\n") = .ok (str "Mann") := by decide

end Go
