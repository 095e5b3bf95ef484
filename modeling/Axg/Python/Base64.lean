/-
# `base64`

`urlsafe_b64encode`, with its padding stripped as JOSE wants it, and `urlsafe_b64decode`, which is
lenient: it takes both alphabets, skips what is in neither, and stops where the padding is
complete.  Whoever puts the padding back reads what was encoded (`urlsafeB64decode_padded`).
-/
import Axg.Python.JsonBytes

namespace Axg.Python

/-! ## 1. Encoding -/

/-- The character of six bits. -/
def encodeSextet (n : Nat) : CodePoint :=
  if n < 26 then point (0x41 + n)
  else if n < 52 then point (0x61 + (n - 26))
  else if n < 62 then point (0x30 + (n - 52))
  else if n = 62 then 0x2D
  else 0x5F

/-- `base64.urlsafe_b64encode(bytes).decode("ascii")` -/
def urlsafeB64encode : Bytes → Str
  | [] => []
  | [a] => [encodeSextet (a.toNat / 4), encodeSextet (a.toNat % 4 * 16), 0x3D, 0x3D]
  | [a, b] => [encodeSextet (a.toNat / 4), encodeSextet (a.toNat % 4 * 16 + b.toNat / 16),
      encodeSextet (b.toNat % 16 * 4), 0x3D]
  | a :: b :: c :: bytes => encodeSextet (a.toNat / 4) ::
      encodeSextet (a.toNat % 4 * 16 + b.toNat / 16) ::
      encodeSextet (b.toNat % 16 * 4 + c.toNat / 64) :: encodeSextet (c.toNat % 64) ::
      urlsafeB64encode bytes

/-- `s.rstrip("=")` -/
def rstripPadding (s : Str) : Str := (s.reverse.dropWhile (· = 0x3D)).reverse

/-- `base64.urlsafe_b64encode(bytes).decode("ascii").rstrip("=")` -/
def base64url (bytes : Bytes) : Str := rstripPadding (urlsafeB64encode bytes)

/-! ## 2. Decoding -/

/-- The six bits of a character, of the alphabet with `+` and `/` or the one with `-` and `_`. -/
def decodeSextet (c : CodePoint) : Option Nat :=
  if 0x41 ≤ c.val ∧ c.val ≤ 0x5A then some (c.val - 0x41)
  else if 0x61 ≤ c.val ∧ c.val ≤ 0x7A then some (c.val - 0x61 + 26)
  else if 0x30 ≤ c.val ∧ c.val ≤ 0x39 then some (c.val - 0x30 + 52)
  else if c.val = 0x2B ∨ c.val = 0x2D then some 62
  else if c.val = 0x2F ∨ c.val = 0x5F then some 63
  else none

/-- `binascii.a2b_base64`, from a position in a group of four, with the bits left over and the
padding seen; `none` for `binascii.Error`. -/
def a2bBase64 (quadPos left pads : Nat) : Str → Option Bytes
  | [] => if quadPos = 0 then some [] else none
  | c :: s =>
    if c = 0x3D then
      if 2 ≤ quadPos then
        if 4 ≤ quadPos + (pads + 1) then some [] else a2bBase64 quadPos left (pads + 1) s
      else a2bBase64 quadPos left pads s
    else
      match decodeSextet c with
      | none => a2bBase64 quadPos left pads s
      | some v =>
        if quadPos = 0 then a2bBase64 1 v 0 s
        else if quadPos = 1 then
          (a2bBase64 2 (v % 16) 0 s).map (UInt8.ofNat (left * 4 + v / 16) :: ·)
        else if quadPos = 2 then
          (a2bBase64 3 (v % 4) 0 s).map (UInt8.ofNat (left * 16 + v / 4) :: ·)
        else (a2bBase64 0 0 0 s).map (UInt8.ofNat (left * 64 + v) :: ·)

/-- `base64.urlsafe_b64decode(s)`, of a `str`; a `binascii.Error` is a `ValueError`. -/
def urlsafeB64decode (s : Str) : Except PyError Bytes :=
  if s.any (fun c => 0x80 ≤ c.val) then .error .valueError
  else
    match a2bBase64 0 0 0 s with
    | some bytes => .ok bytes
    | none => .error .valueError

/-- `s + "=" * (-len(s) % 4)` -/
def withPadding (s : Str) : Str := s ++ List.replicate ((4 - s.length % 4) % 4) 0x3D

/-! ## 3. The round trip -/

theorem decodeSextet_encode {n : Nat} (h : n < 64) : decodeSextet (encodeSextet n) = some n := by
  have hall : ∀ n < 64, decodeSextet (encodeSextet n) = some n := by decide +kernel
  exact hall n h

/-- A character of the alphabet is ASCII and no padding. -/
theorem encodeSextet_spec {n : Nat} (h : n < 64) :
    encodeSextet n ≠ 0x3D ∧ (encodeSextet n).val < 0x80 := by
  have hall : ∀ n < 64, encodeSextet n ≠ 0x3D ∧ (encodeSextet n).val < 0x80 := by decide +kernel
  exact hall n h

/-- The encoding without its padding. -/
def sextets : Bytes → List Nat
  | [] => []
  | [a] => [a.toNat / 4, a.toNat % 4 * 16]
  | [a, b] => [a.toNat / 4, a.toNat % 4 * 16 + b.toNat / 16, b.toNat % 16 * 4]
  | a :: b :: c :: bytes => a.toNat / 4 :: (a.toNat % 4 * 16 + b.toNat / 16) ::
      (b.toNat % 16 * 4 + c.toNat / 64) :: c.toNat % 64 :: sextets bytes

theorem sextets_lt : ∀ bytes : Bytes, ∀ n ∈ sextets bytes, n < 64
  | [], n, h => nomatch h
  | [a], n, h => by
    have ha := a.toNat_lt
    simp only [sextets, List.mem_cons, List.not_mem_nil, or_false] at h
    omega
  | [a, b], n, h => by
    have ha := a.toNat_lt
    have hb := b.toNat_lt
    simp only [sextets, List.mem_cons, List.not_mem_nil, or_false] at h
    omega
  | a :: b :: c :: bytes, n, h => by
    have ha := a.toNat_lt
    have hb := b.toNat_lt
    have hc := c.toNat_lt
    simp only [sextets, List.mem_cons] at h
    rcases h with h | h | h | h | h
    · omega
    · omega
    · omega
    · omega
    · exact sextets_lt bytes n h

/-- The padding makes the length a multiple of four. -/
theorem urlsafeB64encode_eq : ∀ bytes : Bytes,
    urlsafeB64encode bytes = (sextets bytes).map encodeSextet ++
      List.replicate ((4 - (sextets bytes).length % 4) % 4) 0x3D
  | [] => rfl
  | [a] => rfl
  | [a, b] => rfl
  | a :: b :: c :: bytes => by
    have ih := urlsafeB64encode_eq bytes
    have hlength : (sextets (a :: b :: c :: bytes)).length % 4 = (sextets bytes).length % 4 := by
      simp only [sextets, List.length_cons]
      omega
    rw [hlength, urlsafeB64encode, ih]
    rfl

theorem rstripPadding_append {s : Str} (h : ∀ c ∈ s, c ≠ 0x3D) (n : Nat) :
    rstripPadding (s ++ List.replicate n 0x3D) = s := by
  have hdrop : ∀ n, List.dropWhile (fun c : CodePoint => decide (c = 0x3D))
      (List.replicate n 0x3D ++ s.reverse) = s.reverse := by
    intro n
    induction n with
    | zero =>
      rw [List.replicate_zero, List.nil_append]
      cases hs : s.reverse with
      | nil => rfl
      | cons c t =>
        have hc : c ≠ 0x3D := h c (by rw [← List.mem_reverse, hs]; exact List.mem_cons_self)
        simp [hc]
    | succ n ih => simpa [List.replicate_succ] using ih
  rw [rstripPadding, List.reverse_append, List.reverse_replicate, hdrop, List.reverse_reverse]

theorem base64url_eq (bytes : Bytes) : base64url bytes = (sextets bytes).map encodeSextet := by
  rw [base64url, urlsafeB64encode_eq]
  refine rstripPadding_append (fun c hc => ?_) _
  obtain ⟨n, hn, rfl⟩ := List.mem_map.mp hc
  exact (encodeSextet_spec (sextets_lt bytes n hn)).1

/-- Each character is ASCII. -/
theorem base64url_ascii (bytes : Bytes) : ∀ c ∈ base64url bytes, c.val < 0x80 := by
  rw [base64url_eq]
  intro c hc
  obtain ⟨n, hn, rfl⟩ := List.mem_map.mp hc
  exact (encodeSextet_spec (sextets_lt bytes n hn)).2

theorem withPadding_base64url (bytes : Bytes) :
    withPadding (base64url bytes) = urlsafeB64encode bytes := by
  rw [withPadding, base64url_eq, List.length_map, urlsafeB64encode_eq]

/-- One step of the decoder, on a character of the encoder. -/
theorem a2bBase64_sextet {n quadPos left pads : Nat} (h : n < 64) (s : Str) :
    a2bBase64 quadPos left pads (encodeSextet n :: s) =
      if quadPos = 0 then a2bBase64 1 n 0 s
      else if quadPos = 1 then
        (a2bBase64 2 (n % 16) 0 s).map (UInt8.ofNat (left * 4 + n / 16) :: ·)
      else if quadPos = 2 then
        (a2bBase64 3 (n % 4) 0 s).map (UInt8.ofNat (left * 16 + n / 4) :: ·)
      else (a2bBase64 0 0 0 s).map (UInt8.ofNat (left * 64 + n) :: ·) := by
  rw [a2bBase64, if_neg (encodeSextet_spec h).1, decodeSextet_encode h]

theorem ofNat_eq_of_toNat {a : UInt8} {n : Nat} (h : n = a.toNat) : UInt8.ofNat n = a := by
  rw [h]
  exact UInt8.ofNat_toNat

/-- The decoder undoes the encoder. -/
theorem a2bBase64_encode : ∀ bytes : Bytes, a2bBase64 0 0 0 (urlsafeB64encode bytes) = some bytes
  | [] => rfl
  | [a] => by
    have ha := a.toNat_lt
    have h1 : UInt8.ofNat (a.toNat / 4 * 4 + a.toNat % 4 * 16 / 16) = a :=
      ofNat_eq_of_toNat (by omega)
    rw [urlsafeB64encode, a2bBase64_sextet (by omega), if_pos rfl,
      a2bBase64_sextet (by omega), if_neg (by decide), if_pos rfl, h1]
    rfl
  | [a, b] => by
    have ha := a.toNat_lt
    have hb := b.toNat_lt
    have h1 : UInt8.ofNat (a.toNat / 4 * 4 + (a.toNat % 4 * 16 + b.toNat / 16) / 16) = a :=
      ofNat_eq_of_toNat (by omega)
    have h2 : UInt8.ofNat ((a.toNat % 4 * 16 + b.toNat / 16) % 16 * 16 + b.toNat % 16 * 4 / 4) =
        b := ofNat_eq_of_toNat (by omega)
    rw [urlsafeB64encode, a2bBase64_sextet (by omega), if_pos rfl,
      a2bBase64_sextet (by omega), if_neg (by decide), if_pos rfl,
      a2bBase64_sextet (by omega), if_neg (by decide), if_neg (by decide), if_pos rfl, h1, h2]
    rfl
  | a :: b :: c :: bytes => by
    have ha := a.toNat_lt
    have hb := b.toNat_lt
    have hc := c.toNat_lt
    have h1 : UInt8.ofNat (a.toNat / 4 * 4 + (a.toNat % 4 * 16 + b.toNat / 16) / 16) = a :=
      ofNat_eq_of_toNat (by omega)
    have h2 : UInt8.ofNat ((a.toNat % 4 * 16 + b.toNat / 16) % 16 * 16 +
        (b.toNat % 16 * 4 + c.toNat / 64) / 4) = b := ofNat_eq_of_toNat (by omega)
    have h3 : UInt8.ofNat ((b.toNat % 16 * 4 + c.toNat / 64) % 4 * 64 + c.toNat % 64) = c :=
      ofNat_eq_of_toNat (by omega)
    rw [urlsafeB64encode, a2bBase64_sextet (by omega), if_pos rfl,
      a2bBase64_sextet (by omega), if_neg (by decide), if_pos rfl,
      a2bBase64_sextet (by omega), if_neg (by decide), if_neg (by decide), if_pos rfl,
      a2bBase64_sextet (by omega), if_neg (by decide), if_neg (by decide), if_neg (by decide),
      a2bBase64_encode bytes, h1, h2, h3]
    rfl

/-- What is encoded without padding is read back where the padding is put back. -/
theorem urlsafeB64decode_padded (bytes : Bytes) :
    urlsafeB64decode (withPadding (base64url bytes)) = .ok bytes := by
  have hascii : (withPadding (base64url bytes)).any (fun c => 0x80 ≤ c.val) = false := by
    rw [List.any_eq_false]
    intro c hc
    rw [decide_eq_true_iff, not_le]
    rcases List.mem_append.mp hc with hc | hc
    · exact base64url_ascii bytes c hc
    · rw [(List.mem_replicate.mp hc).2]
      decide
  rw [urlsafeB64decode, hascii, withPadding_base64url, a2bBase64_encode]
  rfl

/-- Different bytes have different texts. -/
theorem base64url_injective : Function.Injective base64url := by
  intro x y h
  have hx := urlsafeB64decode_padded x
  rw [h, urlsafeB64decode_padded y] at hx
  exact (Except.ok.inj hx).symm

end Axg.Python
