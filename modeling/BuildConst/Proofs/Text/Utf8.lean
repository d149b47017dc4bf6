import Mathlib.Data.List.Basic
import Mathlib.Tactic.SplitIfs
import BuildConst.Proofs.Success
import BuildConst.Text.Utf8

/-!
# UTF-8 has one spelling for each text

The reader of UTF-8 goes through the bytes one at a time, with the character that it is in the
middle of as its state.  It accepts exactly what the writer produces: no text has a second spelling,
and none is lost.

## Main results

* `Text.Utf8.decode_eq_ok_iff` — bytes are read as a text exactly if they are its bytes.
* `Text.Utf8.length_encode` — the number of bytes of a text.
-/

set_option relaxedAutoImplicit false
set_option autoImplicit false

namespace BuildConst.Text.Utf8

/-! ## Single characters -/

/-- The number of the character of a valid number. -/
theorem toNat_ofNat_of_valid {n : Nat} (h : n.isValidChar) : (Char.ofNat n).toNat = n := by
  rw [Char.ofNat, dif_pos h]
  rfl

/-- A character below `0x80` has one byte. -/
theorem encodeChar_one {n : Nat} (h : n < 0x80) :
    String.utf8EncodeChar (Char.ofNat n) = [UInt8.ofNat n] := by
  have hn : (Char.ofNat n).val.toNat = n := toNat_ofNat_of_valid (Or.inl (by omega))
  unfold String.utf8EncodeChar
  simp only [hn]
  rw [if_pos (by omega)]

/-- A character from `0x80` up to `0x7FF` has two bytes. -/
theorem encodeChar_two {n : Nat} (h : 0x80 ≤ n) (h' : n < 0x800) :
    String.utf8EncodeChar (Char.ofNat n) =
      [UInt8.ofNat (n / 64 + 0xC0), UInt8.ofNat (n % 64 + 0x80)] := by
  have hn : (Char.ofNat n).val.toNat = n := toNat_ofNat_of_valid (Or.inl (by omega))
  unfold String.utf8EncodeChar
  simp only [hn]
  rw [if_neg (by omega), if_pos (by omega), Nat.mod_eq_of_lt (by omega : n / 64 < 0x20)]

/-- A character from `0x800` up to `0xFFFF` has three bytes. -/
theorem encodeChar_three {n : Nat} (h : 0x800 ≤ n) (h' : n < 0x10000) (hv : n.isValidChar) :
    String.utf8EncodeChar (Char.ofNat n) =
      [UInt8.ofNat (n / 4096 + 0xE0), UInt8.ofNat (n / 64 % 64 + 0x80),
        UInt8.ofNat (n % 64 + 0x80)] := by
  have hn : (Char.ofNat n).val.toNat = n := toNat_ofNat_of_valid hv
  unfold String.utf8EncodeChar
  simp only [hn]
  rw [if_neg (by omega), if_neg (by omega), if_pos (by omega),
    Nat.mod_eq_of_lt (by omega : n / 4096 < 0x10)]

/-- A character from `0x10000` on has four bytes. -/
theorem encodeChar_four {n : Nat} (h : 0x10000 ≤ n) (h' : n < 0x110000) :
    String.utf8EncodeChar (Char.ofNat n) =
      [UInt8.ofNat (n / 262144 + 0xF0), UInt8.ofNat (n / 4096 % 64 + 0x80),
        UInt8.ofNat (n / 64 % 64 + 0x80), UInt8.ofNat (n % 64 + 0x80)] := by
  have hn : (Char.ofNat n).val.toNat = n := toNat_ofNat_of_valid (Or.inr (by omega))
  unfold String.utf8EncodeChar
  simp only [hn]
  rw [if_neg (by omega), if_neg (by omega), if_neg (by omega),
    Nat.mod_eq_of_lt (by omega : n / 262144 < 0x08)]

/-! ## Steps of the reader -/

/-- The last byte of a character completes it. -/
theorem decodeFrom_last_iff {start bits taken low high : Nat} {bytes : List UInt8}
    {cs : List Char} :
    decodeFrom start (some ⟨bits, taken, 1, low, high⟩) bytes = .ok cs ↔
      ∃ b rest cs', bytes = b :: rest ∧ (low ≤ b.toNat ∧ b.toNat ≤ high) ∧
        decodeFrom (start + taken + 1) none rest = .ok cs' ∧
        Char.ofNat (64 * bits + (b.toNat - 0x80)) :: cs' = cs := by
  cases bytes with
  | nil => simp [decodeFrom]
  | cons b rest =>
    rw [decodeFrom]
    by_cases h : low ≤ b.toNat ∧ b.toNat ≤ high
    · simp [h, Except.map_eq_ok_iff]
    · simp [h]

/-- A byte inside a character adds its bits. -/
theorem decodeFrom_more_iff {start bits taken owed low high : Nat} {bytes : List UInt8}
    {cs : List Char} :
    decodeFrom start (some ⟨bits, taken, owed + 2, low, high⟩) bytes = .ok cs ↔
      ∃ b rest, bytes = b :: rest ∧ (low ≤ b.toNat ∧ b.toNat ≤ high) ∧
        decodeFrom start
          (some ⟨64 * bits + (b.toNat - 0x80), taken + 1, owed + 1, 0x80, 0xBF⟩) rest =
            .ok cs := by
  cases bytes with
  | nil => simp [decodeFrom]
  | cons b rest =>
    rw [decodeFrom]
    by_cases h : low ≤ b.toNat ∧ b.toNat ≤ high
    · simp [h]
    · simp [h]

/-- A byte below `0x80` is a character. -/
theorem decodeFrom_ascii {start : Nat} {b : UInt8} (h : b.toNat < 0x80) (rest : List UInt8) :
    decodeFrom start none (b :: rest) =
      (decodeFrom (start + 1) none rest).map (Char.ofNat b.toNat :: ·) := by
  rw [decodeFrom]
  simp [h]

/-- Any other byte has to begin a longer character. -/
theorem decodeFrom_lead_iff {start : Nat} {b : UInt8} (h : ¬b.toNat < 0x80) {rest : List UInt8}
    {cs : List Char} :
    decodeFrom start none (b :: rest) = .ok cs ↔
      ∃ p, lead? b.toNat = some p ∧ decodeFrom start (some p) rest = .ok cs := by
  rw [decodeFrom]
  cases lead? b.toNat <;> simp [h]

/-- The first bytes of characters of two, three and four bytes. -/
theorem lead?_eq_some_iff {b : Nat} {p : Partial} :
    lead? b = some p ↔
      (0xC2 ≤ b ∧ b < 0xE0 ∧ p = ⟨b - 0xC0, 1, 1, 0x80, 0xBF⟩) ∨
      (0xE0 ≤ b ∧ b < 0xF0 ∧
        p = ⟨b - 0xE0, 1, 2, if b = 0xE0 then 0xA0 else 0x80, if b = 0xED then 0x9F else 0xBF⟩) ∨
      (0xF0 ≤ b ∧ b < 0xF5 ∧
        p = ⟨b - 0xF0, 1, 3, if b = 0xF0 then 0x90 else 0x80,
          if b = 0xF4 then 0x8F else 0xBF⟩) := by
  unfold lead?
  constructor
  · intro h
    split at h
    · cases h
    split at h
    · obtain rfl := Option.some.inj h
      exact Or.inl ⟨by omega, by omega, rfl⟩
    split at h
    · obtain rfl := Option.some.inj h
      exact Or.inr (Or.inl ⟨by omega, by omega, rfl⟩)
    split at h
    · obtain rfl := Option.some.inj h
      exact Or.inr (Or.inr ⟨by omega, by omega, rfl⟩)
    · cases h
  · rintro (⟨h, h', rfl⟩ | ⟨h, h', rfl⟩ | ⟨h, h', rfl⟩)
    · rw [if_neg (by omega), if_pos (by omega)]
    · rw [if_neg (by omega), if_neg (by omega), if_pos (by omega)]
    · rw [if_neg (by omega), if_neg (by omega), if_neg (by omega), if_pos (by omega)]

/-! ## Whole characters -/

/-- A byte is known by its number. -/
theorem eq_ofNat {b : UInt8} {n : Nat} (h : n = b.toNat) : b = UInt8.ofNat n := by
  rw [h, UInt8.ofNat_toNat]

/-- The bytes of a character are read as that character.

**Proof sketch.** By the number of bytes.  In each case the first byte tells the number of bytes,
each byte lies in the range that the reader expects there, and the bits of all bytes together are
the number of the character. -/
theorem decodeFrom_encodeChar_append {c : Char} {rest : List UInt8} {cs : List Char}
    (h : ∀ start, decodeFrom start none rest = .ok cs) (start : Nat) :
    decodeFrom start none (String.utf8EncodeChar c ++ rest) = .ok (c :: cs) := by
  obtain ⟨n, hn, hv⟩ : ∃ n, Char.ofNat n = c ∧ n.isValidChar :=
    ⟨c.toNat, Char.ofNat_toNat c, c.valid⟩
  subst hn
  have byte {k : Nat} (hk : k < 256) : (UInt8.ofNat k).toNat = k := UInt8.toNat_ofNat_of_lt' hk
  rcases Nat.lt_or_ge n 0x80 with h1 | h1
  · rw [encodeChar_one h1, List.singleton_append, decodeFrom_ascii (by rw [byte] <;> omega), h,
      byte (by omega)]
    rfl
  rcases Nat.lt_or_ge n 0x800 with h2 | h2
  · rw [encodeChar_two h1 h2]
    have hb₀ := byte (k := n / 64 + 0xC0) (by omega)
    have hb₁ := byte (k := n % 64 + 0x80) (by omega)
    refine (decodeFrom_lead_iff (by omega)).2
      ⟨_, lead?_eq_some_iff.2 (Or.inl ⟨by omega, by omega, rfl⟩), ?_⟩
    refine decodeFrom_last_iff.2 ⟨_, _, _, rfl, by omega, h _, ?_⟩
    rw [hb₀, hb₁, show 64 * (n / 64 + 0xC0 - 0xC0) + (n % 64 + 0x80 - 0x80) = n by omega]
  rcases Nat.lt_or_ge n 0x10000 with h3 | h3
  · rw [encodeChar_three h2 h3 hv]
    have hb₀ := byte (k := n / 4096 + 0xE0) (by omega)
    have hb₁ := byte (k := n / 64 % 64 + 0x80) (by omega)
    have hb₂ := byte (k := n % 64 + 0x80) (by omega)
    refine (decodeFrom_lead_iff (by omega)).2
      ⟨_, lead?_eq_some_iff.2 (Or.inr (Or.inl ⟨by omega, by omega, rfl⟩)), ?_⟩
    refine decodeFrom_more_iff.2 ⟨_, _, rfl, ?_, ?_⟩
    · unfold Nat.isValidChar at hv
      split_ifs <;> omega
    refine decodeFrom_last_iff.2 ⟨_, _, _, rfl, by omega, h _, ?_⟩
    rw [hb₀, hb₁, hb₂, show 64 * (64 * (n / 4096 + 0xE0 - 0xE0) + (n / 64 % 64 + 0x80 - 0x80)) +
      (n % 64 + 0x80 - 0x80) = n by omega]
  · have h4 : n < 0x110000 := by
      unfold Nat.isValidChar at hv
      omega
    rw [encodeChar_four h3 h4]
    have hb₀ := byte (k := n / 262144 + 0xF0) (by omega)
    have hb₁ := byte (k := n / 4096 % 64 + 0x80) (by omega)
    have hb₂ := byte (k := n / 64 % 64 + 0x80) (by omega)
    have hb₃ := byte (k := n % 64 + 0x80) (by omega)
    refine (decodeFrom_lead_iff (by omega)).2
      ⟨_, lead?_eq_some_iff.2 (Or.inr (Or.inr ⟨by omega, by omega, rfl⟩)), ?_⟩
    refine decodeFrom_more_iff.2 ⟨_, _, rfl, ?_, ?_⟩
    · split_ifs <;> omega
    refine decodeFrom_more_iff.2 ⟨_, _, rfl, by omega, ?_⟩
    refine decodeFrom_last_iff.2 ⟨_, _, _, rfl, by omega, h _, ?_⟩
    rw [hb₀, hb₁, hb₂, hb₃, show 64 * (64 * (64 * (n / 262144 + 0xF0 - 0xF0) +
      (n / 4096 % 64 + 0x80 - 0x80)) + (n / 64 % 64 + 0x80 - 0x80)) +
      (n % 64 + 0x80 - 0x80) = n by omega]

/-- Bytes that are read begin with the bytes of a character.

**Proof sketch.** By the first byte.  The bounds on the second byte leave out the numbers that have
a shorter spelling and those of no character, so that the number read has as many bytes as were
read. -/
theorem encodeChar_of_decodeFrom_cons {start : Nat} {b : UInt8} {bytes : List UInt8}
    {cs : List Char} (h : decodeFrom start none (b :: bytes) = .ok cs) :
    ∃ c rest cs' start', b :: bytes = String.utf8EncodeChar c ++ rest ∧ c :: cs' = cs ∧
      decodeFrom start' none rest = .ok cs' := by
  by_cases h1 : b.toNat < 0x80
  · rw [decodeFrom_ascii h1, Except.map_eq_ok_iff] at h
    obtain ⟨cs', h, rfl⟩ := h
    refine ⟨_, bytes, cs', _, ?_, rfl, h⟩
    rw [encodeChar_one h1, UInt8.ofNat_toNat, List.singleton_append]
  obtain ⟨p, hp, hmore⟩ := (decodeFrom_lead_iff h1).1 h
  rcases lead?_eq_some_iff.1 hp with ⟨hl, hl', rfl⟩ | ⟨hl, hl', rfl⟩ | ⟨hl, hl', rfl⟩
  · obtain ⟨b₁, rest, cs', rfl, hb₁, hrest, rfl⟩ := decodeFrom_last_iff.1 hmore
    refine ⟨_, rest, cs', _, ?_, rfl, hrest⟩
    rw [encodeChar_two (by omega) (by omega), ← eq_ofNat (b := b) (by omega),
      ← eq_ofNat (b := b₁) (by omega)]
    rfl
  · obtain ⟨b₁, _, rfl, hb₁, hmore'⟩ := decodeFrom_more_iff.1 hmore
    obtain ⟨b₂, rest, cs', rfl, hb₂, hrest, rfl⟩ := decodeFrom_last_iff.1 hmore'
    refine ⟨_, rest, cs', _, ?_, rfl, hrest⟩
    have hv : (64 * (64 * (b.toNat - 0xE0) + (b₁.toNat - 0x80)) +
        (b₂.toNat - 0x80)).isValidChar := by
      unfold Nat.isValidChar
      split_ifs at hb₁ <;> omega
    have hlow : 0x80 ≤ b₁.toNat ∧ b₁.toNat ≤ 0xBF ∧ (b.toNat = 0xE0 → 0xA0 ≤ b₁.toNat) := by
      split_ifs at hb₁ <;> omega
    rw [encodeChar_three (by omega) (by omega) hv, ← eq_ofNat (b := b) (by omega),
      ← eq_ofNat (b := b₁) (by omega), ← eq_ofNat (b := b₂) (by omega)]
    rfl
  · obtain ⟨b₁, _, rfl, hb₁, hmore'⟩ := decodeFrom_more_iff.1 hmore
    obtain ⟨b₂, _, rfl, hb₂, hmore''⟩ := decodeFrom_more_iff.1 hmore'
    obtain ⟨b₃, rest, cs', rfl, hb₃, hrest, rfl⟩ := decodeFrom_last_iff.1 hmore''
    refine ⟨_, rest, cs', _, ?_, rfl, hrest⟩
    have hlow : 0x80 ≤ b₁.toNat ∧ b₁.toNat ≤ 0xBF ∧ (b.toNat = 0xF0 → 0x90 ≤ b₁.toNat) ∧
        (b.toNat = 0xF4 → b₁.toNat ≤ 0x8F) := by
      split_ifs at hb₁ <;> omega
    rw [encodeChar_four (by omega) (by omega), ← eq_ofNat (b := b) (by omega),
      ← eq_ofNat (b := b₁) (by omega), ← eq_ofNat (b := b₂) (by omega),
      ← eq_ofNat (b := b₃) (by omega)]
    rfl

/-! ## Whole texts -/

/-- The bytes of characters are read as these characters. -/
theorem decodeFrom_encode (cs : List Char) (start : Nat) :
    decodeFrom start none (cs.flatMap String.utf8EncodeChar) = .ok cs := by
  induction cs generalizing start with
  | nil => simp [decodeFrom]
  | cons c cs ih =>
    rw [List.flatMap_cons]
    exact decodeFrom_encodeChar_append ih start

/-- Bytes that are read as characters are the bytes of these characters. -/
theorem eq_encode_of_decodeFrom {start : Nat} {bytes : List UInt8} {cs : List Char}
    (h : decodeFrom start none bytes = .ok cs) : bytes = cs.flatMap String.utf8EncodeChar := by
  induction cs generalizing start bytes with
  | nil =>
    cases bytes with
    | nil => rfl
    | cons b bytes =>
      obtain ⟨c, rest, cs', start', -, hcs, -⟩ := encodeChar_of_decodeFrom_cons h
      cases hcs
  | cons c cs ih =>
    cases bytes with
    | nil => simp [decodeFrom] at h
    | cons b bytes =>
      obtain ⟨c', rest, cs', start', hb, hcs, hrest⟩ := encodeChar_of_decodeFrom_cons h
      obtain ⟨rfl, rfl⟩ := List.cons.inj hcs
      rw [hb, List.flatMap_cons, ih hrest]

/-- **Reading is exact**: bytes are read as a text exactly if they are the bytes of that text. -/
theorem decode_eq_ok_iff {bytes : List UInt8} {s : String} :
    decode bytes = .ok s ↔ bytes = encode s := by
  unfold decode encode
  rw [Except.map_eq_ok_iff]
  constructor
  · rintro ⟨cs, h, rfl⟩
    rw [String.toList_ofList]
    exact eq_encode_of_decodeFrom h
  · rintro rfl
    exact ⟨s.toList, decodeFrom_encode _ _, String.ofList_toList⟩

/-- The number of bytes of a text. -/
theorem length_encode (s : String) : (encode s).length = s.utf8ByteSize := by
  rw [← String.size_toByteArray, ← String.ofList_toList (s := s), String.toByteArray_ofList]
  simp [encode, List.utf8Encode]

end BuildConst.Text.Utf8
