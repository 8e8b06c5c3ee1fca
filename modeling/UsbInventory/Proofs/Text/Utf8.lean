/-
What is written as UTF-8 reads back. The bytes of a character are a first byte, which says how many follow and what
the next of them may be, and bytes of six bits each; a scalar value is never a surrogate, so the byte after 0xED is
within its range, and never above U+10FFFF, so the byte after 0xF4 is.
-/
import UsbInventory.Text.Utf8

namespace UsbInventory.Text.Utf8

variable {n : Nat} {rest : List UInt8}

/-! ## Bytes -/

theorem scan_pending {p : Pending} (hn : n < 256) (h : opening n = .pending p) :
    scan none (UInt8.ofNat n :: rest) = scan (some p) rest := by
  rw [scan, UInt8.toNat_ofNat_of_lt' hn, h]

/-- The last byte of a character ends it. -/
theorem scan_last {low high bits : Nat} (hn : n < 256) (hl : low ≤ n) (hh : n ≤ high) :
    scan (some ⟨1, low, high, bits⟩) (UInt8.ofNat n :: rest) =
      some (Char.ofNat (bits * 64 + (n - 0x80))) :: scan none rest := by
  rw [scan, UInt8.toNat_ofNat_of_lt' hn]
  exact if_pos ⟨hl, hh⟩

/-- Any other byte adds its six bits. -/
theorem scan_next {need low high bits : Nat} (hn : n < 256) (hl : low ≤ n) (hh : n ≤ high) :
    scan (some ⟨need + 2, low, high, bits⟩) (UInt8.ofNat n :: rest) =
      scan (some ⟨need + 1, 0x80, 0xBF, bits * 64 + (n - 0x80)⟩) rest := by
  rw [scan, UInt8.toNat_ofNat_of_lt' hn]
  exact if_pos ⟨hl, hh⟩

/-! ## First bytes -/

theorem opening_two {v : Nat} (low : 0x80 ≤ v) (high : v < 0x800) :
    opening (0xC0 + v / 64) = .pending ⟨1, 0x80, 0xBF, v / 64⟩ := by
  unfold opening
  rw [if_neg (by omega), if_neg (by omega), if_pos (by omega)]
  simp

/-- The first byte of three tells a range in which the second one is. -/
theorem opening_three {v : Nat} (low : 0x800 ≤ v) (high : v < 0x10000) (scalar : v < 0xD800 ∨ 0xDFFF < v) :
    ∃ l h, opening (0xE0 + v / 4096) = .pending ⟨2, l, h, v / 4096⟩ ∧
      l ≤ 0x80 + v / 64 % 64 ∧ 0x80 + v / 64 % 64 ≤ h := by
  unfold opening
  rw [if_neg (by omega), if_neg (by omega), if_neg (by omega)]
  by_cases h0 : v / 4096 = 0
  · exact ⟨0xA0, 0xBF, by rw [if_pos (by omega), h0], by omega, by omega⟩
  · by_cases hd : v / 4096 = 13
    · exact ⟨0x80, 0x9F, by rw [if_neg (by omega), if_pos (by omega), hd], by omega, by omega⟩
    · refine ⟨0x80, 0xBF, ?_, by omega, by omega⟩
      rw [if_neg (by omega), if_neg (by omega), if_pos (by omega), Nat.add_sub_cancel_left]

theorem opening_four {v : Nat} (low : 0x10000 ≤ v) (high : v < 0x110000) :
    ∃ l h, opening (0xF0 + v / 262144) = .pending ⟨3, l, h, v / 262144⟩ ∧
      l ≤ 0x80 + v / 4096 % 64 ∧ 0x80 + v / 4096 % 64 ≤ h := by
  unfold opening
  rw [if_neg (by omega), if_neg (by omega), if_neg (by omega), if_neg (by omega), if_neg (by omega),
    if_neg (by omega)]
  by_cases h0 : v / 262144 = 0
  · exact ⟨0x90, 0xBF, by rw [if_pos (by omega), h0], by omega, by omega⟩
  · by_cases h4 : v / 262144 = 4
    · exact ⟨0x80, 0x8F, by rw [if_neg (by omega), if_neg (by omega), if_pos (by omega), h4], by omega, by omega⟩
    · refine ⟨0x80, 0xBF, ?_, by omega, by omega⟩
      rw [if_neg (by omega), if_pos (by omega), Nat.add_sub_cancel_left]

/-! ## Characters -/

theorem scan_one {v : Nat} (high : v < 0x80) :
    scan none (UInt8.ofNat v :: rest) = some (Char.ofNat v) :: scan none rest := by
  rw [scan, UInt8.toNat_ofNat_of_lt' (Nat.lt_trans high (by decide)), opening, if_pos high]

theorem scan_two {v : Nat} (low : 0x80 ≤ v) (high : v < 0x800) :
    scan none (UInt8.ofNat (0xC0 + v / 64) :: UInt8.ofNat (0x80 + v % 64) :: rest) =
      some (Char.ofNat v) :: scan none rest := by
  have hbits : v / 64 * 64 + (0x80 + v % 64 - 0x80) = v := by omega
  rw [scan_pending (by omega) (opening_two low high), scan_last (by omega) (by omega) (by omega), hbits]

theorem scan_three {v : Nat} (low : 0x800 ≤ v) (high : v < 0x10000) (scalar : v < 0xD800 ∨ 0xDFFF < v) :
    scan none (UInt8.ofNat (0xE0 + v / 4096) :: UInt8.ofNat (0x80 + v / 64 % 64) ::
      UInt8.ofNat (0x80 + v % 64) :: rest) = some (Char.ofNat v) :: scan none rest := by
  obtain ⟨l, h, ho, hl, hh⟩ := opening_three low high scalar
  have hbits : (v / 4096 * 64 + (0x80 + v / 64 % 64 - 0x80)) * 64 + (0x80 + v % 64 - 0x80) = v := by omega
  rw [scan_pending (by omega) ho, scan_next (by omega) hl hh, scan_last (by omega) (by omega) (by omega), hbits]

theorem scan_four {v : Nat} (low : 0x10000 ≤ v) (high : v < 0x110000) :
    scan none (UInt8.ofNat (0xF0 + v / 262144) :: UInt8.ofNat (0x80 + v / 4096 % 64) ::
      UInt8.ofNat (0x80 + v / 64 % 64) :: UInt8.ofNat (0x80 + v % 64) :: rest) =
        some (Char.ofNat v) :: scan none rest := by
  obtain ⟨l, h, ho, hl, hh⟩ := opening_four low high
  have hbits : ((v / 262144 * 64 + (0x80 + v / 4096 % 64 - 0x80)) * 64 + (0x80 + v / 64 % 64 - 0x80)) * 64 +
      (0x80 + v % 64 - 0x80) = v := by
    omega
  rw [scan_pending (by omega) ho, scan_next (by omega) hl hh, scan_next (by omega) (by omega) (by omega),
    scan_last (by omega) (by omega) (by omega), hbits]

theorem scan_encodeChar (c : Char) : scan none (encodeChar c ++ rest) = some c :: scan none rest := by
  have hv : c.toNat < 0xD800 ∨ 0xDFFF < c.toNat ∧ c.toNat < 0x110000 := c.valid
  have hc : Char.ofNat c.toNat = c := Char.ofNat_toNat c
  unfold encodeChar
  dsimp only
  split
  · next h1 => exact (scan_one h1).trans (by rw [hc]; rfl)
  · split
    · next h1 h2 => exact (scan_two (by omega) h2).trans (by rw [hc]; rfl)
    · split
      · next h2 h3 => exact (scan_three (by omega) h3 (by omega)).trans (by rw [hc]; rfl)
      · next h3 => exact (scan_four (by omega) (by omega)).trans (by rw [hc]; rfl)

/-- A text that is written reads back. -/
theorem decode?_encode (cs : List Char) : decode? (encode cs) = some cs := by
  have hs : scan none (encode cs) = cs.map some := by
    induction cs with
    | nil => rfl
    | cons c cs ih => rw [encode_cons, scan_encodeChar, ih, List.map_cons]
  unfold decode?
  rw [hs, List.mapM_map]
  exact List.mapM_pure.trans (congrArg some (List.map_id' cs))

theorem encode_injective {cs ds : List Char} (h : encode cs = encode ds) : cs = ds := by
  have hd := congrArg decode? h
  rw [decode?_encode, decode?_encode] at hd
  exact Option.some.inj hd

/-! ## Lengths -/

theorem encodeChar_ne_nil (c : Char) : encodeChar c ≠ [] := by
  unfold encodeChar
  dsimp only
  split
  · simp
  · split
    · simp
    · split <;> simp

theorem length_encodeChar_le (c : Char) : (encodeChar c).length ≤ 4 := by
  unfold encodeChar
  dsimp only
  split
  · simp
  · split
    · simp
    · split <;> simp

theorem length_encode_le (cs : List Char) : (encode cs).length ≤ 4 * cs.length := by
  induction cs with
  | nil => exact Nat.le_refl 0
  | cons c cs ih =>
    have hc := length_encodeChar_le c
    rw [encode_cons, List.length_append, List.length_cons]
    omega

/-! ## Bytes of one -/

theorem byte_eq_iff {v : Nat} (hv : v < 256) (hn : n < 256) : UInt8.ofNat v = UInt8.ofNat n ↔ v = n := by
  rw [← UInt8.toNat_inj, UInt8.toNat_ofNat_of_lt' hv, UInt8.toNat_ofNat_of_lt' hn]

/-- A byte below 0x80 stands for its own character only. -/
theorem byte_mem_encodeChar {v : Nat} (hv : v < 0x80) {c : Char} : UInt8.ofNat v ∈ encodeChar c ↔ c.toNat = v := by
  have hc : c.toNat < 0xD800 ∨ 0xDFFF < c.toNat ∧ c.toNat < 0x110000 := c.valid
  have hbyte : ∀ n, n < 256 → (UInt8.ofNat v = UInt8.ofNat n ↔ v = n) := fun n hn => byte_eq_iff (by omega) hn
  unfold encodeChar
  dsimp only
  split
  · rw [List.mem_singleton, hbyte _ (by omega)]
    omega
  · split
    · simp only [List.mem_cons, List.not_mem_nil, or_false]
      rw [hbyte _ (by omega), hbyte _ (by omega)]
      omega
    · split
      · simp only [List.mem_cons, List.not_mem_nil, or_false]
        rw [hbyte _ (by omega), hbyte _ (by omega), hbyte _ (by omega)]
        omega
      · simp only [List.mem_cons, List.not_mem_nil, or_false]
        rw [hbyte _ (by omega), hbyte _ (by omega), hbyte _ (by omega), hbyte _ (by omega)]
        omega

theorem byte_mem_encode {c : Char} (hc : c.toNat < 0x80) {cs : List Char} :
    UInt8.ofNat c.toNat ∈ encode cs ↔ c ∈ cs := by
  unfold encode
  rw [List.mem_flatMap]
  constructor
  · rintro ⟨d, hd, hm⟩
    have he : d = c := by
      rw [← Char.ofNat_toNat d, (byte_mem_encodeChar hc).1 hm, Char.ofNat_toNat]
    exact he ▸ hd
  · exact fun hm => ⟨c, hm, (byte_mem_encodeChar hc).2 rfl⟩

theorem encodeChar_ascii {c : Char} (h : c.toNat < 0x80) : encodeChar c = [UInt8.ofNat c.toNat] := if_pos h

/-- A character that is not a byte of its own begins with a byte that only begins characters. -/
theorem encodeChar_beyond {c : Char} (h : 0x80 ≤ c.toNat) : ∃ b rest, encodeChar c = b :: rest ∧ 0xC0 ≤ b.toNat := by
  have hc : c.toNat < 0xD800 ∨ 0xDFFF < c.toNat ∧ c.toNat < 0x110000 := c.valid
  have hbyte : ∀ n, 0xC0 ≤ n → n < 256 → 0xC0 ≤ (UInt8.ofNat n).toNat := fun n hlow hn => by
    rwa [UInt8.toNat_ofNat_of_lt' hn]
  unfold encodeChar
  dsimp only
  rw [if_neg (Nat.not_lt.2 h)]
  split
  · exact ⟨_, _, rfl, hbyte _ (by omega) (by omega)⟩
  · split
    · exact ⟨_, _, rfl, hbyte _ (by omega) (by omega)⟩
    · exact ⟨_, _, rfl, hbyte _ (by omega) (by omega)⟩

/-- A text begins with a byte that is a character of its own if it begins with that character. -/
theorem head?_encode {c : Char} (hc : c.toNat < 0x80) {cs : List Char} :
    (encode cs).head? = some (UInt8.ofNat c.toNat) ↔ cs.head? = some c := by
  cases cs with
  | nil => exact iff_of_false nofun nofun
  | cons d cs =>
    obtain ⟨b, rest, hb⟩ := List.exists_cons_of_ne_nil (encodeChar_ne_nil d)
    rw [encode_cons, hb, List.cons_append, List.head?_cons, List.head?_cons, Option.some_inj, Option.some_inj]
    constructor
    · rintro rfl
      have hd := (byte_mem_encodeChar hc).1 (hb ▸ List.mem_cons_self)
      rw [← Char.ofNat_toNat d, hd, Char.ofNat_toNat]
    · rintro rfl
      rw [encodeChar_ascii hc] at hb
      exact (List.cons.inj hb).1.symm

/-! ## Reading -/

/-- What a first byte says of its character: the bits it holds, and a range for the next byte that excludes the longer
forms of small values, the surrogates and what is above U+10FFFF. -/
structure Pending.Opened (p : Pending) (b : Nat) : Prop where
  low : 0x80 ≤ p.low
  high : p.high ≤ 0xBF
  two : p.need = 1 → b = 0xC0 + p.bits ∧ 2 ≤ p.bits ∧ p.bits < 32
  three : p.need = 2 → b = 0xE0 + p.bits ∧ p.bits < 16 ∧ (p.bits = 0 → 0xA0 ≤ p.low) ∧ (p.bits = 13 → p.high ≤ 0x9F)
  four : p.need = 3 → b = 0xF0 + p.bits ∧ p.bits ≤ 4 ∧ (p.bits = 0 → 0x90 ≤ p.low) ∧ (p.bits = 4 → p.high ≤ 0x8F)
  need : p.need = 1 ∨ p.need = 2 ∨ p.need = 3

theorem opened_of_opening {b : Nat} {p : Pending} (h : opening b = .pending p) : p.Opened b := by
  unfold opening at h
  repeat' split at h
  all_goals
    cases h
    try constructor <;> dsimp only <;> omega

theorem char_of_opening {b : Nat} {c : Char} (h : opening b = .char c) : b < 0x80 ∧ c = Char.ofNat b := by
  unfold opening at h
  repeat' split at h
  all_goals cases h
  exact ⟨by assumption, rfl⟩

/-- A character that is begun reads only when its next byte is in range. -/
theorem next_of_read {p : Pending} {bytes : List UInt8} (read : none ∉ scan (some p) bytes) :
    ∃ n rest, n < 256 ∧ bytes = UInt8.ofNat n :: rest ∧ p.low ≤ n ∧ n ≤ p.high := by
  cases bytes with
  | nil => simp [scan] at read
  | cons b rest =>
    have hb : UInt8.ofNat b.toNat = b := UInt8.ofNat_toNat
    by_cases range : p.low ≤ b.toNat ∧ b.toNat ≤ p.high
    · exact ⟨b.toNat, rest, b.toNat_lt, by rw [hb], range.1, range.2⟩
    · rw [scan, if_neg range] at read
      cases ho : opening b.toNat <;> simp [ho] at read

theorem toNat_ofNat_scalar {v : Nat} (h : v < 0xD800 ∨ 0xDFFF < v ∧ v < 0x110000) : (Char.ofNat v).toNat = v := by
  rw [Char.ofNat, dif_pos h]
  rfl

theorem encodeChar_one {v : Nat} (high : v < 0x80) : encodeChar (Char.ofNat v) = [UInt8.ofNat v] := by
  rw [encodeChar, toNat_ofNat_scalar (by omega), if_pos high]

theorem encodeChar_two {v : Nat} (low : 0x80 ≤ v) (high : v < 0x800) :
    encodeChar (Char.ofNat v) = [UInt8.ofNat (0xC0 + v / 64), UInt8.ofNat (0x80 + v % 64)] := by
  rw [encodeChar, toNat_ofNat_scalar (by omega), if_neg (by omega), if_pos high]

theorem encodeChar_three {v : Nat} (low : 0x800 ≤ v) (high : v < 0x10000) (scalar : v < 0xD800 ∨ 0xDFFF < v) :
    encodeChar (Char.ofNat v) =
      [UInt8.ofNat (0xE0 + v / 4096), UInt8.ofNat (0x80 + v / 64 % 64), UInt8.ofNat (0x80 + v % 64)] := by
  rw [encodeChar, toNat_ofNat_scalar (by omega), if_neg (by omega), if_neg (by omega), if_pos high]

theorem encodeChar_four {v : Nat} (low : 0x10000 ≤ v) (high : v < 0x110000) :
    encodeChar (Char.ofNat v) =
      [UInt8.ofNat (0xF0 + v / 262144), UInt8.ofNat (0x80 + v / 4096 % 64), UInt8.ofNat (0x80 + v / 64 % 64),
        UInt8.ofNat (0x80 + v % 64)] := by
  rw [encodeChar, toNat_ofNat_scalar (by omega), if_neg (by omega), if_neg (by omega), if_neg (by omega)]

/-- What a first byte leaves open is read to the end of its character. -/
theorem char_of_pending {b : Nat} {p : Pending} {bytes : List UInt8} (opened : p.Opened b)
    (read : none ∉ scan (some p) bytes) : ∃ c rest, UInt8.ofNat b :: bytes = encodeChar c ++ rest := by
  obtain ⟨need, low, high, bits⟩ := p
  obtain ⟨hlow, hhigh, two, three, four, hneed⟩ := opened
  obtain ⟨n, rest, hn, rfl, hl, hh⟩ := next_of_read read
  dsimp only at hlow hhigh two three four hneed hl hh
  obtain rfl | rfl | rfl := hneed
  · obtain ⟨rfl, hb⟩ := two rfl
    refine ⟨Char.ofNat (bits * 64 + (n - 0x80)), rest, ?_⟩
    rw [encodeChar_two (by omega) (by omega), show (bits * 64 + (n - 0x80)) / 64 = bits by omega,
      show 0x80 + (bits * 64 + (n - 0x80)) % 64 = n by omega]
    rfl
  · obtain ⟨rfl, hb, overlong, surrogate⟩ := three rfl
    rw [scan_next hn hl hh] at read
    obtain ⟨m, rest, hm, rfl, hml, hmh⟩ := next_of_read read
    dsimp only at hml hmh
    generalize hv : (bits * 64 + (n - 0x80)) * 64 + (m - 0x80) = v
    refine ⟨Char.ofNat v, rest, ?_⟩
    rw [encodeChar_three (by omega) (by omega) (by omega), show v / 4096 = bits by omega,
      show 0x80 + v / 64 % 64 = n by omega, show 0x80 + v % 64 = m by omega]
    rfl
  · obtain ⟨rfl, hb, overlong, above⟩ := four rfl
    rw [scan_next hn hl hh] at read
    obtain ⟨m, rest, hm, rfl, hml, hmh⟩ := next_of_read read
    dsimp only at hml hmh
    rw [scan_next hm hml hmh] at read
    obtain ⟨k, rest, hk, rfl, hkl, hkh⟩ := next_of_read read
    dsimp only at hkl hkh
    generalize hv : ((bits * 64 + (n - 0x80)) * 64 + (m - 0x80)) * 64 + (k - 0x80) = v
    refine ⟨Char.ofNat v, rest, ?_⟩
    rw [encodeChar_four (by omega) (by omega), show v / 262144 = bits by omega,
      show 0x80 + v / 4096 % 64 = n by omega, show 0x80 + v / 64 % 64 = m by omega, show 0x80 + v % 64 = k by omega]
    rfl

/-- Bytes that read begin with those of a character. -/
theorem char_of_read {bytes : List UInt8} (some : bytes ≠ []) (read : none ∉ scan none bytes) :
    ∃ c rest, bytes = encodeChar c ++ rest := by
  obtain ⟨b, rest, rfl⟩ := List.exists_cons_of_ne_nil some
  have hb : UInt8.ofNat b.toNat = b := UInt8.ofNat_toNat
  rw [scan] at read
  cases ho : opening b.toNat with
  | malformed => simp [ho] at read
  | char c =>
    obtain ⟨low, rfl⟩ := char_of_opening ho
    exact ⟨Char.ofNat b.toNat, rest, by rw [encodeChar_one low, hb]; rfl⟩
  | pending p =>
    simp only [ho] at read
    rw [← hb]
    exact char_of_pending (opened_of_opening ho) read

theorem encode_of_read {n : Nat} : ∀ {bytes : List UInt8}, bytes.length ≤ n → none ∉ scan none bytes →
    ∃ cs, encode cs = bytes := by
  induction n with
  | zero => exact fun len _ => ⟨[], (List.length_eq_zero_iff.1 (Nat.le_zero.1 len)).symm⟩
  | succ n ih =>
    intro bytes len read
    by_cases none : bytes = []
    · exact ⟨[], none.symm⟩
    · obtain ⟨c, rest, rfl⟩ := char_of_read none read
      have hc := List.length_pos_iff.2 (encodeChar_ne_nil c)
      rw [List.length_append] at len
      rw [scan_encodeChar, List.mem_cons, not_or] at read
      obtain ⟨cs, hcs⟩ := ih (by omega) read.2
      exact ⟨c :: cs, by rw [encode_cons, hcs]⟩

theorem not_mem_of_mapM_id {α : Type} {l : List (Option α)} {as : List α} (h : l.mapM id = some as) : none ∉ l := by
  induction l generalizing as with
  | nil => exact List.not_mem_nil
  | cons a l ih =>
    simp only [List.mapM_cons, bind, id_eq, Option.bind_eq_some_iff, pure] at h
    obtain ⟨b, rfl, bs, hbs, -⟩ := h
    exact List.not_mem_cons_of_ne_of_not_mem nofun (ih hbs)

/-- Only what is written reads. -/
theorem encode_of_decode? {bytes : List UInt8} {cs : List Char} (h : decode? bytes = some cs) : encode cs = bytes := by
  have read : none ∉ scan none bytes := not_mem_of_mapM_id h
  obtain ⟨ds, rfl⟩ := encode_of_read (Nat.le_refl _) read
  rw [decode?_encode] at h
  rw [Option.some.inj h]

end UsbInventory.Text.Utf8
