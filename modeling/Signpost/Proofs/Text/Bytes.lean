import Signpost.Base64
import Signpost.Percent

/-!
Texts that stand for bytes.  A text is read from its UTF-8 and from no other bytes; percent coding
decodes what stands on either side of a slash apart; and base64 loses nothing, for a group of digits
holds the bits of the bytes that it stands for, and no other group does.
-/

namespace Signpost

/-! ### UTF-8 -/

/-- A text is what its own bytes are read as, and no other bytes are. -/
theorem fromUTF8?_eq_some_iff {bytes : ByteArray} {text : String} :
    String.fromUTF8? bytes = some text ↔ text.toUTF8 = bytes := by
  unfold String.fromUTF8?
  constructor
  · intro h
    split at h
    · next hvalid =>
        obtain rfl := Option.some.inj h
        rfl
    · contradiction
  · rintro rfl
    exact dif_pos text.isValidUTF8

namespace Percent

/-! ### Percent coding -/

theorem pairValue?_slash_left (low : UInt8) : pairValue? 0x2F low = none := rfl

theorem pairValue?_slash_right (high : UInt8) : pairValue? high 0x2F = none := by
  unfold pairValue?
  cases digitValue? high <;> rfl

/-- A byte that begins no pair of digits stands for itself. -/
theorem decodeBytes_cons {b : UInt8} {rest : List UInt8}
    (h : ∀ high low more, rest = high :: low :: more → pairValue? high low = none) :
    decodeBytes (b :: rest) = b :: decodeBytes rest := by
  rcases rest with _ | ⟨high, _ | ⟨low, more⟩⟩
  · rfl
  · rfl
  · rw [decodeBytes, h high low more rfl]
    split <;> rfl

/-- No pair of digits goes on across a slash. -/
theorem decodeBytes_append_slash (front rest : List UInt8) :
    decodeBytes (front ++ 0x2F :: rest) = decodeBytes front ++ decodeBytes (0x2F :: rest) := by
  induction front using decodeBytes.induct with
  | case1 => rfl
  | case2 b =>
      apply decodeBytes_cons
      rintro high low more ⟨⟩
      exact pairValue?_slash_left low
  | case3 b c =>
      have hfirst : decodeBytes (b :: c :: 0x2F :: rest) = b :: decodeBytes (c :: 0x2F :: rest) := by
        apply decodeBytes_cons
        rintro high low more ⟨⟩
        exact pairValue?_slash_right c
      have hsecond : decodeBytes (c :: 0x2F :: rest) = c :: decodeBytes (0x2F :: rest) := by
        apply decodeBytes_cons
        rintro high low more ⟨⟩
        exact pairValue?_slash_left low
      exact hfirst.trans (congrArg (b :: ·) hsecond)
  | case4 high low more byte hpair ih =>
      simp only [List.cons_append, decodeBytes, hpair, if_true, ih]
  | case5 high low more hpair ih =>
      simp only [List.cons_append] at ih
      simp only [List.cons_append, decodeBytes, hpair, if_true, ih]
  | case6 b high low more hb ih =>
      simp only [List.cons_append] at ih
      simp only [List.cons_append, decodeBytes, hb, if_false, ih]

/-- In front of a slash a coded text stands for the same bytes as alone. -/
theorem decode?_append_slash {coded text : String} (h : decode? coded = some text)
    (rest : String) :
    decode? (coded ++ ("/" ++ rest)) = String.fromUTF8?
      ⟨(text.toUTF8.data.toList ++ decodeBytes (0x2F :: rest.toUTF8.data.toList)).toArray⟩ := by
  have hbytes : (coded ++ ("/" ++ rest)).toUTF8.data.toList =
      coded.toUTF8.data.toList ++ 0x2F :: rest.toUTF8.data.toList := by
    simp
    rfl
  rw [decode?, hbytes, decodeBytes_append_slash, fromUTF8?_eq_some_iff.mp h]

end Percent

namespace Base64

/-! ### Base64 -/

theorem digitValue?_digit {n : Nat} (h : n < 64) : digitValue? (digit n) = some n := by
  have hall : ∀ m ∈ List.range 64, digitValue? (digit m) = some m := by decide
  exact hall n (List.mem_range.mpr h)

theorem digit_ne_pad {n : Nat} (h : n < 64) : digit n ≠ '=' := by
  intro hpad
  have hvalue := digitValue?_digit h
  rw [hpad] at hvalue
  contradiction

/-- Only the digit for six bits has them for its value. -/
theorem digit_of_digitValue? {c : Char} {n : Nat} (h : digitValue? c = some n) :
    n < 64 ∧ c = digit n := by
  have hback {m : Nat} (hm : m = c.toNat) : c = Char.ofNat m := by rw [hm, Char.ofNat_toNat]
  unfold digitValue? at h
  dsimp only at h
  unfold digit
  split at h
  · obtain rfl := Option.some.inj h
    rw [if_pos (by omega)]
    exact ⟨by omega, hback (by omega)⟩
  · split at h
    · obtain rfl := Option.some.inj h
      rw [if_neg (by omega), if_pos (by omega)]
      exact ⟨by omega, hback (by omega)⟩
    · split at h
      · obtain rfl := Option.some.inj h
        rw [if_neg (by omega), if_neg (by omega), if_pos (by omega)]
        exact ⟨by omega, hback (by omega)⟩
      · split at h
        · next hplus =>
            obtain rfl := Option.some.inj h
            exact ⟨by decide, hplus⟩
        · split at h
          · next hslash =>
              obtain rfl := Option.some.inj h
              exact ⟨by decide, hslash⟩
          · contradiction

theorem decode?_one {i j : Nat} (hi : i < 64) (hj : j < 64) :
    decode? [digit i, digit j, '=', '='] =
      if (i * 64 + j) % 16 = 0 then some [UInt8.ofNat ((i * 64 + j) / 16)] else none := by
  rw [decode?, digitValue?_digit hi, digitValue?_digit hj]
  rfl

theorem decode?_two {i j k : Nat} (hi : i < 64) (hj : j < 64) (hk : k < 64) :
    decode? [digit i, digit j, digit k, '='] =
      if ((i * 64 + j) * 64 + k) % 4 = 0 then
        some [UInt8.ofNat (((i * 64 + j) * 64 + k) / 1024),
          UInt8.ofNat (((i * 64 + j) * 64 + k) / 4)]
      else none := by
  rw [decode?.eq_3 _ _ _ (digit_ne_pad hk), digitValue?_digit hi, digitValue?_digit hj,
    digitValue?_digit hk]
  rfl

theorem decode?_three {i j k l : Nat} (hi : i < 64) (hj : j < 64) (hk : k < 64) (hl : l < 64)
    (rest : List Char) :
    decode? (digit i :: digit j :: digit k :: digit l :: rest) = (decode? rest).map fun more =>
      UInt8.ofNat (((((i * 64 + j) * 64) + k) * 64 + l) / 65536) ::
        UInt8.ofNat (((((i * 64 + j) * 64) + k) * 64 + l) / 256) ::
        UInt8.ofNat ((((i * 64 + j) * 64) + k) * 64 + l) :: more := by
  rw [decode?.eq_4 _ _ _ _ _ (fun _ hpad _ => digit_ne_pad hl hpad)
    (fun hpad _ => digit_ne_pad hl hpad), digitValue?_digit hi, digitValue?_digit hj,
    digitValue?_digit hk, digitValue?_digit hl]
  cases decode? rest <;> rfl

/-- A byte is made of the lowest eight bits. -/
theorem ofNat_eq {n : Nat} {b : UInt8} (h : n % 256 = b.toNat) : UInt8.ofNat n = b := by
  rw [← UInt8.toNat_inj, UInt8.toNat_ofNat']
  exact h

theorem toNat_ofNat_of_lt {n : Nat} (h : n < 256) : (UInt8.ofNat n).toNat = n := by
  rw [UInt8.toNat_ofNat']
  exact Nat.mod_eq_of_lt h

theorem decode?_encode (bytes : List UInt8) : decode? (encode bytes) = some bytes := by
  induction bytes using encode.induct with
  | case1 => rfl
  | case2 a =>
      have ha := a.toNat_lt
      have hbits : a.toNat * 16 / 64 * 64 + a.toNat * 16 % 64 = a.toNat * 16 := by omega
      rw [encode, decode?_one (by omega) (by omega), hbits, if_pos (by omega),
        ofNat_eq (b := a) (by omega)]
  | case3 a b =>
      have ha := a.toNat_lt
      have hb := b.toNat_lt
      have hbits (n : Nat) : (n / 4096 * 64 + n / 64 % 64) * 64 + n % 64 = n := by omega
      rw [encode, decode?_two (by omega) (by omega) (by omega), hbits, if_pos (by omega),
        ofNat_eq (b := a) (by omega), ofNat_eq (b := b) (by omega)]
  | case4 a b c rest ih =>
      have ha := a.toNat_lt
      have hb := b.toNat_lt
      have hc := c.toNat_lt
      have hbits (n : Nat) :
          ((n / 262144 * 64 + n / 4096 % 64) * 64 + n / 64 % 64) * 64 + n % 64 = n := by omega
      rw [encode, decode?_three (by omega) (by omega) (by omega) (by omega), hbits, ih,
        Option.map_some, ofNat_eq (b := a) (by omega), ofNat_eq (b := b) (by omega),
        ofNat_eq (b := c) (by omega)]

theorem eq_encode_of_decode? {text : List Char} {bytes : List UInt8}
    (h : decode? text = some bytes) : text = encode bytes := by
  induction text using decode?.induct generalizing bytes with
  | case1 =>
      obtain rfl := Option.some.inj h
      rfl
  | case2 x y =>
      have hdigits := h
      rw [decode?] at hdigits
      obtain ⟨i, hx, hdigits⟩ := Option.bind_eq_some_iff.mp hdigits
      obtain ⟨j, hy, -⟩ := Option.bind_eq_some_iff.mp hdigits
      obtain ⟨hi, rfl⟩ := digit_of_digitValue? hx
      obtain ⟨hj, rfl⟩ := digit_of_digitValue? hy
      rw [decode?_one hi hj] at h
      split at h
      · obtain rfl := Option.some.inj h
        have hbits : (i * 64 + j) / 16 * 16 = i * 64 + j := by omega
        have hfirst : (i * 64 + j) / 64 = i := by omega
        have hsecond : (i * 64 + j) % 64 = j := by omega
        rw [encode, toNat_ofNat_of_lt (by omega), hbits, hfirst, hsecond]
      · contradiction
  | case3 x y z hpad =>
      have hdigits := h
      rw [decode?.eq_3 x y z hpad] at hdigits
      obtain ⟨i, hx, hdigits⟩ := Option.bind_eq_some_iff.mp hdigits
      obtain ⟨j, hy, hdigits⟩ := Option.bind_eq_some_iff.mp hdigits
      obtain ⟨k, hz, -⟩ := Option.bind_eq_some_iff.mp hdigits
      obtain ⟨hi, rfl⟩ := digit_of_digitValue? hx
      obtain ⟨hj, rfl⟩ := digit_of_digitValue? hy
      obtain ⟨hk, rfl⟩ := digit_of_digitValue? hz
      rw [decode?_two hi hj hk] at h
      generalize hn : (i * 64 + j) * 64 + k = n at h
      split at h
      · obtain rfl := Option.some.inj h
        have hlow : (UInt8.ofNat (n / 4)).toNat = n / 4 % 256 := UInt8.toNat_ofNat'
        have hbits : (n / 1024 * 256 + n / 4 % 256) * 4 = n := by omega
        have hfirst : n / 4096 = i := by omega
        have hsecond : n / 64 % 64 = j := by omega
        have hthird : n % 64 = k := by omega
        rw [encode, toNat_ofNat_of_lt (by omega), hlow, hbits, hfirst, hsecond, hthird]
      · contradiction
  | case4 x y z w rest hone htwo ih =>
      have hdigits := h
      rw [decode?.eq_4 x y z w rest hone htwo] at hdigits
      obtain ⟨i, hx, hdigits⟩ := Option.bind_eq_some_iff.mp hdigits
      obtain ⟨j, hy, hdigits⟩ := Option.bind_eq_some_iff.mp hdigits
      obtain ⟨k, hz, hdigits⟩ := Option.bind_eq_some_iff.mp hdigits
      obtain ⟨l, hw, -⟩ := Option.bind_eq_some_iff.mp hdigits
      obtain ⟨hi, rfl⟩ := digit_of_digitValue? hx
      obtain ⟨hj, rfl⟩ := digit_of_digitValue? hy
      obtain ⟨hk, rfl⟩ := digit_of_digitValue? hz
      obtain ⟨hl, rfl⟩ := digit_of_digitValue? hw
      rw [decode?_three hi hj hk hl] at h
      obtain ⟨more, hmore, rfl⟩ := Option.map_eq_some_iff.mp h
      generalize hn : ((i * 64 + j) * 64 + k) * 64 + l = n
      have hmiddle : (UInt8.ofNat (n / 256)).toNat = n / 256 % 256 := UInt8.toNat_ofNat'
      have hlow : (UInt8.ofNat n).toNat = n % 256 := UInt8.toNat_ofNat'
      have hbits : (n / 65536 * 256 + n / 256 % 256) * 256 + n % 256 = n := by omega
      have hfirst : n / 262144 = i := by omega
      have hsecond : n / 4096 % 64 = j := by omega
      have hthird : n / 64 % 64 = k := by omega
      have hfourth : n % 64 = l := by omega
      rw [encode, toNat_ofNat_of_lt (by omega), hmiddle, hlow, hbits, hfirst, hsecond, hthird,
        hfourth, ← ih hmore]
  | case5 text h1 h2 h3 h4 =>
      rw [decode?.eq_5 text h1 h2 h3 h4] at h
      contradiction

/-- A text is decoded exactly if it is what the bytes are encoded as. -/
theorem decode?_eq_some_iff {text : List Char} {bytes : List UInt8} :
    decode? text = some bytes ↔ text = encode bytes :=
  ⟨eq_encode_of_decode?, fun h => h ▸ decode?_encode bytes⟩

end Base64

end Signpost
