/-
  UTF-8 in both directions.  The bytes that are taken for a text are those that some
  characters are written with, one after the other.

  * `Utf8.bytesOf`, the bytes of some characters, and `Utf8.IsText`, bytes of some;
  * `Utf8.front_eq_some_iff`: a character is found at the front if and only if its
    bytes stand there;
  * `Utf8.decode?_eq_some_iff` and `Utf8.decode?_eq_none_iff`: what is decoded.
-/
import FlowLens.Text.Utf8
import Mathlib

namespace FlowLens

namespace Utf8

/-- The bytes that some characters are written with. -/
def bytesOf (chars : List Char) : List UInt8 :=
  chars.flatMap String.utf8EncodeChar

/-- Bytes that some characters are written with. -/
def IsText (bytes : List UInt8) : Prop :=
  ∃ chars, bytes = bytesOf chars

variable {b : UInt8} {c : Char} {bytes rest : List UInt8} {more low high bits n : Nat}

/-! ## First bytes -/

/-- A first byte with one byte to follow. -/
theorem lead?_of_two {b : Nat} (h : 0xC2 ≤ b ∧ b ≤ 0xDF) :
    lead? b = some ⟨b - 0xC0, 1, 0x80, 0xBF⟩ := by
  rw [lead?, if_pos h]

/-- A first byte with two bytes to follow. -/
theorem lead?_of_three {b : Nat} (h : 0xE0 ≤ b ∧ b ≤ 0xEF) :
    lead? b = some ⟨b - 0xE0, 2, if b = 0xE0 then 0xA0 else 0x80,
      if b = 0xED then 0x9F else 0xBF⟩ := by
  rw [lead?, if_neg (by omega)]
  by_cases hlow : b = 0xE0
  · simp [hlow]
  · by_cases hhigh : b = 0xED
    · simp [hhigh]
    · rw [if_neg hlow, if_neg hhigh, if_pos (by omega), if_neg hlow, if_neg hhigh]

/-- A first byte with three bytes to follow. -/
theorem lead?_of_four {b : Nat} (h : 0xF0 ≤ b ∧ b ≤ 0xF4) :
    lead? b = some ⟨b - 0xF0, 3, if b = 0xF0 then 0x90 else 0x80,
      if b = 0xF4 then 0x8F else 0xBF⟩ := by
  rw [lead?, if_neg (by omega), if_neg (by omega), if_neg (by omega), if_neg (by omega)]
  by_cases hlow : b = 0xF0
  · simp [hlow]
  · by_cases hhigh : b = 0xF4
    · simp [hhigh]
    · rw [if_neg hlow, if_pos (by omega), if_neg hlow, if_neg hhigh]

theorem range_of_lead? {b : Nat} {l : Lead} (h : lead? b = some l) :
    (0xC2 ≤ b ∧ b ≤ 0xDF) ∨ (0xE0 ≤ b ∧ b ≤ 0xEF) ∨ (0xF0 ≤ b ∧ b ≤ 0xF4) := by
  unfold lead? at h
  split_ifs at h <;> omega

/-! ## Characters at the front -/

section
variable {b₁ b₂ b₃ : UInt8}

theorem tail_cons (hlow : low ≤ b.toNat) (hhigh : b.toNat ≤ high) :
    tail (more + 1) low high bits (b :: bytes) =
      tail more 0x80 0xBF (bits * 64 + (b.toNat - 0x80)) bytes := by
  rw [tail, if_pos ⟨hlow, hhigh⟩]

theorem rest_of_tail (h : tail 0 low high bits bytes = (some n, rest)) : bytes = rest :=
  (Prod.mk.inj h).2

theorem exists_of_tail (h : tail (more + 1) low high bits bytes = (some n, rest)) :
    ∃ b bytes', bytes = b :: bytes' ∧ low ≤ b.toNat ∧ b.toNat ≤ high ∧
      tail more 0x80 0xBF (bits * 64 + (b.toNat - 0x80)) bytes' = (some n, rest) := by
  cases bytes with
  | nil => cases h
  | cons b bytes' =>
    rw [tail] at h
    split_ifs at h with hb
    · exact ⟨b, bytes', rfl, hb.1, hb.2, h⟩
    · cases h

/-- The byte `b` may follow a first byte. -/
def Follows (b : UInt8) : Prop :=
  0x80 ≤ b.toNat ∧ b.toNat ≤ 0xBF

/-- Two bytes that make a character. -/
structure Two (b b₁ : UInt8) : Prop where
  first : 0xC2 ≤ b.toNat ∧ b.toNat ≤ 0xDF
  second : Follows b₁

/-- Three bytes that make a character: none that fewer bytes make, and no
    surrogate. -/
structure Three (b b₁ b₂ : UInt8) : Prop where
  first : 0xE0 ≤ b.toNat ∧ b.toNat ≤ 0xEF
  second : Follows b₁
  third : Follows b₂
  long : b.toNat = 0xE0 → 0xA0 ≤ b₁.toNat
  char : b.toNat = 0xED → b₁.toNat ≤ 0x9F

/-- Four bytes that make a character: none that fewer bytes make, and none beyond
    the last one. -/
structure Four (b b₁ b₂ b₃ : UInt8) : Prop where
  first : 0xF0 ≤ b.toNat ∧ b.toNat ≤ 0xF4
  second : Follows b₁
  third : Follows b₂
  fourth : Follows b₃
  long : b.toNat = 0xF0 → 0x90 ≤ b₁.toNat
  char : b.toNat = 0xF4 → b₁.toNat ≤ 0x8F

theorem front_one (h : b.toNat < 0x80) : front b rest = (some (.ofNat b.toNat), rest) := by
  rw [front, if_pos h]

theorem front_two (h : Two b b₁) :
    front b (b₁ :: rest) =
      (some (.ofNat ((b.toNat - 0xC0) * 64 + (b₁.toNat - 0x80))), rest) := by
  obtain ⟨hfirst, hsecond⟩ := h
  rw [front, if_neg (by omega), lead?_of_two hfirst]
  simp only [tail_cons hsecond.1 hsecond.2]
  rfl

theorem front_three (h : Three b b₁ b₂) :
    front b (b₁ :: b₂ :: rest) =
      (some (.ofNat (((b.toNat - 0xE0) * 64 + (b₁.toNat - 0x80)) * 64 + (b₂.toNat - 0x80))),
        rest) := by
  obtain ⟨hfirst, hsecond, hthird, hlong, hchar⟩ := h
  rw [front, if_neg (by omega), lead?_of_three hfirst]
  have hlow : (if b.toNat = 0xE0 then 0xA0 else 0x80) ≤ b₁.toNat := by
    split_ifs with he
    · exact hlong he
    · exact hsecond.1
  have hhigh : b₁.toNat ≤ if b.toNat = 0xED then 0x9F else 0xBF := by
    split_ifs with he
    · exact hchar he
    · exact hsecond.2
  simp only [tail_cons hlow hhigh, tail_cons hthird.1 hthird.2]
  rfl

theorem front_four (h : Four b b₁ b₂ b₃) :
    front b (b₁ :: b₂ :: b₃ :: rest) =
      (some (.ofNat ((((b.toNat - 0xF0) * 64 + (b₁.toNat - 0x80)) * 64 + (b₂.toNat - 0x80)) * 64 +
        (b₃.toNat - 0x80))), rest) := by
  obtain ⟨hfirst, hsecond, hthird, hfourth, hlong, hchar⟩ := h
  rw [front, if_neg (by omega), lead?_of_four hfirst]
  have hlow : (if b.toNat = 0xF0 then 0x90 else 0x80) ≤ b₁.toNat := by
    split_ifs with he
    · exact hlong he
    · exact hsecond.1
  have hhigh : b₁.toNat ≤ if b.toNat = 0xF4 then 0x8F else 0xBF := by
    split_ifs with he
    · exact hchar he
    · exact hsecond.2
  simp only [tail_cons hlow hhigh, tail_cons hthird.1 hthird.2, tail_cons hfourth.1 hfourth.2]
  rfl

theorem two_of_tail (hb : 0xC2 ≤ b.toNat ∧ b.toNat ≤ 0xDF)
    (h : tail 1 0x80 0xBF bits bytes = (some n, rest)) :
    ∃ b₁, Two b b₁ ∧ bytes = b₁ :: rest := by
  obtain ⟨b₁, _, rfl, hlow, hhigh, hrest⟩ := exists_of_tail h
  obtain rfl := rest_of_tail hrest
  exact ⟨b₁, ⟨hb, hlow, hhigh⟩, rfl⟩

theorem three_of_tail (hb : 0xE0 ≤ b.toNat ∧ b.toNat ≤ 0xEF)
    (h : tail 2 (if b.toNat = 0xE0 then 0xA0 else 0x80) (if b.toNat = 0xED then 0x9F else 0xBF)
      bits bytes = (some n, rest)) :
    ∃ b₁ b₂, Three b b₁ b₂ ∧ bytes = b₁ :: b₂ :: rest := by
  obtain ⟨b₁, _, rfl, hlow, hhigh, hmore⟩ := exists_of_tail h
  obtain ⟨b₂, _, rfl, hlow', hhigh', hrest⟩ := exists_of_tail hmore
  obtain rfl := rest_of_tail hrest
  refine ⟨b₁, b₂, ⟨hb, ⟨?_, ?_⟩, ⟨hlow', hhigh'⟩, fun he => ?_, fun he => ?_⟩, rfl⟩
  · split_ifs at hlow <;> omega
  · split_ifs at hhigh <;> omega
  · rwa [if_pos he] at hlow
  · rwa [if_pos he] at hhigh

theorem four_of_tail (hb : 0xF0 ≤ b.toNat ∧ b.toNat ≤ 0xF4)
    (h : tail 3 (if b.toNat = 0xF0 then 0x90 else 0x80) (if b.toNat = 0xF4 then 0x8F else 0xBF)
      bits bytes = (some n, rest)) :
    ∃ b₁ b₂ b₃, Four b b₁ b₂ b₃ ∧ bytes = b₁ :: b₂ :: b₃ :: rest := by
  obtain ⟨b₁, _, rfl, hlow, hhigh, hmore⟩ := exists_of_tail h
  obtain ⟨b₂, _, rfl, hlow', hhigh', hmore'⟩ := exists_of_tail hmore
  obtain ⟨b₃, _, rfl, hlow'', hhigh'', hrest⟩ := exists_of_tail hmore'
  obtain rfl := rest_of_tail hrest
  refine ⟨b₁, b₂, b₃, ⟨hb, ⟨?_, ?_⟩, ⟨hlow', hhigh'⟩, ⟨hlow'', hhigh''⟩, fun he => ?_,
    fun he => ?_⟩, rfl⟩
  · split_ifs at hlow <;> omega
  · split_ifs at hhigh <;> omega
  · rwa [if_pos he] at hlow
  · rwa [if_pos he] at hhigh

/-- **What stands at the front** when a character is found there. -/
theorem front_cases (h : front b bytes = (some c, rest)) :
    (b.toNat < 0x80 ∧ bytes = rest) ∨
    (∃ b₁, Two b b₁ ∧ bytes = b₁ :: rest) ∨
    (∃ b₁ b₂, Three b b₁ b₂ ∧ bytes = b₁ :: b₂ :: rest) ∨
    ∃ b₁ b₂ b₃, Four b b₁ b₂ b₃ ∧ bytes = b₁ :: b₂ :: b₃ :: rest := by
  by_cases hone : b.toNat < 0x80
  · rw [front_one hone] at h
    exact .inl ⟨hone, (Prod.mk.inj h).2⟩
  rw [front, if_neg hone] at h
  cases hlead : lead? b.toNat with
  | none => rw [hlead] at h; cases h
  | some l =>
    rw [hlead] at h
    obtain ⟨n, hn⟩ : ∃ n, tail l.more l.low l.high l.bits bytes = (some n, rest) := by
      rcases htail : tail l.more l.low l.high l.bits bytes with ⟨_ | n, rest'⟩
      · simp [htail] at h
      · simp only [htail, Option.map_some, Prod.mk.injEq] at h
        exact ⟨n, by rw [h.2]⟩
    rcases range_of_lead? hlead with hrange | hrange | hrange
    · rw [lead?_of_two hrange] at hlead
      obtain rfl := Option.some.inj hlead
      exact .inr (.inl (two_of_tail hrange hn))
    · rw [lead?_of_three hrange] at hlead
      obtain rfl := Option.some.inj hlead
      exact .inr (.inr (.inl (three_of_tail hrange hn)))
    · rw [lead?_of_four hrange] at hlead
      obtain rfl := Option.some.inj hlead
      exact .inr (.inr (.inr (four_of_tail hrange hn)))

end

/-! ## Characters and their bytes -/

theorem toNat_ofNat {k : Nat} (h : k < 256) : (UInt8.ofNat k).toNat = k :=
  UInt8.toNat_ofNat_of_lt' h

theorem ofNat_eq {k : Nat} (h : k = b.toNat) : UInt8.ofNat k = b := by
  rw [h, UInt8.ofNat_toNat]

theorem toNat_char (h : n.isValidChar) : (Char.ofNat n).toNat = n := by
  rw [Char.toNat_ofNat, if_pos h]

/-- The bytes of a character, by its number. -/
theorem utf8EncodeChar_eq (c : Char) :
    (c.toNat < 0x80 ∧ String.utf8EncodeChar c = [.ofNat c.toNat]) ∨
    (0x80 ≤ c.toNat ∧ c.toNat < 0x800 ∧ String.utf8EncodeChar c =
      [.ofNat (c.toNat / 64 + 0xC0), .ofNat (c.toNat % 64 + 0x80)]) ∨
    (0x800 ≤ c.toNat ∧ c.toNat < 0x10000 ∧ String.utf8EncodeChar c =
      [.ofNat (c.toNat / 4096 + 0xE0), .ofNat (c.toNat / 64 % 64 + 0x80),
        .ofNat (c.toNat % 64 + 0x80)]) ∨
    (0x10000 ≤ c.toNat ∧ c.toNat < 0x110000 ∧ String.utf8EncodeChar c =
      [.ofNat (c.toNat / 262144 + 0xF0), .ofNat (c.toNat / 4096 % 64 + 0x80),
        .ofNat (c.toNat / 64 % 64 + 0x80), .ofNat (c.toNat % 64 + 0x80)]) := by
  have hvalid : c.toNat < 0xD800 ∨ 0xDFFF < c.toNat ∧ c.toNat < 0x110000 := c.valid
  have hencode : String.utf8EncodeChar c =
      if c.toNat ≤ 0x7F then [.ofNat c.toNat]
      else if c.toNat ≤ 0x7FF then
        [.ofNat (c.toNat / 64 % 32 + 0xC0), .ofNat (c.toNat % 64 + 0x80)]
      else if c.toNat ≤ 0xFFFF then
        [.ofNat (c.toNat / 4096 % 16 + 0xE0), .ofNat (c.toNat / 64 % 64 + 0x80),
          .ofNat (c.toNat % 64 + 0x80)]
      else
        [.ofNat (c.toNat / 262144 % 8 + 0xF0), .ofNat (c.toNat / 4096 % 64 + 0x80),
          .ofNat (c.toNat / 64 % 64 + 0x80), .ofNat (c.toNat % 64 + 0x80)] := rfl
  generalize c.toNat = v at *
  split_ifs at hencode with hone htwo hthree
  · exact .inl ⟨by omega, hencode⟩
  · rw [Nat.mod_eq_of_lt (show v / 64 < 32 by omega)] at hencode
    exact .inr (.inl ⟨by omega, by omega, hencode⟩)
  · rw [Nat.mod_eq_of_lt (show v / 4096 < 16 by omega)] at hencode
    exact .inr (.inr (.inl ⟨by omega, by omega, hencode⟩))
  · rw [Nat.mod_eq_of_lt (show v / 262144 < 8 by omega)] at hencode
    exact .inr (.inr (.inr ⟨by omega, by omega, hencode⟩))

/-- A character is found where its bytes stand. -/
theorem front_append_of_eq (h : String.utf8EncodeChar c = b :: bytes) :
    front b (bytes ++ rest) = (some c, rest) := by
  have hvalid : c.toNat < 0xD800 ∨ 0xDFFF < c.toNat ∧ c.toNat < 0x110000 := c.valid
  have hchar := Char.ofNat_toNat c
  rcases utf8EncodeChar_eq c with ⟨hlt, hc⟩ | ⟨hge, hlt, hc⟩ | ⟨hge, hlt, hc⟩ | ⟨hge, hlt, hc⟩
  all_goals
    rw [hc] at h
    obtain ⟨rfl, rfl⟩ := List.cons.inj h
    generalize c.toNat = v at *
  · have hb := toNat_ofNat (show v < 256 by omega)
    rw [List.nil_append, front_one (by omega), hb, hchar]
  · have hb := toNat_ofNat (show v / 64 + 0xC0 < 256 by omega)
    have hb₁ := toNat_ofNat (show v % 64 + 0x80 < 256 by omega)
    have hbits : (v / 64 + 0xC0 - 0xC0) * 64 + (v % 64 + 0x80 - 0x80) = v := by omega
    have htwo : Two (.ofNat (v / 64 + 0xC0)) (.ofNat (v % 64 + 0x80)) :=
      ⟨by omega, by rw [Follows]; omega⟩
    rw [List.singleton_append, front_two htwo, hb, hb₁, hbits, hchar]
  · have hb := toNat_ofNat (show v / 4096 + 0xE0 < 256 by omega)
    have hb₁ := toNat_ofNat (show v / 64 % 64 + 0x80 < 256 by omega)
    have hb₂ := toNat_ofNat (show v % 64 + 0x80 < 256 by omega)
    have hbits : ((v / 4096 + 0xE0 - 0xE0) * 64 + (v / 64 % 64 + 0x80 - 0x80)) * 64 +
      (v % 64 + 0x80 - 0x80) = v := by omega
    have hthree : Three (.ofNat (v / 4096 + 0xE0)) (.ofNat (v / 64 % 64 + 0x80))
        (.ofNat (v % 64 + 0x80)) :=
      ⟨by omega, by rw [Follows]; omega, by rw [Follows]; omega, by omega, by omega⟩
    rw [List.cons_append, List.singleton_append, front_three hthree, hb, hb₁, hb₂, hbits, hchar]
  · have hb := toNat_ofNat (show v / 262144 + 0xF0 < 256 by omega)
    have hb₁ := toNat_ofNat (show v / 4096 % 64 + 0x80 < 256 by omega)
    have hb₂ := toNat_ofNat (show v / 64 % 64 + 0x80 < 256 by omega)
    have hb₃ := toNat_ofNat (show v % 64 + 0x80 < 256 by omega)
    have hbits : (((v / 262144 + 0xF0 - 0xF0) * 64 + (v / 4096 % 64 + 0x80 - 0x80)) * 64 +
      (v / 64 % 64 + 0x80 - 0x80)) * 64 + (v % 64 + 0x80 - 0x80) = v := by omega
    have hfour : Four (.ofNat (v / 262144 + 0xF0)) (.ofNat (v / 4096 % 64 + 0x80))
        (.ofNat (v / 64 % 64 + 0x80)) (.ofNat (v % 64 + 0x80)) :=
      ⟨by omega, by rw [Follows]; omega, by rw [Follows]; omega, by rw [Follows]; omega, by omega,
        by omega⟩
    rw [List.cons_append, List.cons_append, List.singleton_append, front_four hfour, hb, hb₁, hb₂,
      hb₃, hbits, hchar]

section
variable {b₁ b₂ b₃ : UInt8}

theorem utf8EncodeChar_one (h : b.toNat < 0x80) :
    String.utf8EncodeChar (.ofNat b.toNat) = [b] := by
  have hnat := toNat_char (n := b.toNat) (.inl (by omega))
  rcases utf8EncodeChar_eq (.ofNat b.toNat) with ⟨_, hc⟩ | ⟨_, _⟩ | ⟨_, _⟩ | ⟨_, _⟩ <;> try omega
  rw [hc, hnat, UInt8.ofNat_toNat]

theorem utf8EncodeChar_two (h : Two b b₁) :
    String.utf8EncodeChar (.ofNat ((b.toNat - 0xC0) * 64 + (b₁.toNat - 0x80))) = [b, b₁] := by
  obtain ⟨hfirst, hsecond, hsecond'⟩ := h
  obtain ⟨n, hn⟩ : ∃ n, n = (b.toNat - 0xC0) * 64 + (b₁.toNat - 0x80) := ⟨_, rfl⟩
  have hnat := toNat_char (n := n) (.inl (by omega))
  rw [← hn]
  rcases utf8EncodeChar_eq (.ofNat n) with ⟨_, hc⟩ | ⟨_, _, hc⟩ | ⟨_, _⟩ | ⟨_, _⟩ <;> try omega
  rw [hc, hnat, ofNat_eq (b := b) (by omega), ofNat_eq (b := b₁) (by omega)]

theorem utf8EncodeChar_three (h : Three b b₁ b₂) :
    String.utf8EncodeChar
        (.ofNat (((b.toNat - 0xE0) * 64 + (b₁.toNat - 0x80)) * 64 + (b₂.toNat - 0x80))) =
      [b, b₁, b₂] := by
  obtain ⟨hfirst, ⟨hsecond, hsecond'⟩, ⟨hthird, hthird'⟩, hlong, hchar⟩ := h
  obtain ⟨n, hn⟩ : ∃ n, n = ((b.toNat - 0xE0) * 64 + (b₁.toNat - 0x80)) * 64 +
    (b₂.toNat - 0x80) := ⟨_, rfl⟩
  have hnat := toNat_char (n := n) (show n < 0xD800 ∨ 0xDFFF < n ∧ n < 0x110000 by omega)
  rw [← hn]
  rcases utf8EncodeChar_eq (.ofNat n) with ⟨_, hc⟩ | ⟨_, _, hc⟩ | ⟨_, _, hc⟩ | ⟨_, _⟩ <;> try omega
  rw [hc, hnat, ofNat_eq (b := b) (by omega), ofNat_eq (b := b₁) (by omega),
    ofNat_eq (b := b₂) (by omega)]

theorem utf8EncodeChar_four (h : Four b b₁ b₂ b₃) :
    String.utf8EncodeChar
        (.ofNat ((((b.toNat - 0xF0) * 64 + (b₁.toNat - 0x80)) * 64 + (b₂.toNat - 0x80)) * 64 +
          (b₃.toNat - 0x80))) =
      [b, b₁, b₂, b₃] := by
  obtain ⟨hfirst, ⟨hsecond, hsecond'⟩, ⟨hthird, hthird'⟩, ⟨hfourth, hfourth'⟩, hlong, hchar⟩ := h
  obtain ⟨n, hn⟩ : ∃ n, n = (((b.toNat - 0xF0) * 64 + (b₁.toNat - 0x80)) * 64 +
    (b₂.toNat - 0x80)) * 64 + (b₃.toNat - 0x80) := ⟨_, rfl⟩
  have hnat := toNat_char (n := n) (show n < 0xD800 ∨ 0xDFFF < n ∧ n < 0x110000 by omega)
  rw [← hn]
  rcases utf8EncodeChar_eq (.ofNat n) with ⟨_, hc⟩ | ⟨_, _, hc⟩ | ⟨_, _, hc⟩ | ⟨_, _, hc⟩ <;>
    try omega
  rw [hc, hnat, ofNat_eq (b := b) (by omega), ofNat_eq (b := b₁) (by omega),
    ofNat_eq (b := b₂) (by omega), ofNat_eq (b := b₃) (by omega)]

end

/-- What is found at the front is written with the bytes that stand there. -/
theorem eq_of_front (h : front b bytes = (some c, rest)) :
    b :: bytes = String.utf8EncodeChar c ++ rest := by
  rcases front_cases h with ⟨hone, rfl⟩ | ⟨b₁, htwo, rfl⟩ | ⟨b₁, b₂, hthree, rfl⟩ |
    ⟨b₁, b₂, b₃, hfour, rfl⟩
  · rw [front_one hone] at h
    rw [← Option.some.inj (Prod.mk.inj h).1, utf8EncodeChar_one hone]
    rfl
  · rw [front_two htwo] at h
    rw [← Option.some.inj (Prod.mk.inj h).1, utf8EncodeChar_two htwo]
    rfl
  · rw [front_three hthree] at h
    rw [← Option.some.inj (Prod.mk.inj h).1, utf8EncodeChar_three hthree]
    rfl
  · rw [front_four hfour] at h
    rw [← Option.some.inj (Prod.mk.inj h).1, utf8EncodeChar_four hfour]
    rfl

/-- **A character is found at the front** if and only if its bytes stand there. -/
theorem front_eq_some_iff :
    front b bytes = (some c, rest) ↔ b :: bytes = String.utf8EncodeChar c ++ rest := by
  refine ⟨eq_of_front, fun h => ?_⟩
  cases hc : String.utf8EncodeChar c with
  | nil => simp at hc
  | cons b' bytes' =>
    rw [hc] at h
    obtain ⟨rfl, rfl⟩ := List.cons.inj h
    exact front_append_of_eq hc

/-! ## Texts and their bytes -/

theorem length_le_of_front (h : front b bytes = (some c, rest)) : rest.length ≤ bytes.length := by
  have hlength := congrArg List.length (front_eq_some_iff.1 h)
  have hpos : 0 < (String.utf8EncodeChar c).length := List.length_pos_of_ne_nil (by simp)
  rw [List.length_cons, List.length_append] at hlength
  omega

theorem scan_eq_map_some_iff {fuel : Nat} {chars : List Char} (hfuel : bytes.length ≤ fuel) :
    scan fuel bytes = chars.map some ↔ bytes = bytesOf chars := by
  induction fuel generalizing bytes chars with
  | zero =>
    obtain rfl : bytes = [] := List.length_eq_zero_iff.1 (Nat.le_zero.1 hfuel)
    cases chars <;> simp [scan, bytesOf]
  | succ fuel ih =>
    cases bytes with
    | nil => cases chars <;> simp [scan, bytesOf]
    | cons b bytes =>
      cases chars with
      | nil => simp [scan, bytesOf]
      | cons c chars =>
        rw [List.length_cons, Nat.succ_le_succ_iff] at hfuel
        have hbytes : bytesOf (c :: chars) = String.utf8EncodeChar c ++ bytesOf chars :=
          List.flatMap_cons
        rw [hbytes, ← front_eq_some_iff, scan, List.map_cons, List.cons.injEq]
        constructor
        · rintro ⟨hc, hscan⟩
          have hfront : front b bytes = (some c, (front b bytes).2) := by rw [← hc]
          rw [ih ((length_le_of_front hfront).trans hfuel)] at hscan
          rw [hfront, hscan]
        · intro hfront
          rw [hfront]
          exact ⟨rfl, (ih ((length_le_of_front hfront).trans hfuel)).2 rfl⟩

theorem mapM_map_char_eq_some_iff {found : List (Option Char)} {t : Text} :
    found.mapM (fun c => c.map CodePoint.char) = some t ↔
      ∃ chars : List Char, found = chars.map some ∧ t = chars.map .char := by
  constructor
  · intro h
    induction found generalizing t with
    | nil =>
      cases h
      exact ⟨[], rfl, rfl⟩
    | cons c rest ih =>
      rw [List.mapM_cons] at h
      cases c with
      | none => cases h
      | some c =>
        cases hrest : rest.mapM fun c => c.map CodePoint.char with
        | none => rw [hrest] at h; cases h
        | some t' =>
          rw [hrest] at h
          cases h
          obtain ⟨chars, rfl, rfl⟩ := ih hrest
          exact ⟨c :: chars, rfl, rfl⟩
  · rintro ⟨chars, rfl, rfl⟩
    induction chars with
    | nil => rfl
    | cons c chars ih => rw [List.map_cons, List.mapM_cons, ih]; rfl

/-- **What is decoded** is what is written with the bytes. -/
theorem decode?_eq_some_iff {t : Text} :
    decode? bytes = some t ↔ ∃ chars : List Char, bytes = bytesOf chars ∧ t = chars.map .char := by
  rw [decode?, mapM_map_char_eq_some_iff]
  exact exists_congr fun chars => and_congr_left' (scan_eq_map_some_iff le_rfl)

/-- Nothing is decoded from bytes that no characters are written with. -/
theorem decode?_eq_none_iff : decode? bytes = none ↔ ¬ IsText bytes := by
  rw [Option.eq_none_iff_forall_ne_some]
  simp only [ne_eq, decode?_eq_some_iff, IsText]
  exact ⟨fun h ⟨chars, hchars⟩ => h _ ⟨chars, hchars, rfl⟩,
    fun h t ⟨chars, hchars, _⟩ => h ⟨chars, hchars⟩⟩

end Utf8

end FlowLens
