import Mathlib.Data.List.Basic
import Mathlib.Tactic.Common
import JvmSource.Fault

/-!
# Encoding exactly

An encoding has all characters or those up to a code point. A text of characters that it has is
encoded, and is what its bytes are decoded to; any other text is refused for the first character
that is missing. ASCII bytes mean the same everywhere (`encode_exact_or_refused`).
-/

namespace JvmSource

theorem Text.ofUtf8?_utf8 (text : Text) : ofUtf8? text.utf8 = some text := by
  have hbytes : (⟨text.utf8.toArray⟩ : ByteArray) = List.utf8Encode text :=
    ByteArray.ext List.data_toByteArray.symm
  rw [ofUtf8?, hbytes, String.fromUTF8?, dif_pos ByteArray.isValidUTF8_utf8Encode]
  have hstring : String.fromUTF8 (List.utf8Encode text) ByteArray.isValidUTF8_utf8Encode =
      String.ofList text := String.toByteArray_inj.mp String.toByteArray_ofList.symm
  rw [hstring, Option.map_some, String.toList_ofList]

namespace Charset

/-- Whether an encoding has a character. -/
def Has : Charset → Char → Prop
  | utf8, _ => True
  | latin1, c => c.toNat ≤ 0xFF
  | ascii, c => c.toNat ≤ 0x7F

/-- The text that each byte is one character of. -/
def ofBytes (bytes : List UInt8) : Text := bytes.map fun byte => Char.ofNat byte.toNat

/-- The text that bytes are the encoding of. -/
def decode? : Charset → List UInt8 → Option Text
  | utf8, bytes => Text.ofUtf8? bytes
  | latin1, bytes => some (ofBytes bytes)
  | ascii, bytes => if bytes.all (· < 0x80) then some (ofBytes bytes) else none

/-- One byte for each character. -/
def toBytes (text : Text) : List UInt8 := text.map fun c => c.toNat.toUInt8

variable {charset : Charset} {text : Text} {bytes : List UInt8} {limit : Nat} {c : Char}

/-! ## One byte for each character -/

/-- Up to a limit that is a byte itself, the bytes are those of the code points up to it. -/
theorem encodeUpTo_cons (hlimit : limit ≤ 0xFF) (c : Char) (text : Text) :
    encodeUpTo limit (c :: text) =
      if c.toNat ≤ limit then (encodeUpTo limit text).map (c.toNat.toUInt8 :: ·) else .error c := by
  rw [encodeUpTo, byte?]
  by_cases hc : c.toNat < UInt8.size
  · have hbyte : c.toNat.toUInt8.toNat = c.toNat := UInt8.toNat_ofNat_of_lt hc
    simp only [if_pos hc, hbyte]
  · have hsize : UInt8.size = 0x100 := rfl
    have hbig : ¬ c.toNat ≤ limit := by omega
    simp only [if_neg hc, if_neg hbig]

/-- A text is encoded if no code point is above the limit, and its bytes are then the code
points. -/
theorem encodeUpTo_eq_ok_iff (hlimit : limit ≤ 0xFF) :
    encodeUpTo limit text = .ok bytes ↔ (∀ c ∈ text, c.toNat ≤ limit) ∧ bytes = toBytes text := by
  induction text generalizing bytes with
  | nil => simp [encodeUpTo, toBytes, eq_comm]
  | cons c text ih =>
    rw [encodeUpTo_cons hlimit, List.forall_mem_cons]
    split
    · next hc =>
      cases hrest : encodeUpTo limit text with
      | ok rest =>
        obtain ⟨hall, rfl⟩ := ih.mp hrest
        rw [and_iff_right (And.intro hc hall)]
        show Except.ok (toBytes (c :: text)) = .ok bytes ↔ _
        rw [Except.ok.injEq, eq_comm]
      | error d =>
        have hnone : ¬ ∀ c ∈ text, c.toNat ≤ limit := by
          intro hall
          rw [ih.mpr ⟨hall, rfl⟩] at hrest
          exact absurd hrest (by simp)
        simp [Except.map, hnone]
    · next hc => simp [hc]

/-- A text is refused for the first character whose code point is above the limit. -/
theorem encodeUpTo_eq_error_iff (hlimit : limit ≤ 0xFF) :
    encodeUpTo limit text = .error c ↔ ∃ front back, text = front ++ c :: back ∧
      (∀ d ∈ front, d.toNat ≤ limit) ∧ ¬ c.toNat ≤ limit := by
  induction text with
  | nil => simp [encodeUpTo]
  | cons first text ih =>
    rw [encodeUpTo_cons hlimit]
    split
    · next hfirst =>
      -- bytes in front of a fault are dropped
      have hmap : (encodeUpTo limit text).map (first.toNat.toUInt8 :: ·) = .error c ↔
          encodeUpTo limit text = .error c := by
        cases encodeUpTo limit text <;> simp [Except.map]
      rw [hmap, ih]
      constructor
      · rintro ⟨front, back, rfl, hfront, hc⟩
        exact ⟨first :: front, back, rfl, List.forall_mem_cons.mpr ⟨hfirst, hfront⟩, hc⟩
      · rintro ⟨front, back, hsplit, hfront, hc⟩
        cases front with
        | nil => exact absurd hfirst ((List.cons.inj hsplit).1 ▸ hc)
        | cons d front =>
          exact ⟨front, back, (List.cons.inj hsplit).2, (List.forall_mem_cons.mp hfront).2, hc⟩
    · next hfirst =>
      constructor
      · intro h
        obtain rfl : first = c := Except.error.inj h
        exact ⟨[], text, rfl, by simp, hfirst⟩
      · rintro ⟨front, back, hsplit, hfront, hc⟩
        cases front with
        | nil => rw [(List.cons.inj hsplit).1]
        | cons d front =>
          rw [(List.cons.inj hsplit).1] at hfirst
          exact absurd (hfront d (List.mem_cons_self ..)) hfirst

/-- Bytes that were made of code points up to `0xFF` give back the text. -/
theorem ofBytes_toBytes (h : ∀ c ∈ text, c.toNat ≤ 0xFF) : ofBytes (toBytes text) = text := by
  rw [ofBytes, toBytes, List.map_map]
  refine (List.map_congr_left fun c hc => ?_).trans (List.map_id text)
  have hbyte : c.toNat.toUInt8.toNat = c.toNat :=
    UInt8.toNat_ofNat_of_lt (Nat.lt_succ_of_le (h c hc))
  rw [Function.comp_apply, hbyte, Char.ofNat_toNat, id]

/-- The bytes of ASCII characters are ASCII. -/
theorem all_toBytes (h : ∀ c ∈ text, c.toNat ≤ 0x7F) :
    (toBytes text).all (· < 0x80) = true := by
  rw [toBytes, List.all_map, List.all_eq_true]
  intro c hc
  have hlt : c.toNat < 0x80 := Nat.lt_succ_of_le (h c hc)
  have hbyte : c.toNat.toUInt8.toNat = c.toNat :=
    UInt8.toNat_ofNat_of_lt (Nat.lt_trans hlt (by decide))
  simpa [UInt8.lt_iff_toNat_lt, hbyte] using hlt

/-- The UTF-8 encoding of ASCII characters has one byte for each of them. -/
theorem utf8_eq_toBytes (h : ∀ c ∈ text, c.toNat ≤ 0x7F) : text.utf8 = toBytes text := by
  induction text with
  | nil => rfl
  | cons c text ih =>
    obtain ⟨hc, htext⟩ := List.forall_mem_cons.mp h
    have hle : c.val.toNat ≤ 0x7F := hc
    have hchar : String.utf8EncodeChar c = [c.toNat.toUInt8] := by
      simp only [String.utf8EncodeChar, if_pos hle]
      rfl
    rw [Text.utf8, List.flatMap_cons, hchar, ← Text.utf8, ih htext]
    rfl

/-! ## All encodings -/

private theorem ascii_le_byte : 0x7F ≤ 0xFF := by decide

/-- A text is encoded exactly when the encoding has all its characters. -/
theorem exists_encode_iff : (∃ bytes, charset.encode text = .ok bytes) ↔
    ∀ c ∈ text, charset.Has c := by
  cases charset with
  | utf8 => simp [encode, Has]
  | latin1 => simp [encode, Has, encodeUpTo_eq_ok_iff (Nat.le_refl 0xFF)]
  | ascii => simp [encode, Has, encodeUpTo_eq_ok_iff ascii_le_byte]

/-- What is wrong with a text is the first character that the encoding lacks. -/
theorem encode_eq_error_iff :
    charset.encode text = .error c ↔ ∃ front back, text = front ++ c :: back ∧
      (∀ d ∈ front, charset.Has d) ∧ ¬ charset.Has c := by
  cases charset with
  | utf8 => simp [encode, Has]
  | latin1 => simp only [encode, Has, encodeUpTo_eq_error_iff (Nat.le_refl 0xFF)]
  | ascii => simp only [encode, Has, encodeUpTo_eq_error_iff ascii_le_byte]

/-- The bytes of a text are decoded to it. -/
theorem decode?_encode (h : charset.encode text = .ok bytes) :
    charset.decode? bytes = some text := by
  cases charset with
  | utf8 =>
    obtain rfl : text.utf8 = bytes := Except.ok.inj h
    exact Text.ofUtf8?_utf8 text
  | latin1 =>
    obtain ⟨hall, rfl⟩ := (encodeUpTo_eq_ok_iff (Nat.le_refl 0xFF)).mp h
    rw [decode?, ofBytes_toBytes hall]
  | ascii =>
    obtain ⟨hall, rfl⟩ := (encodeUpTo_eq_ok_iff ascii_le_byte).mp h
    have hbytes : ∀ c ∈ text, c.toNat ≤ 0xFF := fun c hc => Nat.le_trans (hall c hc) ascii_le_byte
    rw [decode?, if_pos (all_toBytes hall), ofBytes_toBytes hbytes]

/-- But for UTF-8, a text has one byte for each character. -/
theorem length_encode (hsingle : charset ≠ .utf8) (h : charset.encode text = .ok bytes) :
    bytes.length = text.length := by
  have hbytes : bytes = toBytes text := by
    cases charset with
    | utf8 => exact absurd rfl hsingle
    | latin1 => exact ((encodeUpTo_eq_ok_iff (Nat.le_refl 0xFF)).mp h).2
    | ascii => exact ((encodeUpTo_eq_ok_iff ascii_le_byte).mp h).2
  rw [hbytes, toBytes, List.length_map]

/-- A text that is ASCII has the same bytes in every encoding. -/
theorem encode_of_ascii (h : ascii.encode text = .ok bytes) (charset : Charset) :
    charset.encode text = .ok bytes := by
  obtain ⟨hall, rfl⟩ := (encodeUpTo_eq_ok_iff ascii_le_byte).mp h
  cases charset with
  | utf8 => rw [encode, utf8_eq_toBytes hall]
  | latin1 =>
    exact (encodeUpTo_eq_ok_iff (Nat.le_refl 0xFF)).mpr
      ⟨fun c hc => Nat.le_trans (hall c hc) ascii_le_byte, rfl⟩
  | ascii => exact h

/-- A text is encoded exactly when the encoding has all its characters. Its bytes are then decoded
to it and to no other text, and if the encoding is not UTF-8 there is one for each character. What
is wrong with any other text is the first character that is missing. All encodings agree on what is
ASCII. -/
theorem encode_exact_or_refused (charset : Charset) (text : Text) :
    ((∃ bytes, charset.encode text = .ok bytes) ↔ ∀ c ∈ text, charset.Has c) ∧
    (∀ bytes, charset.encode text = .ok bytes →
      charset.decode? bytes = some text ∧
      (∀ other, charset.encode other = .ok bytes → other = text) ∧
      (charset ≠ .utf8 → bytes.length = text.length)) ∧
    (∀ fault : Fault, (charset.encode text).mapError (.unmappable · charset) = .error fault ↔
      ∃ front c back, text = front ++ c :: back ∧ (∀ d ∈ front, charset.Has d) ∧
        ¬ charset.Has c ∧ fault = .unmappable c charset) ∧
    ∀ bytes, ascii.encode text = .ok bytes → charset.encode text = .ok bytes := by
  refine ⟨exists_encode_iff, fun bytes h => ⟨decode?_encode h, fun other hother => ?_, ?_⟩,
    fun fault => ?_, fun bytes h => encode_of_ascii h charset⟩
  · have hsame : some other = some text := (decode?_encode hother).symm.trans (decode?_encode h)
    exact Option.some.inj hsame
  · exact fun hsingle => length_encode hsingle h
  · -- the fault names the character and the charset
    have hfault : (charset.encode text).mapError (.unmappable · charset) = .error fault ↔
        ∃ c, charset.encode text = .error c ∧ fault = .unmappable c charset := by
      cases charset.encode text <;> simp [Except.mapError, eq_comm]
    rw [hfault]
    constructor
    · rintro ⟨c, hc, rfl⟩
      obtain ⟨front, back, hsplit, hfront, hlacks⟩ := encode_eq_error_iff.mp hc
      exact ⟨front, c, back, hsplit, hfront, hlacks, rfl⟩
    · rintro ⟨front, c, back, hsplit, hfront, hlacks, rfl⟩
      exact ⟨c, encode_eq_error_iff.mpr ⟨front, back, hsplit, hfront, hlacks⟩, rfl⟩

/-- The euro sign is in UTF-8 only, and what comes after it does not matter. -/
example : utf8.encode "5€é".toList = .ok [0x35, 0xE2, 0x82, 0xAC, 0xC3, 0xA9] ∧
    latin1.encode "é5".toList = .ok [0xE9, 0x35] ∧ latin1.encode "5€é".toList = .error '€' ∧
    ascii.encode "5é€".toList = .error 'é' := by
  decide

end Charset

end JvmSource
