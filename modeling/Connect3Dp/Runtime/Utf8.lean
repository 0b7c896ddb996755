import Mathlib.Data.List.Basic

/-!
# Decoding UTF-8

`utf8GetString` is a decoder that does not fail: where the bytes are not well formed, it writes a
replacement character for each maximal part that starts a well-formed sequence, or for a byte. What
was encoded is decoded to itself (`utf8GetString_utf8Bytes`).
-/

namespace Connect3Dp

/-- `Encoding.UTF8.GetBytes`. -/
def utf8Bytes (s : String) : List UInt8 := s.toList.flatMap String.utf8EncodeChar

/-- The character that the bytes start with, if they start with one. -/
def utf8Char? (bytes : List UInt8) : Option Char := bytes.toByteArray.utf8DecodeChar? 0

/-- A byte that can follow the first byte of a sequence of three or four. -/
def isSecondOfLong (first second : UInt8) : Bool :=
  -- The ranges keep out long spellings of small characters, surrogates and what is too large.
  let low : UInt8 := if first = 0xe0 then 0xa0 else if first = 0xf0 then 0x90 else 0x80
  let high : UInt8 := if first = 0xed then 0x9f else if first = 0xf4 then 0x8f else 0xbf
  0xe0 ≤ first && first ≤ 0xf4 && low ≤ second && second ≤ high

/-- How many bytes one replacement character stands for, where no character starts. -/
def maximalSubpart : List UInt8 → ℕ
  | first :: second :: rest =>
    if isSecondOfLong first second then
      if 0xf0 ≤ first ∧ (rest.head?.any fun third => 0x80 ≤ third && third ≤ 0xbf) then 3 else 2
    else 1
  | _ => 1

/-- Decode, after skipping the rest of what has just been decoded. -/
def utf8Decode : ℕ → List UInt8 → List Char
  | _, [] => []
  | skip + 1, _ :: bytes => utf8Decode skip bytes
  | 0, byte :: bytes =>
    match utf8Char? (byte :: bytes) with
    | some c => c :: utf8Decode (c.utf8Size - 1) bytes
    | none => '\uFFFD' :: utf8Decode (maximalSubpart (byte :: bytes) - 1) bytes

/-- `Encoding.UTF8.GetString`. -/
def utf8GetString (bytes : List UInt8) : String := .ofList (utf8Decode 0 bytes)

theorem utf8Char?_utf8EncodeChar_append (c : Char) (bytes : List UInt8) :
    utf8Char? (String.utf8EncodeChar c ++ bytes) = some c := by
  rw [utf8Char?, List.toByteArray_append]
  exact ByteArray.utf8DecodeChar?_utf8EncodeChar_append

theorem utf8Decode_skip (skipped bytes : List UInt8) :
    utf8Decode skipped.length (skipped ++ bytes) = utf8Decode 0 bytes := by
  induction skipped with
  | nil => rfl
  | cons byte skipped ih => exact ih

/-- One character is decoded, and the rest follows. -/
theorem utf8Decode_utf8EncodeChar_append (c : Char) (bytes : List UInt8) :
    utf8Decode 0 (String.utf8EncodeChar c ++ bytes) = c :: utf8Decode 0 bytes := by
  have hdecode := utf8Char?_utf8EncodeChar_append c bytes
  have hlength : (String.utf8EncodeChar c).length = c.utf8Size := String.length_utf8EncodeChar c
  obtain ⟨byte, rest, hchar⟩ : ∃ byte rest, String.utf8EncodeChar c = byte :: rest :=
    List.exists_cons_of_ne_nil String.utf8EncodeChar_ne_nil
  rw [hchar, List.cons_append] at hdecode ⊢
  have hskip : c.utf8Size - 1 = rest.length := by
    rw [← hlength, hchar, List.length_cons, Nat.add_sub_cancel]
  rw [utf8Decode, hdecode]
  simp only [hskip, utf8Decode_skip]

theorem utf8Decode_flatMap (cs : List Char) :
    utf8Decode 0 (cs.flatMap String.utf8EncodeChar) = cs := by
  induction cs with
  | nil => rfl
  | cons c cs ih => rw [List.flatMap_cons, utf8Decode_utf8EncodeChar_append, ih]

/-- **Text is decoded from its bytes.** -/
@[simp]
theorem utf8GetString_utf8Bytes (s : String) : utf8GetString (utf8Bytes s) = s := by
  rw [utf8GetString, utf8Bytes, utf8Decode_flatMap, String.ofList_toList]

/-- A sequence that breaks off is replaced as a whole. -/
example : utf8GetString [0x61, 0xe2, 0x82, 0x62, 0xff] = "a\uFFFDb\uFFFD" := by decide

end Connect3Dp
