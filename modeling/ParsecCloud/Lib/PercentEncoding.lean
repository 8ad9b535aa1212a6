import ParsecCloud.Lib.Urls
import Mathlib.Data.Nat.Basic

/- The percent-encoding of texts and the form-urlencoded pairs, with their readers: what has been
   written is read again. -/
namespace Urls

section Bytes

def hexDigit (n : Nat) : Char := if n < 10 then Char.ofNat (48 + n) else Char.ofNat (55 + n)

def hexValue (c : Char) : Option Nat :=
  if c.isDigit then some (c.toNat - 48)
  else if 'A' ≤ c ∧ c ≤ 'F' then some (c.toNat - 55)
  else if 'a' ≤ c ∧ c ≤ 'f' then some (c.toNat - 87)
  else none

theorem hexValue_hexDigit : ∀ n < 16, hexValue (hexDigit n) = some n := by decide

theorem hexDigit_isAlphanum : ∀ n < 16, (hexDigit n).isAlphanum = true := by decide

def encodeByte (byte : UInt8) : Text :=
  ['%', hexDigit (byte.toNat / 16), hexDigit (byte.toNat % 16)]

/-- The bytes of a text in which some are percent-encoded. -/
def decodeBytes : Text → List UInt8
  | '%' :: high :: low :: rest =>
    match hexValue high, hexValue low with
    | some h, some l => UInt8.ofNat (16 * h + l) :: decodeBytes rest
    | _, _ => UInt8.ofNat 37 :: decodeBytes (high :: low :: rest)
  | c :: rest => String.utf8EncodeChar c ++ decodeBytes rest
  | [] => []

theorem decodeBytes_encodeByte (byte : UInt8) (rest : Text) :
    decodeBytes (encodeByte byte ++ rest) = byte :: decodeBytes rest := by
  have bound := byte.toNat_lt
  have high := hexValue_hexDigit (byte.toNat / 16) (by omega)
  have low := hexValue_hexDigit (byte.toNat % 16) (by omega)
  have whole : 16 * (byte.toNat / 16) + byte.toNat % 16 = byte.toNat := by omega
  show decodeBytes ('%' :: hexDigit (byte.toNat / 16) :: hexDigit (byte.toNat % 16) :: rest) = _
  rw [decodeBytes, high, low]
  simp only
  rw [whole, UInt8.ofNat_toNat]

theorem decodeBytes_encodeBytes (bytes : List UInt8) (rest : Text) :
    decodeBytes (bytes.flatMap encodeByte ++ rest) = bytes ++ decodeBytes rest := by
  induction bytes with
  | nil => rfl
  | cons byte bytes ih =>
    rw [List.flatMap_cons, List.append_assoc, decodeBytes_encodeByte, ih, List.cons_append]

theorem decodeBytes_other {c : Char} (notPercent : c ≠ '%') (rest : Text) :
    decodeBytes (c :: rest) = String.utf8EncodeChar c ++ decodeBytes rest := by
  rw [decodeBytes]
  intro high low rest' same
  exact absurd same notPercent

end Bytes

section Texts
variable (keep : Char → Bool)

def encodeChar (c : Char) : Text :=
  if keep c then [c] else (String.utf8EncodeChar c).flatMap encodeByte

def percentEncode (text : Text) : Text := text.flatMap (encodeChar keep)

/-- percent_decode_str, then decode_utf8 -/
def percentDecodeUtf8 (text : Text) : Option Text :=
  (decodeBytes text).toByteArray.utf8Decode?.map Array.toList

theorem decodeBytes_percentEncode (notPercent : keep '%' = false) (text rest : Text) :
    decodeBytes (percentEncode keep text ++ rest) =
      text.flatMap String.utf8EncodeChar ++ decodeBytes rest := by
  induction text with
  | nil => rfl
  | cons c text ih =>
    have first : decodeBytes (encodeChar keep c ++ (percentEncode keep text ++ rest)) =
        String.utf8EncodeChar c ++ decodeBytes (percentEncode keep text ++ rest) := by
      unfold encodeChar
      split
      · rename_i kept
        apply decodeBytes_other
        intro isPercent
        rw [isPercent, notPercent] at kept
        cases kept
      · exact decodeBytes_encodeBytes _ _
    rw [percentEncode, List.flatMap_cons, List.append_assoc]
    rw [percentEncode] at first ih
    rw [first, ih, List.flatMap_cons, List.append_assoc]

omit keep in
theorem utf8Decode_text (text : Text) :
    (text.flatMap String.utf8EncodeChar).toByteArray.utf8Decode?.map Array.toList = some text := by
  have decoded := @List.utf8Decode?_utf8Encode text
  rw [List.utf8Encode] at decoded
  rw [decoded]
  simp

theorem percentDecodeUtf8_percentEncode (notPercent : keep '%' = false) (text : Text) :
    percentDecodeUtf8 (percentEncode keep text) = some text := by
  have bytes := decodeBytes_percentEncode keep notPercent text []
  rw [List.append_nil, decodeBytes, List.append_nil] at bytes
  rw [percentDecodeUtf8, bytes, utf8Decode_text]

theorem encodeByte_chars (byte : UInt8) : ∀ c ∈ encodeByte byte, c.isAlphanum = true ∨ c = '%' := by
  have bound := byte.toNat_lt
  have high := hexDigit_isAlphanum (byte.toNat / 16) (by omega)
  have low := hexDigit_isAlphanum (byte.toNat % 16) (by omega)
  simp [encodeByte, high, low]

theorem percentEncode_chars {text : Text} {c : Char} (member : c ∈ percentEncode keep text) :
    keep c = true ∨ c.isAlphanum = true ∨ c = '%' := by
  obtain ⟨source, -, member⟩ := List.mem_flatMap.mp member
  unfold encodeChar at member
  split at member
  · rename_i kept
    rw [List.mem_singleton.mp member]
    exact Or.inl kept
  · obtain ⟨byte, -, member⟩ := List.mem_flatMap.mp member
    exact Or.inr (encodeByte_chars byte c member)

theorem percentEncode_kept {text : Text} (kept : ∀ c ∈ text, keep c = true) :
    percentEncode keep text = text := by
  induction text with
  | nil => rfl
  | cons c text ih =>
    have first := kept c List.mem_cons_self
    have later := ih fun other member => kept other (List.mem_cons_of_mem c member)
    rw [percentEncode] at later
    rw [percentEncode, List.flatMap_cons, later, encodeChar, if_pos first]
    rfl

end Texts

section Forms

def isFormChar (c : Char) : Bool := c.isAlphanum || (c == '*' || c == '-' || c == '.' || c == '_')

def encodeFormChar (c : Char) : Text := if c = ' ' then ['+'] else encodeChar isFormChar c

def encodeForm (text : Text) : Text := text.flatMap encodeFormChar

def plusToSpace (text : Text) : Text := text.map fun c => if c = '+' then ' ' else c

/-- What cannot be decoded is left out of the pairs. -/
def decodeForm (text : Text) : Text := (percentDecodeUtf8 (plusToSpace text)).getD []

def pairText (pair : Text × Text) : Text := encodeForm pair.1 ++ '=' :: encodeForm pair.2

def appendPairText (query : Text) (pair : Text × Text) : Text :=
  if query = [] then pairText pair else query ++ '&' :: pairText pair

def readPair (piece : Text) : Option (Text × Text) :=
  if piece = [] then none
  else some (decodeForm (piece.takeWhile (· ≠ '=')), decodeForm ((piece.dropWhile (· ≠ '=')).drop 1))

def readPairs (query : Text) : List (Text × Text) := (query.splitOn '&').filterMap readPair

theorem plusToSpace_append (first second : Text) :
    plusToSpace (first ++ second) = plusToSpace first ++ plusToSpace second :=
  List.map_append

theorem plusToSpace_noPlus {text : Text} (noPlus : '+' ∉ text) : plusToSpace text = text := by
  induction text with
  | nil => rfl
  | cons c text ih =>
    have other : c ≠ '+' := fun same => noPlus (same ▸ List.mem_cons_self)
    have later := ih fun member => noPlus (List.mem_cons_of_mem c member)
    rw [plusToSpace] at later
    rw [plusToSpace, List.map_cons, later, if_neg other]

theorem encodeChar_noPlus (c : Char) : '+' ∉ encodeChar isFormChar c := by
  intro member
  have encoded : '+' ∈ percentEncode isFormChar [c] := by simpa [percentEncode] using member
  rcases percentEncode_chars isFormChar encoded with form | alphanum | percent
  · exact absurd form (by decide)
  · exact absurd alphanum (by decide)
  · exact absurd percent (by decide)

theorem decodeBytes_encodeFormChar (c : Char) (rest : Text) :
    decodeBytes (plusToSpace (encodeFormChar c) ++ rest) =
      String.utf8EncodeChar c ++ decodeBytes rest := by
  unfold encodeFormChar
  split
  · rename_i isSpace
    rw [isSpace]
    exact decodeBytes_other (by decide) rest
  · rw [plusToSpace_noPlus (encodeChar_noPlus c)]
    have bytes := decodeBytes_percentEncode isFormChar (by decide) [c] rest
    simpa [percentEncode] using bytes

theorem decodeForm_encodeForm (text : Text) : decodeForm (encodeForm text) = text := by
  have bytes : ∀ rest, decodeBytes (plusToSpace (encodeForm text) ++ rest) =
      text.flatMap String.utf8EncodeChar ++ decodeBytes rest := by
    intro rest
    induction text with
    | nil => rfl
    | cons c text ih =>
      rw [encodeForm] at ih
      rw [encodeForm, List.flatMap_cons, plusToSpace_append, List.append_assoc,
        decodeBytes_encodeFormChar, ih, List.flatMap_cons, List.append_assoc]
  have whole := bytes []
  rw [List.append_nil, decodeBytes, List.append_nil] at whole
  rw [decodeForm, percentDecodeUtf8, whole, utf8Decode_text]
  rfl

theorem encodeForm_chars {text : Text} {c : Char} (member : c ∈ encodeForm text) :
    isFormChar c = true ∨ c ∈ ['+', '%'] := by
  obtain ⟨source, -, member⟩ := List.mem_flatMap.mp member
  unfold encodeFormChar at member
  split at member
  · rw [List.mem_singleton.mp member]
    simp
  · have encoded : c ∈ percentEncode isFormChar [source] := by
      simpa [percentEncode] using member
    rcases percentEncode_chars isFormChar encoded with form | alphanum | percent
    · exact Or.inl form
    · simp [isFormChar, alphanum]
    · simp [percent]

theorem encodeForm_free (text : Text) {mark : Char} (notForm : isFormChar mark = false)
    (notOther : mark ∉ ['+', '%']) : mark ∉ encodeForm text := by
  intro member
  rcases encodeForm_chars member with form | other
  · rw [notForm] at form
    cases form
  · exact notOther other

theorem readPair_pairText (pair : Text × Text) : readPair (pairText pair) = some pair := by
  have before : ∀ c ∈ encodeForm pair.1, decide (c ≠ '=') = true := by
    intro c member
    rw [decide_eq_true_eq]
    intro isMark
    exact encodeForm_free pair.1 (by decide) (by decide) (isMark ▸ member)
  have notEmpty : pairText pair ≠ [] := by simp [pairText]
  rw [readPair, if_neg notEmpty, pairText, List.takeWhile_append_of_pos before,
    List.dropWhile_append_of_pos before]
  simp [decodeForm_encodeForm]

theorem pairText_free (pair : Text × Text) : '&' ∉ pairText pair := by
  intro member
  rcases List.mem_append.mp member with first | later
  · exact encodeForm_free pair.1 (by decide) (by decide) first
  · cases later with
    | tail _ later => exact encodeForm_free pair.2 (by decide) (by decide) later

theorem readPairs_appendPairText (query : Text) (pair : Text × Text) :
    readPairs (appendPairText query pair) = readPairs query ++ [pair] := by
  have last : readPairs (pairText pair) = [pair] := by
    rw [readPairs, List.splitOn_eq_singleton (pairText_free pair)]
    simp [readPair_pairText]
  unfold appendPairText
  split
  · rename_i isEmpty
    rw [isEmpty, last]
    rfl
  · rw [readPairs, List.splitOn_append_cons_self, List.filterMap_append]
    exact congrArg _ last

theorem isFormChar_safe {c : Char} (isForm : isFormChar c = true) :
    isNameChar c = true ∨ c ∈ ['*', '.', '+', '%', '&', '='] := by
  simp only [isFormChar, Bool.or_eq_true, beq_iff_eq] at isForm
  rcases isForm with alphanum | ((star | dash) | dot) | underscore
  · simp [isNameChar, alphanum]
  · simp [star]
  · simp [isNameChar, dash]
  · simp [dot]
  · simp [isNameChar, underscore]

theorem encodeForm_safe (text : Text) : SafeQuery (encodeForm text) := by
  intro c member
  rcases encodeForm_chars member with form | other
  · exact isFormChar_safe form
  · rcases List.mem_cons.mp other with plus | percent
    · simp [plus]
    · simp [List.mem_singleton.mp percent]

theorem appendPairText_safe {query : Text} (safe : SafeQuery query) (pair : Text × Text) :
    SafeQuery (appendPairText query pair) := by
  have text : SafeQuery (pairText pair) := by
    intro c member
    rcases List.mem_append.mp member with first | later
    · exact encodeForm_safe pair.1 c first
    · rcases List.mem_cons.mp later with mark | later
      · simp [mark]
      · exact encodeForm_safe pair.2 c later
  unfold appendPairText
  split
  · exact text
  · intro c member
    rcases List.mem_append.mp member with first | later
    · exact safe c first
    · rcases List.mem_cons.mp later with mark | later
      · simp [mark]
      · exact text c later

end Forms

end Urls
