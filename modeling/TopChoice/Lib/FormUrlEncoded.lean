/-
# `application/x-www-form-urlencoded`

A list of names and values as one text, the query of a URL.  Every name and every value is
written byte by byte in UTF-8 (`writeByte`): a space is `+`, a letter, a digit and the four
characters `*-._` stand for themselves and any other byte is `%` with its two hexadecimal
digits.  A name and its value are joined by `=`, the pairs by `&`.

What is written is read back (`parse_print`).  What the reader makes of bytes that are not
UTF-8 is a parameter: a text that was written here has none.
-/

import Mathlib.Data.List.Basic

namespace FormUrlEncoded

/-! ### Bytes -/

/-- The bytes that stand for themselves. -/
def isPlain (b : UInt8) : Bool :=
  (0x30 ≤ b && b ≤ 0x39) || (0x41 ≤ b && b ≤ 0x5A) || (0x61 ≤ b && b ≤ 0x7A) ||
    b ∈ [0x2A, 0x2D, 0x2E, 0x5F]

/-- A hexadecimal digit. -/
def hexDigit (n : ℕ) : Char := if n < 10 then Char.ofNat (48 + n) else Char.ofNat (55 + n)

/-- What a hexadecimal digit of either case is worth. -/
def hexValue (c : Char) : Option ℕ :=
  if '0' ≤ c && c ≤ '9' then some (c.toNat - 48)
  else if 'A' ≤ c && c ≤ 'F' then some (c.toNat - 55)
  else if 'a' ≤ c && c ≤ 'f' then some (c.toNat - 87)
  else none

def writeByte (b : UInt8) : List Char :=
  if b = 0x20 then ['+']
  else if isPlain b then [Char.ofNat b.toNat]
  else ['%', hexDigit (b.toNat / 16), hexDigit (b.toNat % 16)]

/-- A `%` that no two digits follow stands for itself, as does every other character. -/
def readBytes : List Char → List UInt8
  | [] => []
  | '+' :: cs => 0x20 :: readBytes cs
  | '%' :: high :: low :: cs =>
      match hexValue high, hexValue low with
      | some h, some l => UInt8.ofNat (16 * h + l) :: readBytes cs
      | _, _ => 0x25 :: readBytes (high :: low :: cs)
  | c :: cs => String.utf8EncodeChar c ++ readBytes cs

theorem hexValue_hexDigit : ∀ n < 16, hexValue (hexDigit n) = some n := by decide

theorem hexDigit_separates : ∀ n < 16, hexDigit n ≠ '&' ∧ hexDigit n ≠ '=' ∧ hexDigit n ≠ '?' := by
  decide

/-- A plain byte is an ASCII character that the reader leaves as it is, and joins nothing. -/
theorem plain_byte : ∀ n < 256, isPlain (UInt8.ofNat n) = true →
    (Char.ofNat n ≠ '+' ∧ Char.ofNat n ≠ '%' ∧
      String.utf8EncodeChar (Char.ofNat n) = [UInt8.ofNat n]) ∧
    Char.ofNat n ≠ '&' ∧ Char.ofNat n ≠ '=' ∧ Char.ofNat n ≠ '?' := by
  decide +kernel

theorem readBytes_cons {c : Char} (hplus : c ≠ '+') (hpercent : c ≠ '%') (cs : List Char) :
    readBytes (c :: cs) = String.utf8EncodeChar c ++ readBytes cs := by
  rw [readBytes]
  · exact hplus
  · intro high low rest h
    exact absurd h hpercent

/-- **A byte is read back**, and the reader goes on after it. -/
theorem readBytes_writeByte (b : UInt8) (cs : List Char) :
    readBytes (writeByte b ++ cs) = b :: readBytes cs := by
  unfold writeByte
  split_ifs with hspace hplain
  · rw [List.singleton_append, readBytes, hspace]
  · have hbyte := plain_byte b.toNat b.toNat_lt
    rw [UInt8.ofNat_toNat] at hbyte
    obtain ⟨hplus, hpercent, hutf8⟩ := (hbyte hplain).1
    rw [List.singleton_append, readBytes_cons hplus hpercent, hutf8, List.singleton_append]
  · have hlt := b.toNat_lt
    have hhigh := hexValue_hexDigit (b.toNat / 16) (by omega)
    have hlow := hexValue_hexDigit (b.toNat % 16) (by omega)
    simp only [List.cons_append, List.nil_append, readBytes, hhigh, hlow, Nat.div_add_mod,
      UInt8.ofNat_toNat]

/-- No character of a written byte joins names and values. -/
theorem writeByte_separates (b : UInt8) :
    ∀ c ∈ writeByte b, c ≠ '&' ∧ c ≠ '=' ∧ c ≠ '?' := by
  unfold writeByte
  split_ifs with hspace hplain
  · exact List.forall_mem_singleton.2 (by decide)
  · have hbyte := plain_byte b.toNat b.toNat_lt
    rw [UInt8.ofNat_toNat] at hbyte
    intro c hc
    obtain rfl := List.mem_singleton.1 hc
    exact (hbyte hplain).2
  · have hlt := b.toNat_lt
    have hhigh := hexDigit_separates (b.toNat / 16) (by omega)
    have hlow := hexDigit_separates (b.toNat % 16) (by omega)
    simp only [List.forall_mem_cons]
    exact ⟨by decide, hhigh, hlow, nofun⟩

/-! ### Texts -/

/-- A text in UTF-8. -/
def utf8 (s : String) : List UInt8 := s.toList.flatMap String.utf8EncodeChar

/-- The text of some bytes; `lossy` is for those that are not UTF-8. -/
def decode (lossy : List UInt8 → String) (bytes : List UInt8) : String :=
  match bytes.toByteArray.utf8Decode? with
  | some chars => String.ofList chars.toList
  | none => lossy bytes

theorem decode_utf8 (lossy : List UInt8 → String) (s : String) : decode lossy (utf8 s) = s := by
  have hdecode : (utf8 s).toByteArray.utf8Decode? = some s.toList.toArray :=
    List.utf8Decode?_utf8Encode
  rw [decode, hdecode]
  exact String.ofList_toList

def write (s : String) : List Char := (utf8 s).flatMap writeByte

def read (lossy : List UInt8 → String) (cs : List Char) : String := decode lossy (readBytes cs)

/-- **A text is read back.** -/
theorem read_write (lossy : List UInt8 → String) (s : String) : read lossy (write s) = s := by
  have hbytes (bytes : List UInt8) : readBytes (bytes.flatMap writeByte) = bytes := by
    induction bytes with
    | nil => rfl
    | cons b bytes ih => rw [List.flatMap_cons, readBytes_writeByte, ih]
  rw [read, write, hbytes, decode_utf8]

theorem write_separates {s : String} {c : Char} (hc : c ∈ write s) :
    c ≠ '&' ∧ c ≠ '=' ∧ c ≠ '?' := by
  obtain ⟨b, -, hb⟩ := List.mem_flatMap.1 hc
  exact writeByte_separates b c hb

/-! ### Names and values -/

def writePair (pair : String × String) : List Char := write pair.1 ++ '=' :: write pair.2

/-- What comes before the first `=`, and what comes after it. -/
def readPair (lossy : List UInt8 → String) (cs : List Char) : String × String :=
  (read lossy (cs.takeWhile (· ≠ '=')), read lossy ((cs.dropWhile (· ≠ '=')).drop 1))

theorem readPair_writePair (lossy : List UInt8 → String) (pair : String × String) :
    readPair lossy (writePair pair) = pair := by
  have hname : ∀ c ∈ write pair.1, decide (c ≠ '=') = true := fun c hc =>
    decide_eq_true (write_separates hc).2.1
  have htake : (writePair pair).takeWhile (· ≠ '=') = write pair.1 := by
    rw [writePair, List.takeWhile_append_of_pos hname]
    simp
  have hdrop : (writePair pair).dropWhile (· ≠ '=') = '=' :: write pair.2 := by
    rw [writePair, List.dropWhile_append_of_pos hname]
    simp
  rw [readPair, htake, hdrop, List.drop_one, List.tail_cons, read_write, read_write]

/-- `URLSearchParams.prototype.toString`. -/
def print (pairs : List (String × String)) : String :=
  String.ofList (['&'].intercalate (pairs.map writePair))

/-- `new URLSearchParams(text)`: a `?` in front is left out, and so is what is empty between
two `&`. -/
def parse (lossy : List UInt8 → String) (text : String) : List (String × String) :=
  let query := if text.toList.head? = some '?' then text.toList.tail else text.toList
  ((query.splitOn '&').filter (· ≠ [])).map (readPair lossy)

theorem writePair_ne_nil (pair : String × String) : writePair pair ≠ [] := by
  simp [writePair]

theorem writePair_separates {pair : String × String} {c : Char} (hc : c ∈ writePair pair) :
    c ≠ '&' ∧ c ≠ '?' := by
  rw [writePair, List.mem_append, List.mem_cons] at hc
  obtain hname | rfl | hvalue := hc
  · exact ⟨(write_separates hname).1, (write_separates hname).2.2⟩
  · decide
  · exact ⟨(write_separates hvalue).1, (write_separates hvalue).2.2⟩

/-- A query does not start with `?`. -/
theorem head?_print (pairs : List (String × String)) :
    (['&'].intercalate (pairs.map writePair)).head? ≠ some '?' := by
  cases pairs with
  | nil => nofun
  | cons pair rest =>
    have hfront : ∃ cs, ['&'].intercalate ((pair :: rest).map writePair) = writePair pair ++ cs := by
      cases rest with
      | nil => exact ⟨[], by simp⟩
      | cons next rest => exact ⟨_, List.intercalate_cons_cons.trans (List.append_assoc _ _ _)⟩
    obtain ⟨cs, hcs⟩ := hfront
    rw [hcs, List.head?_append_of_ne_nil _ (writePair_ne_nil pair)]
    intro hhead
    exact (writePair_separates (List.mem_of_head? hhead)).2 rfl

/-- **The round trip.**  The reader finds the names and values that were written. -/
theorem parse_print (lossy : List UInt8 → String) (pairs : List (String × String)) :
    parse lossy (print pairs) = pairs := by
  rw [parse, print, String.toList_ofList, if_neg (head?_print pairs)]
  cases pairs with
  | nil => rfl
  | cons pair rest =>
    have hsplit : (['&'].intercalate ((pair :: rest).map writePair)).splitOn '&' =
        (pair :: rest).map writePair := by
      refine List.splitOn_intercalate '&' (fun cs hcs hamp => ?_) (by simp)
      obtain ⟨p, -, rfl⟩ := List.mem_map.1 hcs
      exact (writePair_separates hamp).1 rfl
    have hkept : ((pair :: rest).map writePair).filter (· ≠ []) =
        (pair :: rest).map writePair := by
      rw [List.filter_eq_self]
      intro cs hcs
      obtain ⟨p, -, rfl⟩ := List.mem_map.1 hcs
      exact decide_eq_true (writePair_ne_nil p)
    simp only [hsplit, hkept, List.map_map]
    exact List.map_id'' (readPair_writePair lossy) _

/-- Different lists are written differently. -/
theorem print_injective : Function.Injective print := by
  intro pairs others h
  rw [← parse_print (fun _ => "") pairs, h, parse_print]

end FormUrlEncoded
