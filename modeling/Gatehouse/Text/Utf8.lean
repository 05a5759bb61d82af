/-!
# UTF-8

Bytes come from the network and from decoders, so they need not be text. One
reader cuts a byte list into pieces, each a character or a fault: a fault is the
longest start of a character that its next byte contradicts, or a single byte
that can start none. Two readings follow from the pieces. The strict one accepts
when there is no fault, and `strict_eq_some_iff` says that it inverts the writer.
The lenient one never fails and shows U+FFFD for each fault.
-/

namespace Gatehouse.Text.Utf8

/-- The bytes of a text. -/
def write (cs : List Char) : List UInt8 := cs.flatMap String.utf8EncodeChar

/-- The bytes of a string. -/
def ofString (s : String) : List UInt8 := write s.toList

/-- The character that the bytes start with, if they start with one. -/
def first? (bytes : List UInt8) : Option Char := (bytes.take 4).toByteArray.utf8DecodeChar? 0

/-- Whether `second` may follow `lead` in a character of three or four bytes. -/
def continuesLead (lead second : UInt8) : Bool :=
  if lead == 0xE0 then 0xA0 ≤ second && second ≤ 0xBF
  else if lead == 0xED then 0x80 ≤ second && second ≤ 0x9F
  else if lead == 0xF0 then 0x90 ≤ second && second ≤ 0xBF
  else if lead == 0xF4 then 0x80 ≤ second && second ≤ 0x8F
  else 0xE1 ≤ lead && lead ≤ 0xF3 && 0x80 ≤ second && second ≤ 0xBF

/-- How many bytes make up the fault that `bytes` start with, when they start with no character. -/
def faultLength : List UInt8 → Nat
  | lead :: second :: rest =>
    if continuesLead lead second then
      match rest with
      | third :: _ => if lead ≥ 0xF0 && 0x80 ≤ third && third ≤ 0xBF then 3 else 2
      | [] => 2
    else 1
  | _ => 1

/-- The pieces of `bytes` once `skip` more bytes of the piece before them are passed over. -/
def piecesAfter : Nat → List UInt8 → List (Option Char)
  | _, [] => []
  | skip + 1, _ :: rest => piecesAfter skip rest
  | 0, byte :: rest =>
    match first? (byte :: rest) with
    | some c => some c :: piecesAfter (c.utf8Size - 1) rest
    | none => none :: piecesAfter (faultLength (byte :: rest) - 1) rest

/-- The characters and faults that `bytes` are made of. -/
def pieces (bytes : List UInt8) : List (Option Char) := piecesAfter 0 bytes

/-- The text that `bytes` spell, if they are free of faults. -/
def strict? (bytes : List UInt8) : Option (List Char) := (pieces bytes).mapM id

/-- The text of `bytes`, with U+FFFD for each fault. -/
def lenient (bytes : List UInt8) : List Char := (pieces bytes).map (fun piece => piece.getD '\uFFFD')

/-! ## Reading inverts writing -/

theorem write_cons (c : Char) (cs : List Char) :
    write (c :: cs) = String.utf8EncodeChar c ++ write cs := rfl

theorem first?_append (c : Char) (rest : List UInt8) :
    first? (String.utf8EncodeChar c ++ rest) = some c := by
  have hlen : (String.utf8EncodeChar c).length ≤ 4 := by
    rw [String.length_utf8EncodeChar]; exact c.utf8Size_le_four
  have htake : (String.utf8EncodeChar c ++ rest).take 4 =
      String.utf8EncodeChar c ++ rest.take (4 - (String.utf8EncodeChar c).length) := by
    rw [List.take_append, List.take_of_length_le hlen]
  rw [first?, htake, List.toByteArray_append]
  have := List.utf8DecodeChar?_utf8Encode_singleton_append
    (b := (rest.take (4 - (String.utf8EncodeChar c).length)).toByteArray) (c := c)
  simpa [List.utf8Encode] using this

theorem piecesAfter_append (skip rest : List UInt8) :
    piecesAfter skip.length (skip ++ rest) = piecesAfter 0 rest := by
  induction skip with
  | nil => rfl
  | cons b skip ih => simpa [piecesAfter] using ih

theorem pieces_write (cs : List Char) : pieces (write cs) = cs.map some := by
  induction cs with
  | nil => rfl
  | cons c cs ih =>
    have hc := first?_append c (write cs)
    have hlen := String.length_utf8EncodeChar c
    rw [write_cons]
    cases hb : String.utf8EncodeChar c with
    | nil => exact absurd hb String.utf8EncodeChar_ne_nil
    | cons b bs =>
      rw [hb] at hc hlen
      have hsize : c.utf8Size - 1 = bs.length := by simp at hlen; omega
      simp only [List.cons_append] at hc
      simp only [pieces, List.cons_append, piecesAfter, hc, hsize, piecesAfter_append,
        List.map_cons, List.cons.injEq, true_and]
      exact ih

theorem eq_of_first? {bytes : List UInt8} {c : Char} (h : first? bytes = some c) :
    ∃ rest, bytes = String.utf8EncodeChar c ++ rest := by
  obtain ⟨l, hl⟩ := ByteArray.exists_of_utf8DecodeChar?_eq_some h
  have hd := congrArg (fun b => b.data.toList) hl
  simp at hd
  exact ⟨l.data.toList ++ bytes.drop 4, by
    rw [← List.append_assoc, ← hd, List.take_append_drop]⟩

theorem write_of_pieces {bytes : List UInt8} {cs : List Char}
    (h : pieces bytes = cs.map some) : bytes = write cs := by
  induction cs generalizing bytes with
  | nil =>
    cases bytes with
    | nil => rfl
    | cons b bs =>
      simp only [pieces, piecesAfter] at h
      split at h <;> simp at h
  | cons c cs ih =>
    cases bytes with
    | nil => simp [pieces, piecesAfter] at h
    | cons b bs =>
      simp only [pieces, piecesAfter] at h
      split at h
      · -- the bytes start with the character `d`; what follows it is read next
        rename_i d hd
        simp only [List.map_cons, List.cons.injEq, Option.some.injEq] at h
        obtain ⟨rfl, h⟩ := h
        obtain ⟨rest, hrest⟩ := eq_of_first? hd
        have hlen := String.length_utf8EncodeChar d
        cases he : String.utf8EncodeChar d with
        | nil => exact absurd he String.utf8EncodeChar_ne_nil
        | cons e es =>
          rw [he] at hrest hlen
          obtain ⟨rfl, rfl⟩ : b = e ∧ bs = es ++ rest := by simpa using hrest
          have hsize : d.utf8Size - 1 = es.length := by simp at hlen; omega
          rw [hsize, piecesAfter_append] at h
          rw [write_cons, he, ← ih h, List.cons_append]
      · simp at h

theorem mapM_id_eq_some_iff {xs : List (Option Char)} {cs : List Char} :
    xs.mapM id = some cs ↔ xs = cs.map some := by
  induction xs generalizing cs with
  | nil => cases cs <;> simp
  | cons x xs ih =>
    cases x with
    | none => cases cs <;> simp
    | some c =>
      cases cs with
      | nil => cases h : xs.mapM id <;> simp [h]
      | cons d ds =>
        rw [List.map_cons, List.cons.injEq, ← ih]
        cases h : xs.mapM id <;> simp [h]

/-- Bytes are read strictly as the text that is written as them, and as no other. -/
theorem strict_eq_some_iff {bytes : List UInt8} {cs : List Char} :
    strict? bytes = some cs ↔ bytes = write cs := by
  rw [strict?, mapM_id_eq_some_iff]
  exact ⟨write_of_pieces, fun h => h ▸ pieces_write cs⟩

/-- A text survives lenient reading. -/
theorem lenient_write (cs : List Char) : lenient (write cs) = cs := by
  rw [lenient, pieces_write, List.map_map]
  exact List.map_id cs

end Gatehouse.Text.Utf8
